import MysqlRs.Library.Runs
import MysqlRs.Pool.Manager

namespace MySQL.Pool

-- The reply channel of a request is known by a number.
inductive PoolRequest (κ : Type)
  | acquire (reply : Nat)
  | return_ (conn : Dated κ) (createdAt : Nat)
  | close

structure PooledConnection (κ : Type) where
  conn      : Dated κ
  createdAt : Nat

-- Where the manager task waits.
inductive Phase (κ : Type)
  | receiving
  | connecting (reply : Nat)
  | rollingBack (conn : Dated κ) (createdAt : Nat)
  | closing
  | gone

-- `reserved` is the number of senders that have been given room in the queue and have not used it yet.
-- `waiting` are the reply channels whose acquirers have not gone, and `replies` is what those channels
-- hold. A lent connection is known by the number of its reply channel.
structure State (κ : Type) where
  now      : Nat
  manager  : PoolManager κ
  phase    : Phase κ
  queue    : List (PoolRequest κ)
  reserved : Nat
  issued   : Nat
  waiting  : List Nat
  replies  : List (Nat × Except Error (Dated κ))
  lent     : List (Nat × PooledConnection κ)

-- What can happen next. The results of connecting and of rolling back, and what a borrower makes of its
-- connection, are up to the environment.
inductive Label (κ : Type)
  | elapse (duration : Nat)
  -- A sender is given room in the queue, and does not use it, or uses it to send a request.
  | reserve
  | release
  | sendAcquire
  | sendClose
  -- The manager takes a request, and goes on.
  | receive
  | connected (result : Except Error κ)
  | rolledBack (result : Except Error κ)
  | tick
  | closeIdle
  | stop
  -- An acquirer takes its reply, or it times out or is dropped.
  | collect (id : Nat)
  | giveUp (id : Nat)
  -- What becomes of a lent connection.
  | use (id : Nat) (conn : κ)
  | discard (id : Nat)
  | drop (id : Nat)

variable {κ : Type}

def lookup {α : Type} (id : Nat) (xs : List (Nat × α)) : Option α :=
  (xs.find? (·.1 = id)).map (·.2)

def remove {α : Type} (id : Nat) (xs : List (Nat × α)) : List (Nat × α) :=
  xs.eraseP (·.1 = id)

namespace State

-- The pool that `start` gives.
def initial (manager : PoolManager κ) (now : Nat) : State κ where
  now      := now
  manager  := manager
  phase    := .receiving
  queue    := []
  reserved := 0
  issued   := 0
  waiting  := []
  replies  := []
  lent     := []

def isGone (s : State κ) : Bool :=
  match s.phase with
  | .gone => true
  | _     => false

-- The queue has room for as many requests as `start` asks for.
def hasRoom (config : PoolConfig) (s : State κ) : Bool :=
  !s.isGone && s.queue.length + s.reserved < config.maxSize * 2

-- A reply is lost where the acquirer has gone.
def reply (id : Nat) (result : Except Error (Dated κ)) (s : State κ) : State κ :=
  if id ∈ s.waiting then { s with replies := s.replies ++ [(id, result)] } else s

def send (request : PoolRequest κ) (s : State κ) : State κ :=
  { s with queue := s.queue ++ [request] }

variable [Link κ] (config : PoolConfig)

-- The manager takes a request from the queue.
def receive (s : State κ) : PoolRequest κ → State κ
  | .acquire id              =>
    match handleAcquire config s.now s.manager with
    | (.reply result, manager) => { s with manager }.reply id result
    | (.connect, manager)      => { s with manager, phase := .connecting id }
  | .return_ conn createdAt  =>
    let manager := handleReturn s.manager
    if Link.isOpen conn.conn then { s with manager, phase := .rollingBack conn createdAt } else { s with manager }
  | .close                   => { s with phase := .closing }

-- A dropped connection is returned if it is open and there is room in the queue.
def dropLent (pooled : PooledConnection κ) (s : State κ) : State κ :=
  if Link.isOpen pooled.conn.conn && s.hasRoom config then s.send (.return_ pooled.conn pooled.createdAt) else s

def step (s : State κ) : Label κ → Option (State κ)
  | .elapse duration => some { s with now := s.now + duration }
  | .reserve         => if s.hasRoom config then some { s with reserved := s.reserved + 1 } else none
  | .release         => if 0 < s.reserved then some { s with reserved := s.reserved - 1 } else none
  | .sendAcquire     =>
    if 0 < s.reserved ∧ !s.isGone then
      some <| { s with
        reserved := s.reserved - 1
        issued := s.issued + 1
        waiting := s.waiting ++ [s.issued]
      }.send (.acquire s.issued)
    else none
  | .sendClose       =>
    if 0 < s.reserved ∧ !s.isGone then some <| { s with reserved := s.reserved - 1 }.send .close else none
  | .receive         =>
    match s.phase, s.queue with
    | .receiving, request :: queue => some ({ s with queue }.receive config request)
    | _, _                         => none
  | .connected result =>
    match s.phase with
    | .connecting id => some ({ s with phase := .receiving }.reply id (result.map (⟨·, s.now⟩)))
    | _              => none
  | .rolledBack result =>
    match s.phase, result with
    | .rollingBack conn createdAt, .ok k =>
      some {
        s with
        phase := .receiving
        manager := returnIdle config s.now ⟨k, conn.established⟩ createdAt s.manager
      }
    | .rollingBack _ _, .error _ => some { s with phase := .receiving }
    | _, _                       => none
  | .tick            =>
    match s.phase with
    | .receiving => some { s with manager := evictExpired config s.now s.manager }
    | _          => none
  | .closeIdle       =>
    match s.phase, s.manager.idle with
    | .closing, _ :: _ => some { s with manager := { s.manager with idle := s.manager.idle.dropLast } }
    | _, _             => none
  | .stop            =>
    match s.phase, s.manager.idle with
    | .closing, [] => some { s with phase := .gone, queue := [], reserved := 0 }
    | _, _         => none
  | .collect id      => do
    let result ← lookup id s.replies
    let s := { s with replies := remove id s.replies, waiting := s.waiting.erase id }
    match result with
    | .ok conn  => some { s with lent := s.lent ++ [(id, ⟨conn, s.now⟩)] }
    | .error _  => some s
  | .giveUp id       =>
    if id ∈ s.waiting then some { s with replies := remove id s.replies, waiting := s.waiting.erase id } else none
  | .use id k        => do
    let _ ← lookup id s.lent
    some {
      s with
      lent := s.lent.map fun (i, p) => if i = id then (i, ⟨⟨k, p.conn.established⟩, p.createdAt⟩) else (i, p)
    }
  | .discard id      => do
    let _ ← lookup id s.lent
    some { s with lent := remove id s.lent }
  | .drop id         => do
    let pooled ← lookup id s.lent
    some ({ s with lent := remove id s.lent }.dropLent config pooled)

-- What a step can do.
inductive Stepped (config : PoolConfig) (s : State κ) : Label κ → State κ → Prop
  | elapse {d} : Stepped config s (.elapse d) { s with now := s.now + d }
  | reserve : s.hasRoom config → Stepped config s .reserve { s with reserved := s.reserved + 1 }
  | release : 0 < s.reserved → Stepped config s .release { s with reserved := s.reserved - 1 }
  | sendAcquire : 0 < s.reserved → s.isGone = false → Stepped config s .sendAcquire ({
      s with
      reserved := s.reserved - 1
      issued := s.issued + 1
      waiting := s.waiting ++ [s.issued]
    }.send (.acquire s.issued))
  | sendClose : 0 < s.reserved → s.isGone = false →
    Stepped config s .sendClose ({ s with reserved := s.reserved - 1 }.send .close)
  | receive {request queue} : s.phase = .receiving → s.queue = request :: queue →
    Stepped config s .receive ({ s with queue }.receive config request)
  | connected {id result} : s.phase = .connecting id →
    Stepped config s (.connected result) ({ s with phase := .receiving }.reply id (result.map (⟨·, s.now⟩)))
  | rolledBack {conn createdAt k} : s.phase = .rollingBack conn createdAt → Stepped config s (.rolledBack (.ok k)) {
      s with
      phase := .receiving
      manager := returnIdle config s.now ⟨k, conn.established⟩ createdAt s.manager
    }
  | notRolledBack {conn createdAt e} : s.phase = .rollingBack conn createdAt →
    Stepped config s (.rolledBack (.error e)) { s with phase := .receiving }
  | tick : s.phase = .receiving → Stepped config s .tick { s with manager := evictExpired config s.now s.manager }
  | closeIdle : s.phase = .closing → s.manager.idle ≠ [] →
    Stepped config s .closeIdle { s with manager := { s.manager with idle := s.manager.idle.dropLast } }
  | stop : s.phase = .closing → s.manager.idle = [] →
    Stepped config s .stop { s with phase := .gone, queue := [], reserved := 0 }
  | collect {id conn} : lookup id s.replies = some (.ok conn) → Stepped config s (.collect id) {
      s with
      replies := remove id s.replies
      waiting := s.waiting.erase id
      lent := s.lent ++ [(id, ⟨conn, s.now⟩)]
    }
  | refused {id e} : lookup id s.replies = some (.error e) →
    Stepped config s (.collect id) { s with replies := remove id s.replies, waiting := s.waiting.erase id }
  | giveUp {id} : id ∈ s.waiting →
    Stepped config s (.giveUp id) { s with replies := remove id s.replies, waiting := s.waiting.erase id }
  | use {id k p} : lookup id s.lent = some p → Stepped config s (.use id k) {
      s with
      lent := s.lent.map fun (i, p) => if i = id then (i, ⟨⟨k, p.conn.established⟩, p.createdAt⟩) else (i, p)
    }
  | discard {id p} : lookup id s.lent = some p → Stepped config s (.discard id) { s with lent := remove id s.lent }
  | drop {id p} : lookup id s.lent = some p →
    Stepped config s (.drop id) ({ s with lent := remove id s.lent }.dropLent config p)

variable {config} {s s' : State κ} {label : Label κ}

theorem step_stepped (h : s.step config label = some s') : s.Stepped config label s' := by
  cases label
  case elapse d => cases h; exact .elapse
  case reserve =>
    have ⟨hr, h⟩ := Option.ite_none_right_eq_some.mp h
    cases h
    exact .reserve hr
  case release =>
    have ⟨hr, h⟩ := Option.ite_none_right_eq_some.mp h
    cases h
    exact .release hr
  case sendAcquire =>
    have ⟨hr, h⟩ := Option.ite_none_right_eq_some.mp h
    cases h
    exact .sendAcquire hr.left (by simpa using hr.right)
  case sendClose =>
    have ⟨hr, h⟩ := Option.ite_none_right_eq_some.mp h
    cases h
    exact .sendClose hr.left (by simpa using hr.right)
  case receive =>
    simp only [step] at h
    split at h
    case h_1 hp hq => cases h; exact .receive hp hq
    case h_2       => exact nomatch h
  case connected result =>
    simp only [step] at h
    split at h
    case h_1 hp => cases h; exact .connected hp
    case h_2    => exact nomatch h
  case rolledBack result =>
    simp only [step] at h
    split at h
    case h_1 => cases h; exact .rolledBack ‹_›
    case h_2 => cases h; exact .notRolledBack ‹_›
    case h_3 => exact nomatch h
  case tick =>
    simp only [step] at h
    split at h
    case h_1 hp => cases h; exact .tick hp
    case h_2    => exact nomatch h
  case closeIdle =>
    simp only [step] at h
    split at h
    case h_1 hp hi => cases h; exact .closeIdle hp (hi ▸ List.cons_ne_nil _ _)
    case h_2       => exact nomatch h
  case stop =>
    simp only [step] at h
    split at h
    case h_1 hp hi => cases h; exact .stop hp hi
    case h_2       => exact nomatch h
  case collect id =>
    have ⟨result, hl, h⟩ := Option.bind_eq_some_iff.mp h
    cases result
    case error e => cases h; exact .refused hl
    case ok conn => cases h; exact .collect hl
  case giveUp id =>
    have ⟨hw, h⟩ := Option.ite_none_right_eq_some.mp h
    cases h
    exact .giveUp hw
  case use id k =>
    have ⟨_, hl, h⟩ := Option.bind_eq_some_iff.mp h
    cases h
    exact .use hl
  case discard id =>
    have ⟨_, hl, h⟩ := Option.bind_eq_some_iff.mp h
    cases h
    exact .discard hl
  case drop id =>
    have ⟨_, hl, h⟩ := Option.bind_eq_some_iff.mp h
    cases h
    exact .drop hl

end State

-- A pool that `Pool::start` has set up: its attempts to connect in advance came to their ends by now.
structure Started (config : PoolConfig) (s : State κ) : Prop where
  intro ::
  initial : ∃ manager connects now, start config connects = .ok manager ∧ connects.length = config.minIdle ∧
    (∀ c ∈ connects, c.2 ≤ now) ∧ s = .initial manager now

end MySQL.Pool
