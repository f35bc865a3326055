import MysqlRs.Pool.Capacity

namespace MySQL.Pool

variable {κ : Type} [Link κ] {config : PoolConfig} {s s' : State κ} {label : Label κ} {labels : List (Label κ)}

-- A connection for which the time that is compared with `max_lifetime` is not shorter than its age, or that
-- will be idle for too long before it becomes too old.
def IdleConnection.Tracked (config : PoolConfig) (c : IdleConnection κ) : Prop :=
  c.createdAt ≤ c.conn.established ∨ c.idleSince + config.maxIdleTime ≤ c.conn.established + config.maxLifetime

theorem IdleConnection.Tracked.young {c : IdleConnection κ} {now : Nat} (ht : c.Tracked config)
    (hh : isHealthy config now c) : now - c.conn.established < config.maxLifetime := by
  simp only [isHealthy, Bool.if_false_left, Bool.and_eq_true, Bool.not_eq_true', decide_eq_false_iff_not] at hh
  have ⟨_, hl, hi, _⟩ := hh
  cases ht <;> omega

-- Any other connection is healthy at some time when it is too old.
theorem IdleConnection.tracked_iff {c : IdleConnection κ} (ho : Link.isOpen c.conn.conn)
    (hi : 0 < config.maxIdleTime) (hl : c.idleSince - c.createdAt < config.maxLifetime) :
    c.Tracked config ↔
      ∀ now, c.idleSince ≤ now → isHealthy config now c → now - c.conn.established < config.maxLifetime := by
  refine ⟨fun ht now _ hh => ht.young hh, fun h => ?_⟩
  by_contra ht
  have ⟨hc, he⟩ := not_or.mp ht
  have hh : isHealthy config (max c.idleSince (c.conn.established + config.maxLifetime)) c := by
    simp only [isHealthy, ho, Bool.not_true, Bool.false_eq_true, if_false]
    rw [if_neg (by omega), if_neg (by omega)]
  have := h _ (Nat.le_max_left _ _) hh
  omega

omit [Link κ] in
theorem connectIdle_tracked {connects : List (Except Error κ × Nat)} {idle idle' : List (IdleConnection κ)}
    (h : connectIdle idle connects = .ok idle') (ht : ∀ c ∈ idle, c.Tracked config) :
    ∀ c ∈ idle', c.Tracked config := by
  induction connects generalizing idle
  case nil => cases h; exact ht
  case cons c connects ih =>
    obtain ⟨result, t⟩ := c
    cases result
    case error => exact nomatch h
    case ok    => exact ih h (List.forall_mem_cons.mpr ⟨.inl (Nat.le_refl t), ht⟩)

namespace State

-- Of what is handed out, nothing is too old.
def LendsYoung (config : PoolConfig) (s : State κ) : Prop :=
  ∀ conn, (handleAcquire config s.now s.manager).1 = .reply (.ok conn) →
    s.now - conn.established < config.maxLifetime

-- What a step makes idle.
structure Stores (config : PoolConfig) (s : State κ) (label : Label κ) (c : IdleConnection κ) : Prop where
  back     : ∃ conn k, label = .rolledBack (.ok k) ∧ s.phase = .rollingBack conn c.createdAt ∧
    c.conn = ⟨k, conn.established⟩
  since    : c.idleSince = s.now
  lifetime : s.now - c.createdAt < config.maxLifetime

omit [Link κ] in
theorem reply_manager (id : Nat) (result : Except Error (Dated κ)) (s : State κ) :
    (s.reply id result).manager = s.manager := by
  rw [reply]
  split <;> rfl

theorem receive_idle {request : PoolRequest κ} {c : IdleConnection κ}
    (h : c ∈ (s.receive config request).manager.idle) : c ∈ s.manager.idle := by
  cases request
  case acquire id =>
    have ha := handleAcquire_acquired config s.now s.manager
    simp only [receive] at h
    generalize handleAcquire config s.now s.manager = x at ha h
    obtain ⟨answer, manager⟩ := x
    cases ha
    case idle hs _  =>
      rw [reply_manager] at h
      exact hs.subset (List.mem_cons_of_mem _ h)
    case connect    => cases h
    case exhausted  =>
      rw [reply_manager] at h
      cases h
  case return_ conn createdAt =>
    simp only [receive] at h
    split at h <;> exact h
  case close => exact h

theorem step_idle {c : IdleConnection κ} (h : s.step config label = some s') (hc : c ∈ s'.manager.idle) :
    c ∈ s.manager.idle ∨ s.Stores config label c := by
  cases step_stepped h
  case receive queue _ _ => exact .inl (receive_idle (s := { s with queue }) hc)
  case connected => exact .inl (by rwa [reply_manager] at hc)
  case rolledBack conn createdAt k hp =>
    simp only [returnIdle] at hc
    split at hc
    case isTrue  => exact .inl hc
    case isFalse hl =>
      cases hc
      case head   => exact .inr ⟨⟨conn, k, rfl, hp, rfl⟩, rfl, Nat.lt_of_not_le hl⟩
      case tail h => exact .inl h
  case tick      => exact .inl (List.mem_of_mem_filter hc)
  case closeIdle => exact .inl ((List.dropLast_sublist _).subset hc)
  case drop      =>
    rw [dropLent] at hc
    split at hc <;> exact .inl hc
  all_goals exact .inl hc

theorem lendsYoung_of_tracked (h : ∀ c ∈ s.manager.idle, c.Tracked config) : s.LendsYoung config := by
  intro conn hc
  have ha := handleAcquire_acquired config s.now s.manager
  rw [hc] at ha
  generalize (handleAcquire config s.now s.manager).2 = manager at ha
  cases ha
  case idle c _ hs hh => exact (h c (hs.subset List.mem_cons_self)).young hh

end State

omit [Link κ] in
theorem Started.tracked (hs : Started config s) : ∀ c ∈ s.manager.idle, c.Tracked config := by
  have ⟨manager, connects, now, h, _, _, hs⟩ := hs.initial
  obtain rfl := hs
  exact connectIdle_tracked (start_ok.mp h).right.right.right (List.forall_mem_nil _)

-- What is stored next is tracked.
def State.Tracks (config : PoolConfig) (s : State κ) : Label κ → Prop
  | .rolledBack (.ok _) => ∀ conn createdAt, s.phase = .rollingBack conn createdAt →
    s.now - createdAt < config.maxLifetime →
    createdAt ≤ conn.established ∨ s.now + config.maxIdleTime ≤ conn.established + config.maxLifetime
  | _                   => True

omit [Link κ] in
theorem State.Stores.tracked {c : IdleConnection κ} (h : s.Stores config label c) (ht : s.Tracks config label) :
    c.Tracked config := by
  have ⟨⟨conn, k, hl, hp, hc⟩, hs, hm⟩ := h
  obtain rfl := hl
  rw [IdleConnection.Tracked, hs, hc]
  exact ht conn c.createdAt hp hm

-- As long as what is stored is tracked, nothing is handed out that is too old.
theorem lendsYoung (hs : Started config s) (ht : Along (State.step config) (State.Tracks config) s labels)
    (hr : Runs (State.step config) s labels s') : s'.LendsYoung config := by
  refine State.lendsYoung_of_tracked (ht.invariant (I := fun s => ∀ c ∈ s.manager.idle, c.Tracked config) ?_ hs.tracked hr)
  intro s label s' hi hp h c hc
  cases State.step_idle h hc
  case inl hc => exact hi c hc
  case inr hc => exact hc.tracked hp

section Examples

abbrev giveBack (id : Nat) : List (Label Tokio.Connection) :=
  [.drop id, .receive, .rolledBack (.ok quiet)]

theorem quick_lendsYoung :
    ∃ s', Runs (State.step single) empty (borrow ++ giveBack 0) s' ∧
      (handleAcquire single s'.now s'.manager).1 = .reply (.ok ⟨quiet, 0⟩) ∧ s'.LendsYoung single :=
  have hr := .cons rfl <| .cons rfl <| .cons rfl <| .cons rfl <| .cons rfl <| .cons rfl <| .cons rfl <| .cons rfl <|
    .nil _
  have ht := .cons rfl trivial <| .cons rfl trivial <| .cons rfl trivial <| .cons rfl trivial <| .cons rfl trivial <|
    .cons rfl trivial <| .cons rfl trivial <| .cons rfl (fun _ _ h _ => .inl (by cases h; exact Nat.le_refl 0)) trivial
  ⟨_, hr, rfl, lendsYoung empty_started ht hr⟩

-- A connection that is lent again after 500 s, returned after 1500 s and handed out again after 1900 s.
abbrev again : List (Label Tokio.Connection) :=
  borrow ++ giveBack 0 ++ [.elapse (fromSecs 500), .reserve, .sendAcquire, .receive, .collect 1, .elapse (fromSecs 1000)] ++
    giveBack 1 ++ [.elapse (fromSecs 400), .reserve, .sendAcquire, .receive]

theorem again_tooOld :
    Started single empty ∧ ∃ s' conn, Runs (State.step single) empty again s' ∧ s'.replies = [(2, .ok conn)] ∧
      s'.now - conn.established = fromSecs 1900 ∧ single.maxLifetime = fromSecs 1800 :=
  ⟨empty_started, _, ⟨quiet, 0⟩, .cons rfl <| .cons rfl <| .cons rfl <| .cons rfl <| .cons rfl <| .cons rfl <|
    .cons rfl <| .cons rfl <| .cons rfl <| .cons rfl <| .cons rfl <| .cons rfl <| .cons rfl <| .cons rfl <|
    .cons rfl <| .cons rfl <| .cons rfl <| .cons rfl <| .cons rfl <| .cons rfl <| .cons rfl <| .nil _, rfl, rfl, rfl⟩

end Examples
end MySQL.Pool
