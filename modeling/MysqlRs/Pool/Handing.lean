import MysqlRs.Pool.Queueing

namespace MySQL.Pool

variable {κ : Type} {id : Nat}

theorem lookup_map {α : Type} {xs : List (Nat × α)} {x : α} {f : Nat × α → Nat × α} (hf : ∀ x, (f x).1 = x.1)
    (h : lookup id xs = some x) : lookup id (xs.map f) = some (f (id, x)).2 := by
  have ⟨⟨i, x'⟩, hx, he⟩ := Option.map_eq_some_iff.mp h
  obtain rfl : x' = x := he
  have hi := List.find?_some hx
  obtain rfl : i = id := of_decide_eq_true hi
  rw [lookup, List.find?_map, Function.comp_def]
  simp only [hf, hx, Option.map_some]

theorem lookup_append_self {α : Type} {xs : List (Nat × α)} {x : α} (h : id ∉ xs.map (·.1)) :
    lookup id (xs ++ [(id, x)]) = some x := by
  have hn : xs.find? (·.1 = id) = none := by
    refine List.find?_eq_none.mpr fun y hy he => h (List.mem_map.mpr ⟨y, hy, ?_⟩)
    exact of_decide_eq_true he
  rw [lookup, List.find?_append, hn]
  simp

namespace State

-- What an acquirer finds in its channel.
def HandsOut (s : State κ) (k : κ) : Prop :=
  ∃ id conn, lookup id s.replies = some (.ok conn) ∧ conn.conn = k

-- The manager waits, and nobody has asked for anything.
structure AtRest (s : State κ) : Prop where
  receiving : s.phase = .receiving
  queue     : s.queue = []
  reserved  : s.reserved = 0

variable [Link κ] {config : PoolConfig} {s : State κ} {pooled : PooledConnection κ} {k k' : κ}

omit [Link κ] in
theorem AtRest.hasRoom (hr : s.AtRest) (hm : 0 < config.maxSize) : s.hasRoom config = true := by
  simp [State.hasRoom, isGone, hr.receiving, hr.queue, hr.reserved, hm]

-- What is lent when a borrower has made `k` of its connection.
def usedAs (id : Nat) (k : κ) (s : State κ) : List (Nat × PooledConnection κ) :=
  s.lent.map fun (i, p) => if i = id then (i, ⟨⟨k, p.conn.established⟩, p.createdAt⟩) else (i, p)

omit [Link κ] in
theorem lookup_usedAs (hl : lookup id s.lent = some pooled) (k : κ) :
    lookup id (s.usedAs id k) = some ⟨⟨k, pooled.conn.established⟩, pooled.createdAt⟩ := by
  have same (x : Nat × PooledConnection κ) :
      (if x.1 = id then (x.1, ⟨⟨k, x.2.conn.established⟩, x.2.createdAt⟩) else (x.1, x.2)).1 = x.1 := by
    split
    all_goals rfl
  rw [usedAs, lookup_map same hl, if_pos rfl]

variable (config) in
-- A connection that is dropped while the manager waits is rolled back next.
theorem AtRest.drop (hr : s.AtRest) (hm : 0 < config.maxSize) (hl : lookup id s.lent = some pooled)
    (ho : Link.isOpen k) :
    Runs (State.step config) s [.use id k, .drop id, .receive] {
      s with
      manager := handleReturn s.manager
      phase   := .rollingBack ⟨k, pooled.conn.established⟩ pooled.createdAt
      lent    := remove id (s.usedAs id k)
    } := by
  have use : s.step config (.use id k) = some { s with lent := s.usedAs id k } := by
    simp only [State.step, hl, Option.bind_some, bind]
    rfl
  have drop : State.step config { s with lent := s.usedAs id k } (.drop id) = some {
      s with
      queue := [.return_ ⟨k, pooled.conn.established⟩ pooled.createdAt]
      lent  := remove id (s.usedAs id k)
    } := by
    have room : ({ s with lent := remove id (s.usedAs id k) } : State κ).hasRoom config = true := hr.hasRoom hm
    simp only [State.step, lookup_usedAs hl, Option.bind_some, bind, dropLent, ho, room, Bool.and_true, if_true, send]
    rw [hr.queue]
    rfl
  have receive : State.step config {
      s with
      queue := [.return_ ⟨k, pooled.conn.established⟩ pooled.createdAt]
      lent  := remove id (s.usedAs id k)
    } .receive = some {
      s with
      manager := handleReturn s.manager
      phase   := .rollingBack ⟨k, pooled.conn.established⟩ pooled.createdAt
      lent    := remove id (s.usedAs id k)
    } := by
    simp only [State.step, hr.receiving, State.receive, ho, if_true, hr.queue]
  exact .cons use (.cons drop (.cons receive (.nil _)))

omit [Link κ] in
theorem Queues.fresh (h : s.Queues) : s.issued ∉ s.replies.map (·.1) := by
  intro hm
  have hlt := h.issued s.issued (List.mem_append_left _ hm)
  exact Nat.lt_irrefl _ hlt

variable (config) in
-- It is handed out to whoever asks for a connection then.
theorem handsOut_next (hq : s.Queues) {conn : Dated κ} {createdAt : Nat} (hp : s.phase = .rollingBack conn createdAt)
    (hn : s.queue = []) (hv : s.reserved = 0) (hm : 0 < config.maxSize) (hi : 0 < config.maxIdleTime)
    (ha : s.now - createdAt < config.maxLifetime) (ho : Link.isOpen k') :
    ∃ s', Runs (State.step config) s [.rolledBack (.ok k'), .reserve, .sendAcquire, .receive] s' ∧ s'.HandsOut k' := by
  obtain ⟨now, manager, phase, queue, reserved, issued, waiting, replies, lent⟩ := s
  simp only at hp hn hv ha
  subst hp hn hv
  have stored : returnIdle config now ⟨k', conn.established⟩ createdAt manager =
      { manager with idle := ⟨⟨k', conn.established⟩, createdAt, now⟩ :: manager.idle } :=
    if_neg (Nat.not_le_of_lt ha)
  have healthy : isHealthy config now (⟨⟨k', conn.established⟩, createdAt, now⟩ : IdleConnection κ) = true := by
    simp [isHealthy, ho, ha, Nat.ne_of_gt hi]
  have room : 0 < config.maxSize * 2 := Nat.mul_pos hm Nat.two_pos
  refine ⟨_, .cons rfl (.cons (if_pos ?_) (.cons rfl (.cons rfl (.nil _)))), ?_⟩
  · simpa [State.hasRoom, isGone] using room
  · simp only [stored, State.receive, handleAcquire, popHealthy, healthy, if_true, State.reply, send]
    rw [if_pos (List.mem_append_right _ (List.mem_singleton_self _))]
    exact ⟨issued, _, lookup_append_self hq.fresh, rfl⟩

end State
end MySQL.Pool
