import MysqlRs.Pool.Steps

namespace MySQL.Pool

-- The connections of a pool by number: those in the manager, those it believes to be in circulation, those
-- that are, and those that it is rolling back.
@[ext]
structure Ledger where
  idle        : Nat
  active      : Nat
  circulating : Nat
  rolling     : Nat

namespace Ledger

-- What a step can do to the numbers. `n` connections leave circulation without being counted out.
inductive Change (max : Nat) (g : Ledger) : Nat → Ledger → Prop
  | evict {i} : i ≤ g.idle → Change max g 0 { g with idle := i }
  | lend {i} : i < g.idle →
    Change max g 0 { g with idle := i, active := g.active + 1, circulating := g.circulating + 1 }
  | lendLost {i} : i < g.idle → Change max g 1 { g with idle := i, active := g.active + 1 }
  | connect : g.active < max → g.rolling = 0 →
    Change max g 0 { g with idle := 0, active := g.active + 1, circulating := g.circulating + 1 }
  | lose {n} : n ≤ g.circulating → Change max g n { g with circulating := g.circulating - n }
  | back : 0 < g.circulating → Change max g 0 { g with active := g.active - 1, circulating := g.circulating - 1 }
  | rollBack : 0 < g.circulating → Change max g 0 {
      g with
      active := g.active - 1
      circulating := g.circulating - 1
      rolling := g.rolling + 1
    }
  | store : 0 < g.rolling → Change max g 0 { g with idle := g.idle + 1, rolling := g.rolling - 1 }
  | drop : 0 < g.rolling → Change max g 0 { g with rolling := g.rolling - 1 }

-- No connection is in circulation that is not counted, and there is room for all that are.
structure Sound (max : Nat) (g : Ledger) : Prop where
  counted : g.circulating ≤ g.active
  within  : g.idle + g.active + g.rolling ≤ max

variable {max n : Nat} {g g' : Ledger}

theorem Change.same (max : Nat) (g : Ledger) : Change max g 0 g :=
  .evict (Nat.le_refl _)

theorem Change.to {g'' : Ledger} (h : Change max g n g') (hi : g'.idle = g''.idle) (ha : g'.active = g''.active)
    (hc : g'.circulating = g''.circulating) (hr : g'.rolling = g''.rolling) : Change max g n g'' :=
  Ledger.ext hi ha hc hr ▸ h

theorem Change.lost (h : Change max g n g') (hc : g.circulating ≤ g.active) :
    g'.active + g.circulating = g.active + g'.circulating + n := by
  cases h <;> simp only <;> omega

theorem Sound.change (hs : Sound max g) (h : Change max g n g') : Sound max g' := by
  have ⟨hc, hw⟩ := hs
  constructor
  · have := h.lost hc
    omega
  · cases h <;> simp only <;> omega

-- Where all that are counted are in circulation, this stays so as long as none is lost.
theorem Change.exact_iff (h : Change max g n g') (he : g.active = g.circulating) :
    g'.active = g'.circulating ↔ n = 0 := by
  have := h.lost (Nat.le_of_eq he.symm)
  omega

end Ledger

variable {κ : Type}

def PoolRequest.carries : PoolRequest κ → Bool
  | return_ _ _ => true
  | _           => false

def Phase.establishing : Phase κ → Nat
  | .connecting _ => 1
  | _             => 0

def Phase.returning : Phase κ → Nat
  | .rollingBack _ _ => 1
  | _                => 0

namespace State

-- The connections that are lent or on their way in a reply or in a request, and the one that is being
-- established for a reply.
def circulating (s : State κ) : Nat :=
  s.lent.length + s.replies.countP (·.2.isOk) + s.queue.countP (·.carries) + s.phase.establishing

-- The connections of the pool.
def live (s : State κ) : Nat :=
  s.manager.idle.length + s.circulating + s.phase.returning

def ledger (s : State κ) : Ledger where
  idle        := s.manager.idle.length
  active      := s.manager.activeCount
  circulating := s.circulating
  rolling     := s.phase.returning

end State

section Lists

variable {α : Type} {id : Nat} {xs : List (Nat × α)} {x : α}

theorem remove_of_lookup (h : lookup id xs = some x) :
    ∃ ys zs, xs = ys ++ (id, x) :: zs ∧ remove id xs = ys ++ zs := by
  have ⟨⟨i, x'⟩, hf, hx⟩ := Option.map_eq_some_iff.mp h
  have ⟨hi, ys, zs, hxs, hys⟩ := List.find?_eq_some_iff_append.mp hf
  obtain rfl : x' = x := hx
  obtain rfl : i = id := of_decide_eq_true hi
  refine ⟨ys, zs, hxs, ?_⟩
  rw [remove, hxs, List.eraseP_append_right _ (by simpa using hys), List.eraseP_cons_of_pos (by simp)]

theorem remove_of_not_lookup (h : lookup id xs = none) : remove id xs = xs := by
  have hf := Option.map_eq_none_iff.mp h
  exact List.eraseP_of_forall_not (List.find?_eq_none.mp hf)

theorem length_remove (h : lookup id xs = some x) : (remove id xs).length + 1 = xs.length := by
  have ⟨ys, zs, hxs, hr⟩ := remove_of_lookup h
  rw [hr, hxs, List.length_append, List.length_append, List.length_cons, Nat.add_assoc]

theorem countP_remove (p : Nat × α → Bool) (h : lookup id xs = some x) :
    (remove id xs).countP p + (if p (id, x) then 1 else 0) = xs.countP p := by
  have ⟨ys, zs, hxs, hr⟩ := remove_of_lookup h
  rw [hr, hxs, List.countP_append, List.countP_append, List.countP_cons, Nat.add_assoc]

theorem countP_remove_ok {xs : List (Nat × Except Error α)} (h : lookup id xs = some (.ok x)) :
    xs.countP (·.2.isOk) = (remove id xs).countP (·.2.isOk) + 1 :=
  (countP_remove (·.2.isOk) h).symm

theorem countP_remove_error {xs : List (Nat × Except Error α)} {e : Error} (h : lookup id xs = some (.error e)) :
    xs.countP (·.2.isOk) = (remove id xs).countP (·.2.isOk) :=
  (countP_remove (·.2.isOk) h).symm

end Lists

section Handlers

variable [Link κ] {config : PoolConfig} {now : Nat} {manager : PoolManager κ}

-- What `handle_acquire` can come to.
inductive Acquired (config : PoolConfig) (now : Nat) (manager : PoolManager κ) : Answer κ → PoolManager κ → Prop
  | idle {c idle} : c :: idle <:+ manager.idle → isHealthy config now c →
    Acquired config now manager (.reply (.ok c.conn)) ⟨idle, manager.activeCount + 1⟩
  | connect : manager.idle.any (isHealthy config now) = false → manager.activeCount < config.maxSize →
    Acquired config now manager .connect ⟨[], manager.activeCount + 1⟩
  | exhausted : manager.idle.any (isHealthy config now) = false → config.maxSize ≤ manager.activeCount →
    Acquired config now manager (.reply (.error poolExhausted)) ⟨[], manager.activeCount⟩

theorem popHealthy_some {idle rest : List (IdleConnection κ)} {conn : Dated κ}
    (h : popHealthy config now idle = (some conn, rest)) :
    ∃ c, c.conn = conn ∧ c :: rest <:+ idle ∧ isHealthy config now c := by
  induction idle
  case nil            => exact nomatch h
  case cons c idle ih =>
    rw [popHealthy] at h
    split at h
    case isTrue hc =>
      obtain ⟨hconn, rfl⟩ := Prod.mk.inj h
      exact ⟨c, Option.some.inj hconn, List.suffix_refl _, hc⟩
    case isFalse =>
      have ⟨c', hc, hs, hh⟩ := ih h
      exact ⟨c', hc, hs.trans (List.suffix_cons c idle), hh⟩

theorem popHealthy_none {idle rest : List (IdleConnection κ)} (h : popHealthy config now idle = (none, rest)) :
    rest = [] ∧ idle.any (isHealthy config now) = false := by
  induction idle
  case nil            => exact ⟨(Prod.mk.inj h).right.symm, rfl⟩
  case cons c idle ih =>
    rw [popHealthy] at h
    split at h
    case isTrue     => exact nomatch h
    case isFalse hc =>
      have ⟨hr, hi⟩ := ih h
      exact ⟨hr, by rw [List.any_cons, hi, Bool.or_false, Bool.eq_false_iff.mpr hc]⟩

theorem handleAcquire_acquired (config : PoolConfig) (now : Nat) (manager : PoolManager κ) :
    Acquired config now manager (handleAcquire config now manager).1 (handleAcquire config now manager).2 := by
  rw [handleAcquire]
  split
  case h_1 conn idle h =>
    have ⟨c, hc, hs, hh⟩ := popHealthy_some h
    exact hc ▸ .idle hs hh
  case h_2 idle h =>
    obtain ⟨rfl, hi⟩ := popHealthy_none h
    split
    · exact .connect hi ‹_›
    · exact .exhausted hi (Nat.le_of_not_lt ‹_›)

end Handlers

namespace State

variable [Link κ] {config : PoolConfig} {s s' : State κ}

-- Whether a connection leaves circulation in a step without being counted out.
def leaks (config : PoolConfig) (s : State κ) : Label κ → Bool
  | .receive             =>
    match s.queue with
    | .acquire id :: _ => id ∉ s.waiting && s.manager.idle.any (isHealthy config s.now)
    | _                => false
  | .connected (.ok _)    =>
    match s.phase with
    | .connecting id => id ∉ s.waiting
    | _              => false
  | .connected (.error _) => true
  | .giveUp id            =>
    match lookup id s.replies with
    | some result => result.isOk
    | none        => false
  | .discard _            => true
  | .drop id              =>
    match lookup id s.lent with
    | some pooled => !(Link.isOpen pooled.conn.conn && s.hasRoom config)
    | none        => false
  | _                     => false

omit [Link κ] in
-- The numbers of a pool that has replied.
theorem ledger_reply (id : Nat) (result : Except Error (Dated κ)) (s : State κ) :
    (s.reply id result).ledger = {
      s.ledger with
      circulating := s.circulating + if id ∈ s.waiting ∧ result.isOk then 1 else 0
    } := by
  rw [reply]
  split_ifs
  all_goals
    simp_all [ledger, circulating]
    try omega

theorem receive_change {queue : List (PoolRequest κ)} {request : PoolRequest κ} (hp : s.phase = .receiving)
    (hq : s.queue = request :: queue) :
    Ledger.Change config.maxSize s.ledger (s.leaks config .receive).toNat
      ({ s with queue }.receive config request).ledger := by
  have hr : s.ledger.rolling = 0 := by rw [ledger, hp]; rfl
  cases request
  case acquire id =>
    have hc : s.ledger.circulating = s.lent.length + s.replies.countP (·.2.isOk) + queue.countP (·.carries) := by
      simp [ledger, circulating, hp, hq, PoolRequest.carries, Phase.establishing]
    have ha := handleAcquire_acquired config s.now s.manager
    simp only [receive, leaks, hq]
    generalize handleAcquire config s.now s.manager = x at ha ⊢
    obtain ⟨answer, manager⟩ := x
    cases ha
    case idle c idle hs hh =>
      have hl : idle.length < s.ledger.idle := Nat.lt_of_succ_le hs.length_le
      have hi : s.manager.idle.any (isHealthy config s.now) :=
        List.any_eq_true.mpr ⟨c, hs.subset List.mem_cons_self, hh⟩
      simp only [ledger_reply, Except.isOk, Except.toBool, and_true, hi, Bool.and_true]
      by_cases hw : id ∈ s.waiting
      · simp only [hw, not_true, decide_false, if_true, Bool.toNat_false]
        exact (Ledger.Change.lend hl).to rfl rfl (by rw [hc]; simp [circulating, hp, Phase.establishing]) rfl
      · simp only [hw, not_false_eq_true, decide_true, if_false, Bool.toNat_true]
        exact (Ledger.Change.lendLost hl).to rfl rfl (by rw [hc]; simp [circulating, hp, Phase.establishing]) rfl
    case connect hi h =>
      simp only [hi, Bool.and_false, Bool.toNat_false]
      exact (Ledger.Change.connect h hr).to rfl rfl (by rw [hc]; simp [ledger, circulating, Phase.establishing])
        (by simp [ledger, hp, Phase.returning])
    case exhausted hi h =>
      simp only [ledger_reply, Except.isOk, Except.toBool, and_false, Bool.false_eq_true, if_false, hi,
        Bool.and_false, Bool.toNat_false]
      exact (Ledger.Change.evict (Nat.zero_le _)).to rfl rfl (by rw [hc]; simp [circulating, hp, Phase.establishing])
        rfl
  case return_ conn createdAt =>
    have hc : s.ledger.circulating = s.lent.length + s.replies.countP (·.2.isOk) + queue.countP (·.carries) + 1 := by
      simp [ledger, circulating, hp, hq, PoolRequest.carries, Phase.establishing, Nat.add_assoc]
    have h0 : 0 < s.ledger.circulating := Nat.lt_of_lt_of_eq (Nat.succ_pos _) hc.symm
    simp only [receive, leaks, hq, Bool.toNat_false]
    split
    · exact (Ledger.Change.rollBack h0).to rfl rfl (by rw [hc]; simp [ledger, circulating, Phase.establishing])
        (by simp [ledger, hp, Phase.returning])
    · exact (Ledger.Change.back h0).to rfl rfl (by rw [hc]; simp [ledger, circulating, hp, Phase.establishing]) rfl
  case close =>
    have hc : s.ledger.circulating = s.lent.length + s.replies.countP (·.2.isOk) + queue.countP (·.carries) := by
      simp [ledger, circulating, hp, hq, PoolRequest.carries, Phase.establishing]
    simp only [receive, leaks, hq, Bool.toNat_false]
    exact (Ledger.Change.same _ _).to rfl rfl (by rw [hc]; simp [ledger, circulating, Phase.establishing])
      (by simp [ledger, hp, Phase.returning])

omit [Link κ] in
-- One connection less is in circulation.
theorem lose_one {c : Nat} (h : s.ledger.circulating = c + 1) :
    Ledger.Change config.maxSize s.ledger 1 { s.ledger with circulating := c } :=
  (Ledger.Change.lose (h ▸ Nat.succ_pos c)).to rfl rfl (by rw [h]; rfl) rfl

theorem connected_change {id : Nat} (hp : s.phase = .connecting id) (result : Except Error κ) :
    Ledger.Change config.maxSize s.ledger (s.leaks config (.connected result)).toNat
      ({ s with phase := .receiving }.reply id (result.map (⟨·, s.now⟩))).ledger := by
  have hc : s.ledger.circulating =
      s.lent.length + s.replies.countP (·.2.isOk) + s.queue.countP (·.carries) + 1 := by
    simp [ledger, circulating, hp, Phase.establishing]
  have hr : s.ledger.rolling = 0 := by rw [ledger, hp]; rfl
  simp only [ledger_reply]
  cases result
  case error e =>
    simp only [leaks, Except.map, Except.isOk, Except.toBool, and_false, Bool.false_eq_true, if_false]
    exact (lose_one hc).to rfl rfl rfl hr
  case ok k =>
    simp only [leaks, hp, Except.map, Except.isOk, Except.toBool, and_true]
    by_cases hw : id ∈ s.waiting
    · simp only [hw, not_true, decide_false, if_true, Bool.toNat_false]
      exact (Ledger.Change.same _ _).to rfl rfl (by rw [hc]; rfl) hr
    · simp only [hw, not_false_eq_true, decide_true, if_false, Bool.toNat_true]
      exact (lose_one hc).to rfl rfl rfl hr

theorem giveUp_change (id : Nat) :
    Ledger.Change config.maxSize s.ledger (s.leaks config (.giveUp id)).toNat
      ({ s with replies := remove id s.replies, waiting := s.waiting.erase id } : State κ).ledger := by
  cases hl : lookup id s.replies
  case none =>
    simp only [leaks, hl, remove_of_not_lookup hl]
    exact .same _ _
  case some result =>
    cases result
    case error e =>
      simp only [leaks, hl]
      exact (Ledger.Change.same _ _).to rfl rfl (by simp only [ledger, circulating, countP_remove_error hl]) rfl
    case ok conn =>
      simp only [leaks, hl]
      refine (lose_one ?_).to rfl rfl rfl rfl
      simp only [ledger, circulating, countP_remove_ok hl]
      omega

-- What a step does to the numbers. Where the manager task ends, the requests that are left are lost.
theorem step_change {label : Label κ} (h : s.step config label = some s') :
    ∃ n, Ledger.Change config.maxSize s.ledger n s'.ledger ∧ (s'.isGone = false → n = (s.leaks config label).toNat) := by
  cases step_stepped h
  case elapse | reserve | release => exact ⟨0, .same _ _, fun _ => rfl⟩
  case sendAcquire | sendClose =>
    refine ⟨0, (Ledger.Change.same _ _).to rfl rfl ?_ rfl, fun _ => rfl⟩
    simp [ledger, circulating, send, PoolRequest.carries]
  case receive hp hq   => exact ⟨_, receive_change hp hq, fun _ => rfl⟩
  case connected hp    => exact ⟨_, connected_change hp _, fun _ => rfl⟩
  case rolledBack conn createdAt k hp =>
    have hr : 0 < s.ledger.rolling := by rw [ledger, hp]; exact Nat.one_pos
    rw [returnIdle]
    split
    · exact ⟨0, (Ledger.Change.drop hr).to rfl rfl (by simp [ledger, circulating, hp, Phase.establishing])
        (by simp [ledger, hp, Phase.returning]), fun _ => rfl⟩
    · exact ⟨0, (Ledger.Change.store hr).to rfl rfl (by simp [ledger, circulating, hp, Phase.establishing])
        (by simp [ledger, hp, Phase.returning]), fun _ => rfl⟩
  case notRolledBack conn createdAt e hp =>
    have hr : 0 < s.ledger.rolling := by rw [ledger, hp]; exact Nat.one_pos
    exact ⟨0, (Ledger.Change.drop hr).to rfl rfl (by simp [ledger, circulating, hp, Phase.establishing])
      (by simp [ledger, hp, Phase.returning]), fun _ => rfl⟩
  case tick            => exact ⟨0, (Ledger.Change.evict (List.length_filter_le ..)).to rfl rfl rfl rfl, fun _ => rfl⟩
  case closeIdle       =>
    exact ⟨0, (Ledger.Change.evict (List.dropLast_sublist _).length_le).to rfl rfl rfl rfl, fun _ => rfl⟩
  case stop hp hi =>
    have hn : s.queue.countP (·.carries) ≤ s.ledger.circulating := by
      simp only [ledger, circulating]
      omega
    refine ⟨_, (Ledger.Change.lose hn).to rfl rfl ?_ (by simp [ledger, hp, Phase.returning]), fun hg => nomatch hg⟩
    simp only [ledger, circulating, hp, Phase.establishing, List.countP_nil]
    omega
  case collect id conn hl =>
    refine ⟨0, (Ledger.Change.same _ _).to rfl rfl ?_ rfl, fun _ => rfl⟩
    simp only [ledger, circulating, countP_remove_ok hl, List.length_append, List.length_singleton]
    omega
  case refused id e hl =>
    refine ⟨0, (Ledger.Change.same _ _).to rfl rfl ?_ rfl, fun _ => rfl⟩
    simp only [ledger, circulating, countP_remove_error hl]
  case giveUp id hw    => exact ⟨_, giveUp_change id, fun _ => rfl⟩
  case use id k p hl   => exact ⟨0, (Ledger.Change.same _ _).to rfl rfl (by simp [ledger, circulating]) rfl, fun _ => rfl⟩
  case discard id p hl =>
    have hr := length_remove hl
    refine ⟨1, (lose_one ?_).to rfl rfl rfl rfl, fun _ => rfl⟩
    simp only [ledger, circulating, ← hr]
    omega
  case drop id p hl =>
    have hr := length_remove hl
    have hroom : ({ s with lent := remove id s.lent } : State κ).hasRoom config = s.hasRoom config := rfl
    simp only [leaks, hl, dropLent, hroom]
    cases Link.isOpen p.conn.conn && s.hasRoom config
    case true =>
      refine ⟨0, (Ledger.Change.same _ _).to rfl rfl ?_ rfl, fun _ => rfl⟩
      simp only [ledger, circulating, send, ← hr, List.countP_append, PoolRequest.carries, List.countP_singleton, if_true]
      omega
    case false =>
      refine ⟨1, (lose_one ?_).to rfl rfl rfl rfl, fun _ => rfl⟩
      simp only [Bool.false_eq_true, if_false, ledger, circulating, ← hr]
      omega

end State
end MySQL.Pool
