import MysqlRs.Pool.Ledger

namespace MySQL.Pool

variable {κ : Type} [Link κ] {config : PoolConfig} {s s' : State κ} {label : Label κ} {labels : List (Label κ)}

omit [Link κ] in
theorem connectIdle_length {connects : List (Except Error κ × Nat)} {idle idle' : List (IdleConnection κ)}
    (h : connectIdle idle connects = .ok idle') : idle'.length = idle.length + connects.length := by
  induction connects generalizing idle
  case nil => cases h; rfl
  case cons c connects ih =>
    obtain ⟨result, t⟩ := c
    cases result
    case error => exact nomatch h
    case ok    => rw [ih h, List.length_cons, List.length_cons, Nat.add_right_comm, Nat.add_assoc]

omit [Link κ] in
-- The configurations that `Pool::start` accepts, and what it makes of them.
theorem start_ok {connects : List (Except Error κ × Nat)} {manager : PoolManager κ} :
    start config connects = .ok manager ↔
      0 < config.maxSize ∧ config.minIdle ≤ config.maxSize ∧ manager.activeCount = 0 ∧
        connectIdle [] (connects.take config.minIdle) = .ok manager.idle := by
  rw [start]
  by_cases h₁ : config.maxSize = 0
  · rw [if_pos h₁]
    exact ⟨nofun, fun h => absurd h₁ (Nat.ne_of_gt h.left)⟩
  by_cases h₂ : config.maxSize < config.minIdle
  · rw [if_neg h₁, if_pos h₂]
    exact ⟨nofun, fun h => absurd h₂ (Nat.not_lt_of_le h.right.left)⟩
  rw [if_neg h₁, if_neg h₂]
  obtain ⟨idle', n⟩ := manager
  cases connectIdle [] (connects.take config.minIdle)
  case error   => exact ⟨nofun, fun h => nomatch h.right.right.right⟩
  case ok idle =>
    constructor
    · intro h
      cases h
      exact ⟨Nat.pos_of_ne_zero h₁, Nat.le_of_not_lt h₂, rfl, rfl⟩
    · rintro ⟨_, _, ⟨⟩, ⟨⟩⟩
      rfl

omit [Link κ] in
theorem Started.sound (hs : Started config s) : s.ledger.Sound config.maxSize := by
  have ⟨manager, connects, now, h, _, _, hs⟩ := hs.initial
  obtain rfl := hs
  have ⟨_, hm, ha, hi⟩ := start_ok.mp h
  have hl : manager.idle.length ≤ config.minIdle := by
    rw [connectIdle_length hi, List.length_nil, Nat.zero_add]
    exact List.length_take_le _ _
  refine ⟨Nat.zero_le _, ?_⟩
  simp only [State.ledger, State.initial, ha, Phase.returning]
  omega

theorem Started.reaches_sound (hs : Started config s) (hr : Runs (State.step config) s labels s') :
    s'.ledger.Sound config.maxSize := by
  refine hr.invariant (I := fun s => s.ledger.Sound config.maxSize) (fun s label s' hs h => ?_) hs.sound
  have ⟨_, hc, _⟩ := State.step_change h
  exact hs.change hc

-- There are never more connections than the pool may have.
theorem live_le_maxSize (hs : Started config s) (hr : Runs (State.step config) s labels s') :
    s'.live ≤ config.maxSize :=
  have ⟨hc, hw⟩ := hs.reaches_sound hr
  calc
    s'.live ≤ s'.ledger.idle + s'.ledger.active + s'.ledger.rolling :=
      Nat.add_le_add_right (Nat.add_le_add_left hc _) _
    _ ≤ config.maxSize := hw

namespace State

-- What `active_count` is for.
structure Accurate (config : PoolConfig) (s : State κ) : Prop where
  counted : s.manager.activeCount = s.circulating
  admits  : s.circulating = 0 → (handleAcquire config s.now s.manager).1 ≠ .reply (.error poolExhausted)

theorem accurate_iff (hm : 0 < config.maxSize) :
    s.Accurate config ↔ s.manager.activeCount = s.circulating := by
  refine ⟨Accurate.counted, fun h => ⟨h, fun hc ha => ?_⟩⟩
  have hq := handleAcquire_acquired config s.now s.manager
  rw [ha] at hq
  generalize (handleAcquire config s.now s.manager).2 = manager at hq
  cases hq
  case exhausted hm' =>
    rw [h, hc] at hm'
    exact Nat.not_le_of_lt hm hm'

theorem receive_isGone (request : PoolRequest κ) (hp : s.phase = .receiving) :
    (s.receive config request).isGone = false := by
  cases request
  case acquire id =>
    rw [receive]
    split
    · rw [reply]; split <;> rw [isGone, hp]
    · rfl
  case return_ conn createdAt =>
    rw [receive]
    split
    · rfl
    · rw [isGone, hp]
  case close => rfl

-- Nothing but `stop` ends the manager task, and nothing starts it again.
theorem step_isGone (h : s.step config label = some s') : label = .stop ∧ s'.isGone ∨ s'.isGone = s.isGone := by
  cases step_stepped h
  case receive queue hp hq =>
    have hg : s.isGone = false := by simp [isGone, hp]
    exact .inr ((receive_isGone (s := { s with queue }) _ hp).trans hg.symm)
  case connected hp          =>
    rw [reply]
    split <;> exact .inr (by simp [isGone, hp])
  case rolledBack hp         => exact .inr (by simp [isGone, hp])
  case notRolledBack hp      => exact .inr (by simp [isGone, hp])
  case stop                  => exact .inl ⟨rfl, rfl⟩
  case drop                  =>
    rw [dropLent]
    split <;> exact .inr rfl
  all_goals exact .inr rfl

end State

-- A step after which the manager task goes on leaves the count right if and only if it leaks nothing.
theorem accurate_step_iff (hm : 0 < config.maxSize) (hs : s.isGone = false → s.manager.activeCount = s.circulating)
    (h : s.step config label = some s') :
    (s'.isGone = false → s'.Accurate config) ↔ (s.isGone = false → s.leaks config label = false) := by
  have ⟨n, hc, hn⟩ := State.step_change h
  cases State.step_isGone h
  case inl hg =>
    obtain ⟨rfl, hg⟩ := hg
    exact ⟨fun _ _ => rfl, fun _ hs' => nomatch hg.symm.trans hs'⟩
  case inr hg =>
    rw [State.accurate_iff hm, hg]
    refine forall_congr' fun hs' => ?_
    have hi : s'.manager.activeCount = s'.circulating ↔ n = 0 := hc.exact_iff (hs hs')
    rw [hi, hn (hg.trans hs'), Bool.toNat_eq_zero]

-- Along a run, the count stays right if and only if no step leaks a connection.
theorem staysAccurate_iff (hs : Started config s) (hr : Runs (State.step config) s labels s') :
    Along (State.step config)
      (fun s label => ∀ s' ∈ s.step config label, s'.isGone = false → s'.Accurate config) s labels ↔
    Along (State.step config) (fun s label => s.isGone = false → s.leaks config label = false) s labels := by
  have ⟨manager, connects, now, h, _, _, he⟩ := hs.initial
  have ⟨hm, _, ha, _⟩ := start_ok.mp h
  refine Along.iff (I := fun s => s.isGone = false → s.manager.activeCount = s.circulating) ?_ ?_ ?_ hr
  · exact fun s label s' _ hp h hg => (hp s' h hg).counted
  · intro s label s' hs h
    rw [← accurate_step_iff hm hs h]
    exact ⟨fun hp => hp s' h, fun hp _ h' => Option.some.inj (h.symm.trans h') ▸ hp⟩
  · obtain rfl := he
    exact fun _ => ha

section Examples

-- A pool of one connection, which is established when it is asked for.
def single : PoolConfig :=
  { PoolConfig.default with maxSize := 1, minIdle := 0 }

abbrev empty : State Tokio.Connection :=
  .initial ⟨[], 0⟩ 0

theorem empty_started : Started single empty :=
  ⟨⟨[], 0⟩, [], 0, start_ok.mpr ⟨Nat.one_pos, Nat.zero_le _, rfl, rfl⟩, rfl, List.forall_mem_nil _, rfl⟩

def quiet : Tokio.Connection where
  inner            := .fresh {} ⟨45, "utf8mb4", true⟩
  stream           := some ⟨[], [], [], none⟩
  transactionDirty := false

abbrev borrow : List (Label Tokio.Connection) :=
  [.reserve, .sendAcquire, .receive, .connected (.ok quiet), .collect 0]

theorem borrow_live : ∃ s', Runs (State.step single) empty borrow s' ∧ s'.live = 1 ∧ s'.live ≤ single.maxSize :=
  have hr := .cons rfl <| .cons rfl <| .cons rfl <| .cons rfl <| .cons rfl <| .nil _
  ⟨_, hr, rfl, live_le_maxSize empty_started hr⟩

theorem borrow_accurate :
    Along (State.step single)
      (fun s label => ∀ s' ∈ s.step single label, s'.isGone = false → s'.Accurate single) empty (borrow ++ [.drop 0]) :=
  have hr := .cons rfl <| .cons rfl <| .cons rfl <| .cons rfl <| .cons rfl <| .cons rfl <| .nil _
  (staysAccurate_iff empty_started hr).mpr <| .cons rfl (fun _ => rfl) <| .cons rfl (fun _ => rfl) <|
    .cons rfl (fun _ => rfl) <| .cons rfl (fun _ => rfl) <| .cons rfl (fun _ => rfl) <|
    .cons rfl (fun _ => rfl) trivial

-- A connection that is discarded is counted for good.
theorem discard_exhausts :
    Started single empty ∧ ∃ s', Runs (State.step single) empty (borrow ++ [.discard 0]) s' ∧ s'.circulating = 0 ∧
      s'.manager.activeCount = 1 ∧ (handleAcquire single s'.now s'.manager).1 = .reply (.error poolExhausted) :=
  ⟨empty_started, _, .cons rfl <| .cons rfl <| .cons rfl <| .cons rfl <| .cons rfl <| .cons rfl <| .nil _, rfl, rfl, rfl⟩

end Examples
end MySQL.Pool
