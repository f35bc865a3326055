import MysqlRs.Pool.Custody
import MysqlRs.Pool.Handing

namespace MySQL.Pool

variable {κ : Type}

def PoolRequest.isClose : PoolRequest κ → Bool
  | .close => true
  | _      => false

-- The steps in which the manager goes on with its requests, or comes to its end.
def Label.byManager : Label κ → Bool
  | .receive      => true
  | .connected _  => true
  | .rolledBack _ => true
  | .closeIdle    => true
  | .stop         => true
  | _             => false

theorem handleAcquire_idle [Link κ] (config : PoolConfig) (now : Nat) (manager : PoolManager κ) :
    (handleAcquire config now manager).2.idle.length ≤ manager.idle.length := by
  have ha := handleAcquire_acquired config now manager
  generalize handleAcquire config now manager = x at ha
  obtain ⟨answer, manager'⟩ := x
  cases ha
  case idle hs _ => exact Nat.le_of_succ_le hs.length_le
  all_goals exact Nat.zero_le _

def Label.closes : Label κ → Bool
  | .closeIdle => true
  | .stop      => true
  | _          => false

namespace State

-- The manager has taken a request to close.
def Closed (s : State κ) : Prop :=
  s.phase = .closing ∨ s.phase = .gone

-- It has taken one, or is going to come to one.
def Closes (s : State κ) : Prop :=
  s.Closed ∨ ∃ request ∈ s.queue, request.isClose

-- The requests that come before the first one to close.
def ahead (s : State κ) : List (PoolRequest κ) :=
  s.queue.takeWhile (!·.isClose)

-- The steps of the manager that are left. A request takes up to two, and can give it another connection to close.
def work (s : State κ) : Nat :=
  match s.phase with
  | .gone            => 0
  | .closing         => s.manager.idle.length + 1
  | .receiving       => 3 * s.ahead.length + s.manager.idle.length + 2
  | .connecting _    => 3 * s.ahead.length + s.manager.idle.length + 3
  | .rollingBack _ _ => 3 * s.ahead.length + s.manager.idle.length + 4

variable {s s' : State κ}

theorem ahead_append {queue queue' : List (PoolRequest κ)} (h : ∃ request ∈ queue, request.isClose) :
    (queue ++ queue').takeWhile (!·.isClose) = queue.takeWhile (!·.isClose) := by
  obtain ⟨request, hr, hc⟩ := h
  induction queue
  case nil                  => cases hr
  case cons request' queue ih =>
    rw [List.cons_append, List.takeWhile_cons, List.takeWhile_cons]
    split
    case isFalse  => rfl
    case isTrue h =>
      obtain rfl | hr := List.mem_cons.mp hr
      · simp [hc] at h
      · rw [ih hr]

-- A state that differs in what does not matter for closing.
theorem Closes.keep (h : s.Closes) (hp : s'.phase = s.phase) (hq : ∃ queue, s'.queue = s.queue ++ queue)
    (hi : s'.manager.idle.length ≤ s.manager.idle.length) : s'.Closes ∧ s'.work ≤ s.work := by
  obtain ⟨queue, hq⟩ := hq
  obtain hc | hm := h
  case inl =>
    refine ⟨.inl (by rwa [Closed, hp]), ?_⟩
    obtain hc | hc := hc
    all_goals
      simp only [work, hp, hc]
      omega
  case inr =>
    have ha : s'.ahead = s.ahead := by rw [ahead, hq, ahead_append hm, ahead]
    have ⟨request, hr, hc⟩ := hm
    refine ⟨.inr ⟨request, hq ▸ List.mem_append_left _ hr, hc⟩, ?_⟩
    simp only [work, hp, ha]
    split
    all_goals omega

theorem usedAs_fst (id : Nat) (k : κ) (s : State κ) : (s.usedAs id k).map (·.1) = s.lent.map (·.1) := by
  rw [usedAs, List.map_map]
  refine List.map_congr_left fun x _ => ?_
  by_cases hx : x.1 = id
  all_goals simp [hx]

theorem reply_keeps (id : Nat) (result : Except Error (Dated κ)) (s : State κ) :
    (s.reply id result).phase = s.phase ∧ (s.reply id result).queue = s.queue ∧
      (s.reply id result).manager = s.manager := by
  rw [reply]
  split
  all_goals exact ⟨rfl, rfl, rfl⟩

variable [Link κ] {config : PoolConfig} {label : Label κ}

-- A request is taken, and those that come after it stay.
theorem receive_keeps (config : PoolConfig) {request : PoolRequest κ} (hp : s.phase = .receiving)
    (hr : request.isClose = false) :
    (s.receive config request).queue = s.queue ∧
      (s.receive config request).manager.idle.length ≤ s.manager.idle.length ∧
      ((s.receive config request).phase = .receiving ∨ (∃ id, (s.receive config request).phase = .connecting id) ∨
        ∃ conn createdAt, (s.receive config request).phase = .rollingBack conn createdAt) := by
  cases request
  case acquire id =>
    have hi := handleAcquire_idle config s.now s.manager
    simp only [receive]
    generalize handleAcquire config s.now s.manager = x at hi
    obtain ⟨answer, manager⟩ := x
    cases answer
    case reply result =>
      obtain ⟨hp', hq', hm'⟩ := reply_keeps id result { s with manager }
      exact ⟨hq', by rwa [hm'], .inl (hp'.trans hp)⟩
    case connect => exact ⟨rfl, hi, .inr (.inl ⟨id, rfl⟩)⟩
  case return_ conn createdAt =>
    simp only [receive]
    split
    case isTrue  => exact ⟨rfl, Nat.le_refl _, .inr (.inr ⟨conn, createdAt, rfl⟩)⟩
    case isFalse => exact ⟨rfl, Nat.le_refl _, .inl hp⟩
  case close => cases hr

theorem Closes.receive (h : s.Closes) {request : PoolRequest κ} {queue : List (PoolRequest κ)}
    (hp : s.phase = .receiving) (hq : s.queue = request :: queue) :
    ({ s with queue }.receive config request).Closes ∧ ({ s with queue }.receive config request).work + 1 ≤ s.work := by
  have hm : ∃ r ∈ s.queue, r.isClose := h.resolve_left (by simp [Closed, hp])
  cases hr : request.isClose
  case true =>
    cases request
    case close =>
      refine ⟨.inl (.inl rfl), ?_⟩
      simp only [State.receive, work, hp]
      omega
    all_goals cases hr
  case false =>
    obtain ⟨hq', hi, hphase⟩ := receive_keeps (s := { s with queue }) config hp hr
    have hc : ∃ r ∈ queue, r.isClose := by
      obtain ⟨r, hm, hc⟩ := hm
      rw [hq] at hm
      obtain rfl | hm := List.mem_cons.mp hm
      · rw [hr] at hc
        cases hc
      · exact ⟨r, hm, hc⟩
    have ha : s.ahead = request :: queue.takeWhile (!·.isClose) := by
      rw [ahead, hq, List.takeWhile_cons, hr]
      rfl
    have ha' : ({ s with queue }.receive config request).ahead = queue.takeWhile (!·.isClose) := by rw [ahead, hq']
    refine ⟨.inr (by rwa [hq']), ?_⟩
    have hw : s.work = 3 * (queue.takeWhile (!·.isClose)).length + s.manager.idle.length + 5 := by
      simp only [work, hp, ha, List.length_cons]
      omega
    have hi : ({ s with queue }.receive config request).manager.idle.length ≤ s.manager.idle.length := hi
    rw [hw]
    obtain hphase | ⟨_, hphase⟩ | ⟨_, _, hphase⟩ := hphase
    all_goals
      simp only [work, hphase, ha']
      omega

theorem Closes.step (h : s.Closes) (hs : s.step config label = some s') :
    s'.Closes ∧ s'.work + label.byManager.toNat ≤ s.work := by
  cases step_stepped hs
  case sendAcquire | sendClose => exact h.keep rfl ⟨_, rfl⟩ (Nat.le_refl _)
  case receive hp hq           => exact h.receive hp hq
  case connected id result hp =>
    have ⟨hp', hq', hm'⟩ := reply_keeps id (result.map (⟨·, s.now⟩)) { s with phase := .receiving }
    refine ⟨.inr ?_, ?_⟩
    · rw [hq']
      exact h.resolve_left (by simp [Closed, hp])
    · simp only [work, hp, hp', hm', ahead, hq', Label.byManager, Bool.toNat_true]
      omega
  case rolledBack conn createdAt k hp =>
    refine ⟨.inr (h.resolve_left (by simp [Closed, hp])), ?_⟩
    have hi : (returnIdle config s.now ⟨k, conn.established⟩ createdAt s.manager).idle.length ≤
        s.manager.idle.length + 1 := by
      rw [returnIdle]
      split
      case isTrue  => exact Nat.le_succ _
      case isFalse => exact Nat.le_refl _
    simp only [work, hp, ahead, Label.byManager, Bool.toNat_true]
    omega
  case notRolledBack hp =>
    refine ⟨.inr (h.resolve_left (by simp [Closed, hp])), ?_⟩
    simp only [work, hp, ahead, Label.byManager, Bool.toNat_true]
    omega
  case tick => exact h.keep rfl ⟨[], (List.append_nil _).symm⟩ (List.length_filter_le _ _)
  case closeIdle hp hi =>
    have hl := List.length_pos_of_ne_nil hi
    refine ⟨.inl (.inl hp), ?_⟩
    simp only [work, hp, List.length_dropLast, Label.byManager, Bool.toNat_true]
    omega
  case stop hp hi =>
    refine ⟨.inl (.inr rfl), ?_⟩
    simp only [work, hp, Label.byManager, Bool.toNat_true]
    omega
  case drop id pooled hl =>
    rw [dropLent]
    split
    case isTrue  => exact h.keep rfl ⟨_, rfl⟩ (Nat.le_refl _)
    case isFalse => exact h.keep rfl ⟨[], (List.append_nil _).symm⟩ (Nat.le_refl _)
  all_goals exact h.keep rfl ⟨[], (List.append_nil _).symm⟩ (Nat.le_refl _)

-- As long as the manager has not gone it can go on, however connecting and rolling back come out.
theorem Closes.goes_on (h : s.Closes) (config : PoolConfig) (result : Except Error κ) : s.phase = .gone ∨
    ∃ label ∈ [.receive, .connected result, .rolledBack result, .closeIdle, .stop], (s.step config label).isSome := by
  cases hp : s.phase
  case gone => exact .inl rfl
  case receiving =>
    obtain ⟨request, hm, _⟩ := h.resolve_left (by simp [Closed, hp])
    obtain ⟨request, queue, hq⟩ := List.exists_cons_of_ne_nil (List.ne_nil_of_mem hm)
    exact .inr ⟨.receive, by simp, by simp only [State.step, hp, hq, Option.isSome_some]⟩
  case connecting id => exact .inr ⟨.connected result, by simp, by simp only [State.step, hp, Option.isSome_some]⟩
  case rollingBack conn createdAt =>
    refine .inr ⟨.rolledBack result, by simp, ?_⟩
    cases result
    all_goals simp only [State.step, hp, Option.isSome_some]
  case closing =>
    cases hi : s.manager.idle
    case nil         => exact .inr ⟨.stop, by simp, by simp only [State.step, hp, hi, Option.isSome_some]⟩
    case cons c idle => exact .inr ⟨.closeIdle, by simp, by simp only [State.step, hp, hi, Option.isSome_some]⟩

-- What a later state of a closed pool has is what is left of an earlier one. Nobody is answered any more, and what is
-- lent later has been lent or on its way.
structure Remains (s s' : State κ) : Prop where
  closed  : s'.Closed
  idle    : s'.manager.idle <+: s.manager.idle
  replies : s'.replies.Sublist s.replies
  lent    : ∀ id ∈ s'.lent.map (·.1), id ∈ s.lent.map (·.1) ∨ ∃ conn, (id, .ok conn) ∈ s.replies

omit [Link κ] in
theorem Remains.refl (h : s.Closed) : s.Remains s where
  closed  := h
  idle    := List.prefix_refl _
  replies := List.Sublist.refl _
  lent _  := .inl

omit [Link κ] in
theorem Remains.trans {s₁ : State κ} (h : s.Remains s₁) (h' : s₁.Remains s') : s.Remains s' where
  closed  := h'.closed
  idle    := h'.idle.trans h.idle
  replies := h'.replies.trans h.replies
  lent id hm := by
    obtain hm | ⟨conn, hm⟩ := h'.lent id hm
    · exact h.lent id hm
    · exact .inr ⟨conn, h.replies.subset hm⟩

theorem Closed.step (h : s.Closed) (hs : s.step config label = some s') :
    s.Remains s' ∧ (label.byManager → label.closes) := by
  have receiving (hp : s.phase = .receiving) : False := by simp [Closed, hp] at h
  cases step_stepped hs
  case receive hp _     => exact (receiving hp).elim
  case tick hp          => exact (receiving hp).elim
  case connected hp     => simp [Closed, hp] at h
  case rolledBack hp    => simp [Closed, hp] at h
  case notRolledBack hp => simp [Closed, hp] at h
  case closeIdle hp _ =>
    exact ⟨⟨h, List.dropLast_prefix _, List.Sublist.refl _, fun _ => .inl⟩, fun _ => rfl⟩
  case stop hp hi =>
    exact ⟨⟨.inr rfl, List.prefix_refl _, List.Sublist.refl _, fun _ => .inl⟩, fun _ => rfl⟩
  case collect id conn hl =>
    refine ⟨⟨h, List.prefix_refl _, remove_sublist id _, fun i hm => ?_⟩, fun h => by cases h⟩
    rw [List.map_append] at hm
    obtain hm | hm := List.mem_append.mp hm
    · exact .inl hm
    · obtain rfl : i = id := List.mem_singleton.mp hm
      exact .inr ⟨conn, mem_of_lookup hl⟩
  case refused id e hl =>
    exact ⟨⟨h, List.prefix_refl _, remove_sublist id _, fun _ => .inl⟩, fun h => by cases h⟩
  case giveUp id hw =>
    exact ⟨⟨h, List.prefix_refl _, remove_sublist id _, fun _ => .inl⟩, fun h => by cases h⟩
  case use id k pooled hl =>
    refine ⟨⟨h, List.prefix_refl _, List.Sublist.refl _, fun i hm => .inl ?_⟩, fun h => by cases h⟩
    exact usedAs_fst id k s ▸ hm
  case discard id pooled hl =>
    refine ⟨⟨h, List.prefix_refl _, List.Sublist.refl _, fun i hm => .inl ?_⟩, fun h => by cases h⟩
    exact (remove_fst_sublist id _).subset hm
  case drop id pooled hl =>
    rw [dropLent]
    split
    all_goals
      refine ⟨⟨h, List.prefix_refl _, List.Sublist.refl _, fun i hm => .inl ?_⟩, fun h => by cases h⟩
      exact (remove_fst_sublist id _).subset hm
  all_goals exact ⟨⟨h, List.prefix_refl _, List.Sublist.refl _, fun _ => .inl⟩, fun h => by cases h⟩

-- Whoever has been answered still waits, and the manager that has gone has left nothing behind.
structure Ends (s : State κ) : Prop where
  answered : ∀ id ∈ s.replies.map (·.1), id ∈ s.waiting
  gone     : s.phase = .gone → s.manager.idle = [] ∧ s.queue = []

omit [Link κ] in
theorem Ends.reply (h : s.Ends) (id : Nat) (result : Except Error (Dated κ)) : (s.reply id result).Ends := by
  rw [State.reply]
  split
  case isFalse   => exact h
  case isTrue hm =>
    refine ⟨fun i hi => ?_, h.gone⟩
    rw [List.map_append] at hi
    obtain hi | hi := List.mem_append.mp hi
    · exact h.answered i hi
    · exact List.mem_singleton.mp hi ▸ hm

omit [Link κ] in
-- A state in which the manager has not gone, or has gone before.
theorem Ends.keep (h : s.Ends) (hr : s'.replies = s.replies) (hw : ∀ id ∈ s.waiting, id ∈ s'.waiting)
    (hg : s'.phase = .gone → s.phase = .gone ∧ s'.manager = s.manager ∧ s'.queue = s.queue) : s'.Ends where
  answered id hm := hw id (h.answered id (hr ▸ hm))
  gone hp := by
    obtain ⟨hp, hm, hq⟩ := hg hp
    rw [hm, hq]
    exact h.gone hp

omit [Link κ] in
theorem Ends.leave (h : s.Ends) (hq : s.Queues) (id : Nat) (lent : List (Nat × PooledConnection κ)) :
    ({ s with replies := remove id s.replies, waiting := s.waiting.erase id, lent } : State κ).Ends := by
  refine ⟨fun i hi => ?_, h.gone⟩
  have hw := h.answered i ((remove_fst_sublist id _).subset hi)
  refine (List.mem_erase_of_ne ?_).mpr hw
  rintro rfl
  cases hl : lookup i s.replies
  case some => exact not_mem_remove hq.replies_nodup hl hi
  case none =>
    rw [remove_of_not_lookup hl] at hi
    obtain ⟨x, hx, rfl⟩ := List.mem_map.mp hi
    exact List.find?_eq_none.mp (Option.map_eq_none_iff.mp hl) x hx (decide_eq_true rfl)

theorem Ends.receive (h : s.Ends) {request : PoolRequest κ} {queue : List (PoolRequest κ)} (hp : s.phase = .receiving) :
    ({ s with queue }.receive config request).Ends := by
  have open_ {manager : PoolManager κ} {phase : Phase κ} (hg : phase ≠ .gone) :
      ({ s with queue, manager, phase } : State κ).Ends :=
    h.keep rfl (fun _ hm => hm) fun hp => absurd hp hg
  cases request
  case acquire id =>
    simp only [State.receive]
    generalize handleAcquire config s.now s.manager = x
    obtain ⟨answer, manager⟩ := x
    cases answer
    case reply result => exact (open_ (by simp [hp])).reply id result
    case connect      => exact open_ (by simp)
  case return_ conn createdAt =>
    simp only [State.receive]
    split
    case isTrue  => exact open_ (by simp)
    case isFalse => exact open_ (by simp [hp])
  case close => exact open_ (by simp)

theorem Ends.step (h : s.Ends) (hq : s.Queues) (hs : s.step config label = some s') : s'.Ends := by
  have open_ (hg : s.isGone = false) : s.phase ≠ .gone := fun hp => by simp [isGone, hp] at hg
  cases step_stepped hs
  case sendAcquire _ hg => exact h.keep rfl (fun _ => List.mem_append_left _) fun hp => absurd hp (open_ hg)
  case sendClose _ hg   => exact h.keep rfl (fun _ hm => hm) fun hp => absurd hp (open_ hg)
  case receive hp _     => exact h.receive hp
  case connected id result hp =>
    have hr : ({ s with phase := .receiving } : State κ).Ends := h.keep rfl (fun _ hm => hm) (by rintro ⟨⟩)
    exact hr.reply id _
  case rolledBack    => exact h.keep rfl (fun _ hm => hm) (by rintro ⟨⟩)
  case notRolledBack => exact h.keep rfl (fun _ hm => hm) (by rintro ⟨⟩)
  case tick hp       => exact h.keep rfl (fun _ hm => hm) fun (hg : s.phase = .gone) => by simp [hp] at hg
  case closeIdle hp _ => exact h.keep rfl (fun _ hm => hm) fun (hg : s.phase = .gone) => by simp [hp] at hg
  case stop hi       => exact ⟨h.answered, fun _ => ⟨hi, rfl⟩⟩
  case collect       => exact h.leave hq _ _
  case refused       => exact h.leave hq _ s.lent
  case giveUp        => exact h.leave hq _ s.lent
  case drop id pooled hl =>
    rw [dropLent]
    split
    case isFalse    => exact h.keep rfl (fun _ hm => hm) fun hp => ⟨hp, rfl, rfl⟩
    case isTrue hd  =>
      have hg : s.isGone = false := by
        rw [hasRoom, Bool.and_eq_true, Bool.and_eq_true, Bool.not_eq_true'] at hd
        exact hd.right.left
      exact h.keep rfl (fun _ hm => hm) fun hp => absurd hp (open_ hg)
  all_goals exact h.keep rfl (fun _ hm => hm) fun hp => ⟨hp, rfl, rfl⟩

end State

variable [Link κ] {config : PoolConfig} {s s₁ s' : State κ} {labels labels' : List (Label κ)}

-- A request to close is come to: whatever happens beside, the manager takes no more than so many steps before it has
-- gone, and until then there is one that it can take.
theorem closes_gone (hc : s.Closes) (hr : Runs (State.step config) s labels s') :
    labels.countP Label.byManager + s'.work ≤ s.work ∧ ∀ result : Except Error κ, s'.phase = .gone ∨
      ∃ label ∈ [.receive, .connected result, .rolledBack result, .closeIdle, .stop],
        (s'.step config label).isSome := by
  have ⟨hc', hw⟩ := hr.countP_le (w := State.work) (fun _ _ _ h hs => h.step hs) hc
  exact ⟨hw, hc'.goes_on config⟩

omit [Link κ] in
theorem Started.ends (hs : Started config s) : s.Ends := by
  have ⟨manager, connects, now, _, _, _, hinit⟩ := hs.initial
  subst hinit
  exact ⟨(by rintro _ ⟨⟩), by rintro ⟨⟩⟩

theorem closed_remains (hc : s.Closed) (hr : Runs (State.step config) s labels s') :
    s.Remains s' ∧ ∀ label ∈ labels, label.byManager → label.closes := by
  induction hr
  case nil                      => exact ⟨.refl hc, List.forall_mem_nil _⟩
  case cons s label s₁ _ _ hl _ ih =>
    have ⟨hr, hm⟩ := hc.step hl
    have ⟨hr', hm'⟩ := ih hr.closed
    exact ⟨hr.trans hr', List.forall_mem_cons.mpr ⟨hm, hm'⟩⟩

-- Closing is final. From then on the manager only closes what is idle: it answers nobody, and takes nothing back. When
-- it has gone, and so have those who were answered and those who have borrowed, there are no connections left.
theorem closed_final (hs : Started config s) (hr : Runs (State.step config) s labels s₁) (hc : s₁.Closed)
    (hr' : Runs (State.step config) s₁ labels' s') :
    s₁.Remains s' ∧ (∀ label ∈ labels', label.byManager → label.closes) ∧
      (s'.phase = .gone → s'.waiting = [] → s'.lent = [] → s'.held = []) := by
  have ⟨hm, hl⟩ := closed_remains hc hr'
  refine ⟨hm, hl, fun hp hw hn => ?_⟩
  have ⟨_, he⟩ := (hr.append hr').invariant (I := fun s => s.Queues ∧ s.Ends)
    (fun _ _ _ h hs => ⟨h.left.step hs, h.right.step h.left hs⟩) ⟨hs.queues, hs.ends⟩
  have ⟨hi, hq⟩ := he.gone hp
  have hr : s'.replies = [] := by
    cases hr : s'.replies
    case nil         => rfl
    case cons r rest =>
      have hm := he.answered r.1 (by simp [hr])
      rw [hw] at hm
      cases hm
  simp [State.held, hi, hq, hr, hn, hp]

section Examples

-- A connection is idle. Somebody asks for it, and then the pool is closed.
abbrev shutDown : List (Label Tokio.Connection) :=
  borrow ++ [.drop 0, .receive, .rolledBack (.ok quiet), .reserve, .sendAcquire, .reserve, .sendClose]

theorem shutDown_gone :
    ∃ s s' : State Tokio.Connection, Runs (State.step single) empty shutDown s ∧
      Runs (State.step single) s [.receive, .elapse 1, .receive, .stop] s' ∧ s.work = 6 ∧ s'.phase = .gone ∧
      List.countP Label.byManager ([.receive, .elapse 1, .receive, .stop] : List (Label Tokio.Connection)) + s'.work ≤
        s.work :=
  have hr := .cons rfl <| .cons rfl <| .cons rfl <| .cons rfl <| .cons rfl <| .cons rfl <| .cons rfl <| .cons rfl <|
    .cons rfl <| .cons rfl <| .cons rfl <| .cons rfl <| .nil _
  have hr' := .cons rfl <| .cons rfl <| .cons rfl <| .cons rfl <| .nil _
  ⟨_, _, hr, hr', rfl, rfl, (closes_gone (.inr ⟨.close, .tail _ (.head _), rfl⟩) hr').left⟩

-- The acquirer whose request came first has its connection, which goes nowhere when it is dropped.
theorem shutDown_final :
    ∃ s s' : State Tokio.Connection, Runs (State.step single) empty (shutDown ++ [.receive, .receive]) s ∧
      Runs (State.step single) s [.collect 1, .stop, .drop 1] s' ∧ s.replies.length = 1 ∧ s'.phase = .gone ∧
      s.Remains s' ∧ s'.held = [] :=
  have hr := .cons rfl <| .cons rfl <| .cons rfl <| .cons rfl <| .cons rfl <| .cons rfl <| .cons rfl <| .cons rfl <|
    .cons rfl <| .cons rfl <| .cons rfl <| .cons rfl <| .cons rfl <| .cons rfl <| .nil _
  have hr' := .cons rfl <| .cons rfl <| .cons rfl <| .nil _
  have h := closed_final empty_started hr (.inl rfl) hr'
  ⟨_, _, hr, hr', rfl, rfl, h.left, h.right.right rfl rfl rfl⟩

end Examples
end MySQL.Pool
