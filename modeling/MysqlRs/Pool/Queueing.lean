import MysqlRs.Pool.Vetting

namespace MySQL.Pool

variable {κ : Type}

def PoolRequest.acquirer : PoolRequest κ → Option Nat
  | .acquire id => some id
  | _           => none

def Phase.acquirer : Phase κ → Option Nat
  | .connecting id => some id
  | _              => none

theorem remove_sublist {α : Type} (id : Nat) (xs : List (Nat × α)) : List.Sublist (remove id xs) xs :=
  List.eraseP_sublist

theorem remove_fst_sublist {α : Type} (id : Nat) (xs : List (Nat × α)) :
    List.Sublist ((remove id xs).map (·.1)) (xs.map (·.1)) :=
  (remove_sublist id xs).map _

-- Where the numbers differ, what is removed is gone.
theorem not_mem_remove {α : Type} {id : Nat} {xs : List (Nat × α)} {x : α} (hn : (xs.map (·.1)).Nodup)
    (hl : lookup id xs = some x) : id ∉ (remove id xs).map (·.1) := by
  have ⟨ys, zs, hxs, hr⟩ := remove_of_lookup hl
  rw [hxs, List.map_append, List.map_cons] at hn
  have ⟨_, hz, hd⟩ := List.nodup_append.mp hn
  rw [hr, List.map_append, List.mem_append]
  rintro (hm | hm)
  · exact hd id hm id List.mem_cons_self rfl
  · exact (List.nodup_cons.mp hz).left hm

namespace State

-- The acquirers in the order of their requests: those that have been answered, the one for whom a connection is
-- being established, and those that wait in the queue.
def line (s : State κ) : List Nat :=
  s.replies.map (·.1) ++ (s.phase.acquirer.toList ++ s.queue.filterMap PoolRequest.acquirer)

-- No request is lost or answered twice, and none is answered before an earlier one.
structure Queues (s : State κ) : Prop where
  inOrder  : s.line.Pairwise (· < ·)
  issued   : ∀ id ∈ s.line, id < s.issued
  lent     : (s.lent.map (·.1)).Nodup
  collects : ∀ id ∈ s.lent.map (·.1), id < s.issued ∧ id ∉ s.line ∧ id ∉ s.waiting
  once     : s.waiting.Nodup
  asked    : ∀ id ∈ s.waiting, id < s.issued
  kept     : s.isGone = false → ∀ id ∈ s.waiting, id ∈ s.line

variable {s s' : State κ}

theorem Queues.nodup (h : s.Queues) : s.line.Nodup :=
  h.inOrder.imp Nat.ne_of_lt

theorem Queues.replies_nodup (h : s.Queues) : (s.replies.map (·.1)).Nodup :=
  h.nodup.sublist (List.sublist_append_left _ _)

-- A state in which some of the acquirers have gone.
theorem Queues.sublist (h : s.Queues) (hl : List.Sublist s'.line s.line) (hi : s'.issued = s.issued)
    (hw : List.Sublist s'.waiting s.waiting) (hb : s'.lent.map (·.1) = s.lent.map (·.1))
    (hk : s'.isGone = false → ∀ id ∈ s'.waiting, id ∈ s.line → id ∈ s'.line) (hg : s'.isGone = false → s.isGone = false) :
    s'.Queues where
  inOrder           := h.inOrder.sublist hl
  issued id hm      := hi ▸ h.issued id (hl.subset hm)
  lent              := hb ▸ h.lent
  collects id hm    :=
    have ⟨h₁, h₂, h₃⟩ := h.collects id (hb ▸ hm)
    ⟨hi ▸ h₁, fun hm => h₂ (hl.subset hm), fun hm => h₃ (hw.subset hm)⟩
  once              := h.once.sublist hw
  asked id hm       := hi ▸ h.asked id (hw.subset hm)
  kept hn id hm     := hk hn id hm (h.kept (hg hn) id (hw.subset hm))

theorem Queues.keep (h : s.Queues) (hl : s'.line = s.line) (hi : s'.issued = s.issued) (hw : s'.waiting = s.waiting)
    (hb : s'.lent.map (·.1) = s.lent.map (·.1)) (hg : s'.isGone = false → s.isGone = false) : s'.Queues :=
  h.sublist (hl ▸ List.Sublist.refl _) hi (hw ▸ List.Sublist.refl _) hb (fun _ _ _ hm => hl ▸ hm) hg

-- An acquirer whose turn it is gets its answer, if it has not gone.
theorem Queues.reply (h : s.Queues) {id : Nat} {result : Except Error (Dated κ)} (hp : s'.phase.acquirer = none)
    (hr : s'.replies = s.replies)
    (hl : s.line = s.replies.map (·.1) ++ id :: s'.queue.filterMap PoolRequest.acquirer) (hi : s'.issued = s.issued)
    (hw : s'.waiting = s.waiting) (hb : s'.lent = s.lent) (hg : s'.isGone = false → s.isGone = false) :
    (s'.reply id result).Queues := by
  have line : s'.line = s.replies.map (·.1) ++ s'.queue.filterMap PoolRequest.acquirer := by
    rw [State.line, hr, hp, Option.toList_none, List.nil_append]
  rw [State.reply]
  split
  case isTrue hm =>
    refine h.keep ?_ hi hw (congrArg _ hb) hg
    rw [hl, State.line, hp, hr, List.map_append, List.append_assoc]
    rfl
  case isFalse hm =>
    have hs : List.Sublist s'.line s.line := by
      rw [line, hl]
      exact (List.sublist_cons_self _ _).append_left _
    refine h.sublist hs hi (hw ▸ List.Sublist.refl _) (congrArg _ hb) (fun _ i hi hi' => ?_) hg
    rw [hl, List.mem_append, List.mem_cons] at hi'
    rw [line, List.mem_append]
    obtain hi' | rfl | hi' := hi'
    · exact .inl hi'
    · exact absurd hi hm
    · exact .inr hi'

variable [Link κ] {config : PoolConfig} {label : Label κ}

theorem Queues.receive (h : s.Queues) {request : PoolRequest κ} {queue : List (PoolRequest κ)}
    (hp : s.phase = .receiving) (hq : s.queue = request :: queue) :
    ({ s with queue }.receive config request).Queues := by
  have gone : s.isGone = false := by rw [isGone, hp]
  have hl : s.line = s.replies.map (·.1) ++ (request.acquirer.toList ++ queue.filterMap PoolRequest.acquirer) := by
    rw [line, hp, hq, List.filterMap_cons]
    cases request
    all_goals rfl
  cases request
  case acquire id =>
    simp only [State.receive]
    generalize handleAcquire config s.now s.manager = x
    obtain ⟨answer, manager⟩ := x
    cases answer
    case reply   => exact h.reply (by rw [hp]; rfl) rfl hl rfl rfl rfl fun _ => gone
    case connect => exact h.keep hl.symm rfl rfl rfl fun _ => gone
  case return_ conn createdAt =>
    simp only [State.receive]
    split
    case isTrue  => exact h.keep hl.symm rfl rfl rfl fun _ => gone
    case isFalse =>
      refine h.keep ?_ rfl rfl rfl fun _ => gone
      rw [hl, line, hp]
      rfl
  case close => exact h.keep hl.symm rfl rfl rfl fun _ => gone

omit [Link κ] in
-- An acquirer has taken its answer, or does not wait for it.
theorem Queues.leave (h : s.Queues) (id : Nat) :
    ({ s with replies := remove id s.replies, waiting := s.waiting.erase id } : State κ).Queues := by
  refine h.sublist ((remove_fst_sublist id _).append_right _) rfl List.erase_sublist rfl (fun _ i hi hm => ?_) fun h => h
  have hne : i ≠ id := by
    rintro rfl
    exact (List.Nodup.mem_erase_iff h.once).mp hi |>.left rfl
  rcases List.mem_append.mp hm with hm | hm
  · refine List.mem_append_left _ ?_
    have ⟨x, hx, he⟩ := List.mem_map.mp hm
    refine List.mem_map.mpr ⟨x, ?_, he⟩
    exact (List.mem_eraseP_of_neg (by simpa [he] using hne)).mpr hx
  · exact List.mem_append_right _ hm

omit [Link κ] in
theorem Queues.sendAcquire (h : s.Queues) :
    ({ s with
      reserved := s.reserved - 1
      issued := s.issued + 1
      waiting := s.waiting ++ [s.issued] }.send (.acquire s.issued)).Queues := by
  have fresh {xs : List Nat} (hx : ∀ id ∈ xs, id < s.issued) : s.issued ∉ xs := fun hm => Nat.lt_irrefl _ (hx _ hm)
  have hl : ({ s with
      reserved := s.reserved - 1
      issued := s.issued + 1
      waiting := s.waiting ++ [s.issued] }.send (.acquire s.issued)).line = s.line ++ [s.issued] := by
    simp only [line, State.send, List.filterMap_append, List.append_assoc]
    rfl
  have last {xs : List Nat} (hx : ∀ id ∈ xs, id < s.issued) : ∀ id ∈ xs ++ [s.issued], id < s.issued + 1 := by
    intro id hm
    rcases List.mem_append.mp hm with hm | hm
    · exact Nat.lt_succ_of_lt (hx id hm)
    · exact List.mem_singleton.mp hm ▸ Nat.lt_succ_self _
  refine ⟨?_, ?_, h.lent, ?_, ?_, last h.asked, ?_⟩
  · rw [hl]
    refine List.pairwise_append.mpr ⟨h.inOrder, List.pairwise_singleton _ _, fun id hm i hi => ?_⟩
    exact List.mem_singleton.mp hi ▸ h.issued id hm
  · rw [hl]
    exact last h.issued
  · intro id hm
    obtain ⟨h₁, h₂, h₃⟩ := h.collects id hm
    have hne : id ∉ [s.issued] := fun hm => Nat.ne_of_lt h₁ (List.mem_singleton.mp hm)
    rw [hl]
    exact ⟨Nat.lt_succ_of_lt h₁, List.not_mem_append h₂ hne, List.not_mem_append h₃ hne⟩
  · refine List.nodup_append.mpr ⟨h.once, List.pairwise_singleton _ _, fun id hm i hi he => ?_⟩
    exact fresh h.asked (List.mem_singleton.mp hi ▸ he ▸ hm)
  · intro hg id hm
    rw [hl]
    rcases List.mem_append.mp hm with hm | hm
    · exact List.mem_append_left _ (h.kept hg id hm)
    · exact List.mem_append_right _ hm

omit [Link κ] in
theorem Queues.collect (h : s.Queues) {id : Nat} {conn : Dated κ} (hl : lookup id s.replies = some (.ok conn)) :
    ({ s with
      replies := remove id s.replies
      waiting := s.waiting.erase id
      lent := s.lent ++ [(id, ⟨conn, s.now⟩)] } : State κ).Queues := by
  have left := h.leave id
  have hid : id ∈ s.line := List.mem_append_left _ (List.mem_map.mpr ⟨_, mem_of_lookup hl, rfl⟩)
  refine ⟨left.inOrder, left.issued, ?_, ?_, left.once, left.asked, left.kept⟩
  · rw [List.map_append]
    refine List.nodup_append.mpr ⟨h.lent, List.pairwise_singleton _ _, fun i hm j hj he => ?_⟩
    exact (h.collects i hm).right.left (he ▸ List.mem_singleton.mp hj ▸ hid)
  · intro i hm
    rw [List.map_append] at hm
    rcases List.mem_append.mp hm with hm | hm
    · exact left.collects i hm
    · obtain rfl : i = id := List.mem_singleton.mp hm
      refine ⟨h.issued i hid, fun hm => ?_, h.once.not_mem_erase⟩
      have hn := h.nodup
      have ⟨_, _, hd⟩ := List.nodup_append.mp hn
      rcases List.mem_append.mp hm with hm | hm
      · exact not_mem_remove h.replies_nodup hl hm
      · exact hd i (List.mem_map.mpr ⟨_, mem_of_lookup hl, rfl⟩) i hm rfl

omit [Link κ] in
theorem Queues.returned (h : s.Queues) {lent : List (Nat × PooledConnection κ)} (hs : List.Sublist lent s.lent) :
    ({ s with lent } : State κ).Queues :=
  have hm := hs.map (·.1)
  ⟨h.inOrder, h.issued, h.lent.sublist hm, fun id hi => h.collects id (hm.subset hi), h.once, h.asked, h.kept⟩

theorem Queues.step (h : s.Queues) (hs : s.step config label = some s') : s'.Queues := by
  cases step_stepped hs
  case sendAcquire => exact h.sendAcquire
  case sendClose   =>
    refine h.keep ?_ rfl rfl rfl fun h => h
    simp only [line, State.send, List.filterMap_append]
    exact congrArg _ (congrArg _ (List.append_nil _))
  case receive hp hq        => exact h.receive hp hq
  case connected id result hp =>
    refine h.reply rfl rfl ?_ rfl rfl rfl fun _ => ?_
    · rw [line, hp]
      rfl
    · rw [isGone, hp]
  case rolledBack hp | notRolledBack hp =>
    refine h.keep ?_ rfl rfl rfl fun _ => ?_
    · rw [line, line, hp]
      rfl
    · rw [isGone, hp]
  case stop hp hi =>
    refine h.sublist ?_ rfl (List.Sublist.refl _) rfl (by rintro ⟨⟩) (by rintro ⟨⟩)
    exact (List.nil_sublist _).append_left _
  case collect hl => exact h.collect hl
  case refused | giveUp => exact h.leave _
  case use id k p hl =>
    refine h.keep rfl rfl rfl ?_ fun h => h
    rw [List.map_map]
    refine List.map_congr_left fun x _ => ?_
    by_cases hx : x.1 = id
    all_goals simp [hx]
  case discard id p hl => exact h.returned (remove_sublist _ _)
  case drop id p hl    =>
    have hr := h.returned (remove_sublist id s.lent)
    rw [dropLent]
    split
    case isTrue =>
      refine hr.keep ?_ rfl rfl rfl fun h => h
      simp only [line, State.send, List.filterMap_append]
      exact congrArg _ (congrArg _ (List.append_nil _))
    case isFalse => exact hr
  all_goals exact h.keep rfl rfl rfl rfl fun h => h

end State

variable [Link κ] {config : PoolConfig} {s s' : State κ} {labels : List (Label κ)}

omit [Link κ] in
theorem Started.queues (hs : Started config s) : s.Queues := by
  have ⟨manager, connects, now, _, _, _, hinit⟩ := hs.initial
  subst hinit
  exact {
    inOrder  := .nil
    issued   := by rintro _ ⟨⟩
    lent     := .nil
    collects := by rintro _ ⟨⟩
    once     := .nil
    asked    := by rintro _ ⟨⟩
    kept     := by rintro _ _ ⟨⟩
  }

-- Acquirers are answered one by one in the order of their requests, each at most once, and as long as the manager
-- goes on nobody who waits is forgotten.
theorem reaches_queues (hs : Started config s) (hr : Runs (State.step config) s labels s') : s'.Queues :=
  hr.invariant (I := State.Queues) (fun _ _ _ h hl => h.step hl) hs.queues

section Examples

-- Two acquirers, one of which has its answer.
abbrev askTwice : List (Label Tokio.Connection) :=
  [.reserve, .sendAcquire, .reserve, .sendAcquire, .receive, .connected (.ok quiet)]

theorem askTwice_queues :
    ∃ s', Runs (State.step single) empty askTwice s' ∧ s'.replies.length = 1 ∧ s'.queue.length = 1 ∧ s'.line = [0, 1] ∧
      s'.Queues :=
  have hr := .cons rfl <| .cons rfl <| .cons rfl <| .cons rfl <| .cons rfl <| .cons rfl <| .nil _
  ⟨_, hr, rfl, rfl, rfl, reaches_queues empty_started hr⟩

end Examples
end MySQL.Pool
