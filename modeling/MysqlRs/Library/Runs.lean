import Mathlib.Tactic.Common

-- Runs of a system whose steps are chosen by labels. A label is refused where its step is not possible.
section Runs

variable {σ ι : Type*} (step : σ → ι → Option σ)

-- The run of these labels is possible, and leads from one state to the other.
inductive Runs : σ → List ι → σ → Prop
  | nil (s) : Runs s [] s
  | cons {s l s₁ ls s₂} : step s l = some s₁ → Runs s₁ ls s₂ → Runs s (l :: ls) s₂

-- What holds of every step of a run, in the state before it.
def Along (P : σ → ι → Prop) : σ → List ι → Prop
  | _, []      => True
  | s, l :: ls => P s l ∧ ∀ s' ∈ step s l, Along P s' ls

variable {step} {s s' : σ} {ls : List ι} {I : σ → Prop} {P Q : σ → ι → Prop}

theorem Runs.invariant (h : Runs step s ls s') (hi : ∀ s l s', I s → step s l = some s' → I s') (hs : I s) : I s' := by
  induction h
  case nil            => exact hs
  case cons hl _ ih => exact ih (hi _ _ _ hs hl)

-- What is left to do grows less by every step that is counted, so there are no more of these than it.
theorem Runs.countP_le {w : σ → Nat} {c : ι → Bool}
    (hi : ∀ s l s', I s → step s l = some s' → I s' ∧ w s' + (c l).toNat ≤ w s)
    (h : Runs step s ls s') (hs : I s) : I s' ∧ ls.countP c + w s' ≤ w s := by
  induction h
  case nil                  => exact ⟨hs, by simp⟩
  case cons l _ ls _ hl _ ih =>
    have ⟨hi, hw⟩ := hi _ _ _ hs hl
    have ⟨hi', hw'⟩ := ih hi
    refine ⟨hi', ?_⟩
    rw [List.countP_cons]
    cases hc : c l
    all_goals
      simp [hc] at hw ⊢
      omega

theorem Runs.append {s₁ : σ} {ls' : List ι} (h : Runs step s ls s₁) (h' : Runs step s₁ ls' s') :
    Runs step s (ls ++ ls') s' := by
  induction h
  case nil          => exact h'
  case cons hl _ ih => exact .cons hl (ih h')

theorem Along.of_forall (h : ∀ l ∈ ls, ∀ s, P s l) : Along step P s ls := by
  induction ls generalizing s
  case nil          => trivial
  case cons l ls ih =>
    have ⟨hl, hls⟩ := List.forall_mem_cons.mp h
    exact ⟨hl s, fun _ _ => ih hls⟩

theorem Along.append {ls' : List ι} (hr : Runs step s ls s') (h : Along step P s ls) (h' : Along step P s' ls') :
    Along step P s (ls ++ ls') := by
  induction hr
  case nil          => exact h'
  case cons hl _ ih => exact ⟨h.left, fun _ hs => Option.some.inj (hl.symm.trans hs) ▸ ih (h.right _ hl) h'⟩

theorem Along.cons {s₁ : σ} {l : ι} (hl : step s l = some s₁) (hp : P s l) (h : Along step P s₁ ls) :
    Along step P s (l :: ls) :=
  ⟨hp, fun _ hs => Option.some.inj (hl.symm.trans hs) ▸ h⟩

theorem along_and : Along step (fun s l => P s l ∧ Q s l) s ls ↔ Along step P s ls ∧ Along step Q s ls := by
  induction ls generalizing s
  case nil          => exact ⟨fun _ => ⟨trivial, trivial⟩, fun _ => trivial⟩
  case cons l ls ih =>
    simp only [Along, ih]
    exact ⟨fun ⟨⟨hp, hq⟩, h⟩ => ⟨⟨hp, fun s' hl => (h s' hl).left⟩, hq, fun s' hl => (h s' hl).right⟩,
      fun ⟨⟨hp, h⟩, hq, h'⟩ => ⟨⟨hp, hq⟩, fun s' hl => ⟨h s' hl, h' s' hl⟩⟩⟩

-- The steps of a run meet what follows from an invariant and from what they are known to meet.
theorem Along.imp (hi : ∀ s l s', I s → P s l → step s l = some s' → I s') (hq : ∀ s l, I s → P s l → Q s l)
    (hs : I s) (h : Along step P s ls) : Along step Q s ls := by
  induction ls generalizing s
  case nil          => trivial
  case cons l ls ih => exact ⟨hq s l hs h.left, fun s' hl => ih (hi s l s' hs h.left hl) (h.right s' hl)⟩

theorem Along.invariant (hi : ∀ s l s', I s → P s l → step s l = some s' → I s') (hs : I s)
    (h : Along step P s ls) (hr : Runs step s ls s') : I s' := by
  induction hr
  case nil          => exact hs
  case cons hl _ ih => exact ih (hi _ _ _ hs h.left hl) (h.right _ hl)

-- Two conditions that decide alike on the steps that are possible, as long as they hold, hold of the same runs.
theorem Along.iff (hi : ∀ s l s', I s → P s l → step s l = some s' → I s')
    (hpq : ∀ s l s', I s → step s l = some s' → (P s l ↔ Q s l)) (hs : I s) (hr : Runs step s ls s') :
    Along step P s ls ↔ Along step Q s ls := by
  induction hr
  case nil => exact Iff.rfl
  case cons s l s₁ ls s₂ hl hr ih =>
    rw [Along, Along, ← hpq s l s₁ hs hl]
    refine and_congr_right fun hp => forall₂_congr fun s' hs' => ?_
    obtain rfl : s₁ = s' := Option.some.inj (hl.symm.trans hs')
    exact ih (hi s l s₁ hs hp hl)

-- Two conditions that agree wherever an invariant holds, which either of them keeps, hold of the same runs.
theorem Along.congr (hi : ∀ s l s', I s → P s l → step s l = some s' → I s')
    (hpq : ∀ s l, I s → (P s l ↔ Q s l)) (hs : I s) : Along step P s ls ↔ Along step Q s ls := by
  induction ls generalizing s
  case nil          => exact Iff.rfl
  case cons l ls ih =>
    rw [Along, Along, ← hpq s l hs]
    exact and_congr_right fun hp => forall₂_congr fun s' hs' => ih (hi s l s' hs hp hs')

end Runs
