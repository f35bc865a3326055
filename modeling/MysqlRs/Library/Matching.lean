import Mathlib.Data.List.Perm.Basic

-- Lists whose elements correspond to each other along a relation.
namespace List

variable {α β : Type*} {R : α → α → Prop} {xs ys zs : List α}

theorem Forall₂.imp_of {R S : α → β → Prop} {ys : List β} (hi : ∀ x ∈ xs, ∀ y, R x y → S x y) (h : Forall₂ R xs ys) :
    Forall₂ S xs ys := by
  induction h
  case nil            => exact .nil
  case cons hr _ ih =>
    have ⟨hx, hxs⟩ := forall_mem_cons.mp hi
    exact .cons (hx _ hr) (ih hxs)

theorem Forall₂.exists_right {R : α → β → Prop} {ys : List β} (h : Forall₂ R xs ys) : ∀ x ∈ xs, ∃ y ∈ ys, R x y := by
  induction h
  case nil => exact forall_mem_nil _
  case cons hr _ ih =>
    refine forall_mem_cons.mpr ⟨⟨_, mem_cons_self, hr⟩, fun x hx => ?_⟩
    have ⟨y, hy, hr⟩ := ih x hx
    exact ⟨y, mem_cons_of_mem _ hy, hr⟩

-- A relation that is symmetric on the elements of a list is so on the list.
theorem Forall₂.symm_of (hs : ∀ x ∈ xs, ∀ y, R x y → R y x) (h : Forall₂ R xs ys) : Forall₂ R ys xs :=
  (h.imp_of hs).flip

theorem Forall₂.trans_of (ht : ∀ x ∈ xs, ∀ y z, R x y → R y z → R x z) (h : Forall₂ R xs ys) (h' : Forall₂ R ys zs) :
    Forall₂ R xs zs := by
  induction h generalizing zs
  case nil            => exact h'
  case cons hr _ ih =>
    obtain ⟨⟩ | ⟨hr', h'⟩ := h'
    have ⟨hx, hxs⟩ := forall_mem_cons.mp ht
    exact .cons (hx _ _ hr hr') (ih hxs h')

-- Where no two elements correspond to each other, elements that all have a counterpart in a list of the same
-- length are that list in another order.
theorem exists_perm_forall₂ (hp : xs.Pairwise fun a b => ¬R a b)
    (hr : ∀ x ∈ xs, ∀ x' ∈ xs, ∀ y, R x y → R x' y → R x x') (h : ∀ x ∈ xs, ∃ y ∈ ys, R x y)
    (hl : xs.length = ys.length) : ∃ zs, zs.Perm ys ∧ Forall₂ R xs zs := by
  induction xs generalizing ys
  case nil =>
    obtain rfl := length_eq_zero_iff.mp hl.symm
    exact ⟨[], .nil, .nil⟩
  case cons x xs ih =>
    have ⟨hx, hxs⟩ := pairwise_cons.mp hp
    have ⟨⟨y, hy, hxy⟩, h⟩ := forall_mem_cons.mp h
    obtain ⟨ys', hys⟩ : ∃ ys', ys.Perm (y :: ys') := by
      obtain ⟨before, after, rfl⟩ := append_of_mem hy
      exact ⟨before ++ after, perm_middle⟩
    have rest : ∀ x' ∈ xs, ∃ y' ∈ ys', R x' y' := by
      intro x' hx'
      have ⟨y', hy', hr'⟩ := h x' hx'
      obtain rfl | hy' := mem_cons.mp (hys.mem_iff.mp hy')
      · exact absurd (hr x mem_cons_self x' (mem_cons_of_mem _ hx') y' hxy hr') (hx x' hx')
      · exact ⟨y', hy', hr'⟩
    have hr' : ∀ a ∈ xs, ∀ b ∈ xs, ∀ z, R a z → R b z → R a b := fun a ha b hb =>
      hr a (mem_cons_of_mem _ ha) b (mem_cons_of_mem _ hb)
    have hl' : xs.length = ys'.length := by
      have := hys.length_eq
      rw [length_cons] at hl this
      omega
    have ⟨zs, hz, hf⟩ := ih hxs hr' rest hl'
    exact ⟨y :: zs, (hz.cons y).trans hys.symm, .cons hxy hf⟩

end List
