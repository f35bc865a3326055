import Mathlib.Tactic.Common

variable {α : Type*}

-- The items in pieces of `n`, the last of which may be shorter.
def chunks (n : Nat) (xs : List α) : List (List α) :=
  if _h : n = 0 ∨ xs = [] then [] else xs.take n :: chunks n (xs.drop n)
termination_by xs.length
decreasing_by
  have ⟨hn, hx⟩ := not_or.mp _h
  have := List.length_pos_iff.mpr hx
  rw [List.length_drop]
  omega

variable {n : Nat} {xs : List α}

@[simp]
theorem chunks_nil (n : Nat) : chunks n ([] : List α) = [] := by
  rw [chunks, dif_pos (.inr rfl)]

theorem chunks_of_ne_nil (hn : n ≠ 0) (hx : xs ≠ []) : chunks n xs = xs.take n :: chunks n (xs.drop n) := by
  rw [chunks, dif_neg (not_or.mpr ⟨hn, hx⟩)]

theorem chunks_flatten (hn : n ≠ 0) (xs : List α) : (chunks n xs).flatten = xs := by
  fun_induction chunks n xs
  case case1 xs h    => rw [h.resolve_left hn, List.flatten_nil]
  case case2 xs _ ih => rw [List.flatten_cons, ih, List.take_append_drop]

theorem chunks_of_le (hx : xs ≠ []) (h : xs.length ≤ n) : chunks n xs = [xs] := by
  have hn : n ≠ 0 := fun hn => hx (List.length_eq_zero_iff.mp (by omega))
  rw [chunks_of_ne_nil hn hx, List.take_of_length_le h, List.drop_of_length_le h, chunks_nil]
