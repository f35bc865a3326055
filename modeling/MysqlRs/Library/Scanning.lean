import Mathlib.Data.List.TakeWhile

-- Taking a list apart into lexemes from the front: `next` gives the first of them, and what follows it.
namespace Scanning

variable {σ τ : Type} (next : List σ → Option (τ × List σ))

inductive Scans : List σ → List τ → List σ → Prop
  | nil (s : List σ) : Scans s [] s
  | cons {s r rest : List σ} {x : τ} {xs : List τ} : next s = some (x, r) → Scans r xs rest → Scans s (x :: xs) rest

-- Where something is left, what is behind it makes no difference.
structure Local : Prop where
  empty  : next [] = none
  extend : ∀ {s r : List σ} {x : τ} (more : List σ), next s = some (x, r) → r ≠ [] →
    next (s ++ more) = some (x, r ++ more)

variable {next} {s r rest : List σ} {x : τ} {xs ys : List τ}

namespace Scans

theorem single (h : next s = some (x, rest)) : Scans next s [x] rest :=
  .cons h (.nil rest)

theorem append (h : Scans next s xs r) (h' : Scans next r ys rest) : Scans next s (xs ++ ys) rest := by
  induction h
  case nil            => exact h'
  case cons hn _ ih   => exact .cons hn (ih h')

theorem split (h : Scans next s (xs ++ ys) rest) : ∃ r, Scans next s xs r ∧ Scans next r ys rest := by
  induction xs generalizing s
  case nil          => exact ⟨s, .nil s, h⟩
  case cons x xs ih =>
    obtain _ | ⟨hn, h⟩ := h
    obtain ⟨r, hx, hy⟩ := ih h
    exact ⟨r, .cons hn hx, hy⟩

theorem extend (hl : Local next) (h : Scans next s xs rest) (hr : rest ≠ []) (more : List σ) :
    Scans next (s ++ more) xs (rest ++ more) := by
  induction h
  case nil => exact .nil _
  case cons r _ _ _ hn h ih =>
    refine .cons (hl.extend more hn ?_) (ih hr)
    rintro rfl
    obtain _ | ⟨hn, _⟩ := h
    · exact hr rfl
    · cases hl.empty.symm.trans hn

end Scans

-- All of a list, in not more than a given number of lexemes.
def all (next : List σ → Option (τ × List σ)) : Nat → List σ → Option (List τ)
  | _, []         => some []
  | 0, _ :: _     => none
  | n + 1, a :: s => do
    let (x, r) ← next (a :: s)
    let xs ← all next n r
    return x :: xs

theorem Scans.of_all {n : Nat} (h : all next n s = some xs) : Scans next s xs [] := by
  fun_induction all next n s generalizing xs
  case case1 =>
    obtain rfl := Option.some.inj h
    exact .nil []
  case case2 => cases h
  case case3 n a s ih =>
    obtain ⟨⟨x, r⟩, hn, h⟩ := Option.bind_eq_some_iff.mp h
    obtain ⟨xs, hr, h⟩ := Option.bind_eq_some_iff.mp h
    obtain rfl := Option.some.inj h
    exact .cons hn (ih r hr)

-- What is made of a lexeme does not change what is left.
theorem map_extend {υ : Type} {o o' : Option (τ × List σ)} {f : τ → υ} {y : υ} {more : List σ}
    (h : (fun q => (f q.1, q.2)) <$> o = some (y, r)) (ih : ∀ x, o = some (x, r) → o' = some (x, r ++ more)) :
    (fun q => (f q.1, q.2)) <$> o' = some (y, r ++ more) := by
  obtain ⟨⟨x, r'⟩, ho, hy⟩ := Option.map_eq_some_iff.mp h
  obtain ⟨rfl, rfl⟩ := Prod.mk.inj hy
  rw [ih x ho]
  rfl

-- Nor does a choice that the rest does not change either.
theorem ite_extend {p q : Prop} [Decidable p] [Decidable q] {o₁ o₂ o₁' o₂' : Option (τ × List σ)} {more : List σ}
    (h : (if p then o₁ else o₂) = some (x, r)) (hp : q ↔ p)
    (h₁ : p → o₁ = some (x, r) → o₁' = some (x, r ++ more)) (h₂ : ¬p → o₂ = some (x, r) → o₂' = some (x, r ++ more)) :
    (if q then o₁' else o₂') = some (x, r ++ more) := by
  split at h
  case isTrue hc  => exact (if_pos (hp.mpr hc)).trans (h₁ hc h)
  case isFalse hc => exact (if_neg (mt hp.mp hc)).trans (h₂ hc h)

section Runs

variable {p : σ → Bool} {more : List σ}

theorem takeWhile_extend (h : s.dropWhile p ≠ []) : (s ++ more).takeWhile p = s.takeWhile p := by
  have hl : ¬(s.takeWhile p).length = s.length := by
    intro hl
    have hs := congrArg List.length (List.takeWhile_append_dropWhile (p := p) (l := s))
    rw [List.length_append, hl] at hs
    exact h (List.length_eq_zero_iff.mp (by omega))
  rw [List.takeWhile_append, if_neg hl]

theorem dropWhile_extend (h : s.dropWhile p ≠ []) : (s ++ more).dropWhile p = s.dropWhile p ++ more := by
  rw [List.dropWhile_append, if_neg (mt List.isEmpty_iff.mp h)]

end Runs
end Scanning
