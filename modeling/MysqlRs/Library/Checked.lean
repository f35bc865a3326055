import Mathlib.Algebra.Group.Int.Defs
import Mathlib.Algebra.GroupWithZero.Nat
import Mathlib.Tactic.Common

-- What cuts a computation short. The last two stand for a loop that does not come to its end and for a
-- vector that does not fit in memory.
inductive Fault
  | index
  | slice
  | overflow
  | division
  | expect
  | endless
  | memory
  deriving DecidableEq

-- Computations made of operations that may be cut short.
abbrev Checked := Except Fault

namespace Checked

variable {α β : Type}

def fault (f : Fault) : Checked α :=
  .error f

-- `xs[i]`
def index (xs : List α) (i : Nat) : Checked α :=
  match xs[i]? with
  | some x => pure x
  | none   => fault .index

-- `xs[i..j]`
def slice (xs : List α) (i j : Nat) : Checked (List α) :=
  if i ≤ j ∧ j ≤ xs.length then pure ((xs.drop i).take (j - i)) else fault .slice

-- `xs[i..]`
def sliceFrom (xs : List α) (i : Nat) : Checked (List α) :=
  if i ≤ xs.length then pure (xs.drop i) else fault .slice

-- Arithmetic on the numbers up to `max`.
def add (max a b : Nat) : Checked Nat :=
  if a + b ≤ max then pure (a + b) else fault .overflow

def sub (a b : Nat) : Checked Nat :=
  if b ≤ a then pure (a - b) else fault .overflow

def mul (max a b : Nat) : Checked Nat :=
  if a * b ≤ max then pure (a * b) else fault .overflow

def pow (max a b : Nat) : Checked Nat :=
  if a ^ b ≤ max then pure (a ^ b) else fault .overflow

def div (a b : Nat) : Checked Nat :=
  if b = 0 then fault .division else pure (a / b)

def rem (a b : Nat) : Checked Nat :=
  if b = 0 then fault .division else pure (a % b)

-- Negation on the numbers from `min` to `-min - 1`.
def neg (min a : Int) : Checked Int :=
  if a = min then fault .overflow else pure (-a)

def addInt (min max a b : Int) : Checked Int :=
  if min ≤ a + b ∧ a + b ≤ max then pure (a + b) else fault .overflow

def clamp (lo hi a : Int) : Checked Int :=
  if hi < lo then fault .expect else pure (max lo (min a hi))

def expect : Option α → Checked α
  | some a => pure a
  | none   => fault .expect

-- A vector that is about to be built, where no more than `max` elements fit in memory.
def vec (max : Nat) (xs : List α) : Checked (List α) :=
  if xs.length ≤ max then pure xs else fault .memory

-- `[xs[i], xs[i + 1], ..]`, with `n` elements.
def indices (max : Nat) (xs : List α) (i n : Nat) : Checked (List α) :=
  (List.range n).mapM fun k => do index xs (← add max i k)

theorem ok_bind (a : α) (f : α → Checked β) : (Except.ok a : Checked α) >>= f = f a :=
  rfl

section Defined

variable {xs : List α} {max i j a b n : Nat}

theorem index_eq (h : i < xs.length) : index xs i = .ok xs[i] := by
  rw [index, List.getElem?_eq_getElem h]
  rfl

theorem slice_eq (hi : i ≤ j) (hj : j ≤ xs.length) : slice xs i j = .ok ((xs.drop i).take (j - i)) :=
  if_pos ⟨hi, hj⟩

theorem index_getD (d : α) (h : i < xs.length) : index xs i = .ok (xs.getD i d) := by
  rw [index_eq h, List.getD_eq_getElem?_getD, List.getElem?_eq_getElem h, Option.getD_some]

theorem slice_zero (h : j ≤ xs.length) : slice xs 0 j = .ok (xs.take j) :=
  slice_eq (Nat.zero_le j) h

theorem sliceFrom_eq (h : i ≤ xs.length) : sliceFrom xs i = .ok (xs.drop i) :=
  if_pos h

theorem add_eq (h : a + b ≤ max) : add max a b = .ok (a + b) :=
  if_pos h

theorem sub_eq (h : b ≤ a) : sub a b = .ok (a - b) :=
  if_pos h

theorem mul_eq (h : a * b ≤ max) : mul max a b = .ok (a * b) :=
  if_pos h

theorem pow_eq (h : a ^ b ≤ max) : pow max a b = .ok (a ^ b) :=
  if_pos h

theorem div_eq (h : b ≠ 0) : div a b = .ok (a / b) :=
  if_neg h

theorem rem_eq (h : b ≠ 0) : rem a b = .ok (a % b) :=
  if_neg h

theorem neg_eq {m k : Int} (h : k ≠ m) : neg m k = .ok (-k) :=
  if_neg h

theorem addInt_eq {lo hi k l : Int} (h : lo ≤ k + l) (h' : k + l ≤ hi) : addInt lo hi k l = .ok (k + l) :=
  if_pos ⟨h, h'⟩

theorem add_fault (h : max < a + b) : add max a b = .error .overflow :=
  if_neg (Nat.not_le.mpr h)

theorem addInt_fault {lo hi k l : Int} (h : hi < k + l) : addInt lo hi k l = .error .overflow :=
  if_neg fun hb => absurd hb.right (Int.not_le.mpr h)

theorem clamp_eq {lo hi k : Int} (h : lo ≤ hi) : clamp lo hi k = .ok (Max.max lo (min k hi)) :=
  if_neg (Int.not_lt.mpr h)

theorem mapM_eq {f : α → Checked β} {g : α → β} {as : List α} (h : ∀ a ∈ as, f a = .ok (g a)) :
    as.mapM f = .ok (as.map g) := by
  induction as
  case nil          => rfl
  case cons a as ih =>
    rw [List.mapM_cons, h a List.mem_cons_self, ih fun b hb => h b (List.mem_cons_of_mem a hb)]
    rfl

theorem indices_eq (hx : i + n ≤ xs.length) (hm : i + n ≤ max + 1) :
    indices max xs i n = .ok ((xs.drop i).take n) := by
  induction n
  case zero      => rfl
  case succ n ih =>
    have ih := ih (by omega) (by omega)
    have hi : i + n < xs.length := by omega
    rw [indices] at ih ⊢
    rw [List.range_succ, List.mapM_append, ih, List.mapM_cons, add_eq (by omega)]
    change (index xs (i + n) >>= _) >>= _ = _
    rw [index_eq hi, List.take_add_one, List.getElem?_drop, List.getElem?_eq_getElem hi]
    rfl

end Defined

-- The computation gives such a value, unless it runs out of memory.
def Returns (P : α → Prop) : Checked α → Prop
  | .ok a    => P a
  | .error f => f = .memory

namespace Returns

variable {P Q : α → Prop} {R : β → Prop} {x : Checked α}

theorem bind {f : α → Checked β} (hx : x.Returns P) (hf : ∀ a, P a → (f a).Returns R) :
    Returns R (x >>= f) := by
  cases x
  case error e => exact hx
  case ok a    => exact hf a hx

theorem mono (hx : x.Returns P) (h : ∀ a, P a → Q a) : x.Returns Q := by
  cases x
  case error e => exact hx
  case ok a    => exact h a hx

theorem of_eq {a : α} (h : x = .ok a) (ha : P a) : x.Returns P :=
  h ▸ ha

end Returns

theorem vec_returns {max : Nat} (xs : List α) : (vec max xs).Returns fun ys => ys = xs ∧ xs.length ≤ max := by
  rw [vec]
  split_ifs
  case pos h => exact ⟨rfl, h⟩
  case neg   => exact rfl

end Checked
