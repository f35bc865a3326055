import Mathlib.Algebra.Order.Floor.Semifield
import Mathlib.Data.Int.Log
import Mathlib.Data.Rat.Floor
import Mathlib.Tactic.FieldSimp
import Mathlib.Tactic.Linarith
import Mathlib.Tactic.NormNum
import Mathlib.Tactic.Positivity
import Mathlib.Tactic.Ring

-- Rounding positive rational numbers to binary ones: numbers `m * 2 ^ e` with a significand of `k + 1` bits and an
-- exponent that is not below a least one.
namespace Rounding

-- The closest natural number, and of two equally close ones the even one.
def halfEven (q : ℚ) : ℕ :=
  let n := ⌊q⌋₊
  if 2 * (q - n) < 1 then n else if 1 < 2 * (q - n) then n + 1 else n + n % 2

theorem halfEven_of_near {q : ℚ} {m : ℕ} (h : |q - m| < 1 / 2) : halfEven q = m := by
  obtain ⟨hl, hu⟩ := abs_lt.mp h
  by_cases hm : (m : ℚ) ≤ q
  case pos =>
    have hn : ⌊q⌋₊ = m := (Nat.floor_eq_iff (le_trans (Nat.cast_nonneg m) hm)).mpr ⟨hm, by linarith⟩
    have hlt : 2 * (q - m) < 1 := by linarith
    rw [halfEven, hn]
    exact if_pos hlt
  case neg =>
    have hm := lt_of_not_ge hm
    obtain hz | hz := lt_or_ge q 0
    case inl =>
      have hc : (m : ℚ) < 1 := by linarith
      obtain rfl : m = 0 := Nat.lt_one_iff.mp (by exact_mod_cast hc)
      have hn : ⌊q⌋₊ = 0 := Nat.floor_of_nonpos hz.le
      have hlt : 2 * (q - (0 : ℕ)) < 1 := by
        rw [Nat.cast_zero]
        linarith
      rw [halfEven, hn]
      exact if_pos hlt
    case inr =>
      obtain ⟨n, rfl⟩ : ∃ n, m = n + 1 := Nat.exists_eq_succ_of_ne_zero (by rintro rfl; simp at hm; linarith)
      push_cast at hl hu hm
      have hn : ⌊q⌋₊ = n := (Nat.floor_eq_iff hz).mpr ⟨by linarith, by linarith⟩
      have hge : ¬2 * (q - n) < 1 := by linarith
      have hgt : 1 < 2 * (q - n) := by linarith
      rw [halfEven, hn]
      exact (if_neg hge).trans (if_pos hgt)

-- The quotient and the remainder decide.
theorem halfEven_div {n d : ℕ} (hd : 0 < d) : halfEven (n / d) =
    if 2 * (n % d) < d then n / d else if d < 2 * (n % d) then n / d + 1 else n / d + n / d % 2 := by
  have hd' : (0 : ℚ) < d := Nat.cast_pos.mpr hd
  have hf : ⌊(n / d : ℚ)⌋₊ = n / d := Nat.floor_div_eq_div n d
  have hr : 2 * ((n / d : ℚ) - (n / d : ℕ)) = (2 * (n % d) : ℕ) / d := by
    have hn : (n : ℚ) = d * (n / d : ℕ) + (n % d : ℕ) := by exact_mod_cast (Nat.div_add_mod n d).symm
    push_cast
    field_simp
    linarith
  have hlt : 2 * ((n / d : ℚ) - (n / d : ℕ)) < 1 ↔ 2 * (n % d) < d := by
    rw [hr, div_lt_one hd']
    exact Nat.cast_lt
  have hgt : 1 < 2 * ((n / d : ℚ) - (n / d : ℕ)) ↔ d < 2 * (n % d) := by
    rw [hr, one_lt_div hd']
    exact Nat.cast_lt
  rw [halfEven, hf]
  simp only [hlt, hgt]

variable (k : ℕ) (least : ℤ)

-- The exponent with which a number has as many bits as there are, unless it is too small.
def exponent (w : ℚ) : ℤ :=
  max least (Int.log 2 w - k)

-- The numbers in their order, counted from zero.
def code (w : ℚ) : ℕ :=
  (exponent k least w - least).toNat * 2 ^ k + halfEven (w / 2 ^ exponent k least w)

structure Representable (m : ℕ) (e : ℤ) : Prop where
  pos    : 0 < m
  lt     : m < 2 ^ (k + 1)
  le     : least ≤ e
  normal : e = least ∨ 2 ^ k ≤ m

variable {k least} {m : ℕ} {e : ℤ} {w : ℚ}

theorem log_le_iff (hw : 0 < w) : Int.log 2 w ≤ e ↔ w < 2 ^ (e + 1) := by
  have h := Int.lt_zpow_iff_log_lt (b := 2) (x := e + 1) (by decide) hw
  rw [Nat.cast_ofNat] at h
  rw [h]
  omega

theorem le_log_iff (hw : 0 < w) : e ≤ Int.log 2 w ↔ 2 ^ e ≤ w := by
  have h := Int.zpow_le_iff_le_log (b := 2) (x := e) (by decide) hw
  rw [Nat.cast_ofNat] at h
  exact h.symm

namespace Representable

private theorem in_units (hw : |w - m * 2 ^ e| < m * 2 ^ e / 2 ^ (k + 2)) : |w / 2 ^ e - m| < m / (4 * 2 ^ k) := by
  have he : (0 : ℚ) < 2 ^ e := zpow_pos two_pos e
  have hd : w / 2 ^ e - m = (w - m * 2 ^ e) / 2 ^ e := by
    field_simp
  have hb : (m : ℚ) / (4 * 2 ^ k) = m * 2 ^ e / 2 ^ (k + 2) / 2 ^ e := by
    rw [pow_add]
    field_simp
    norm_num
  rw [hd, hb, abs_div, abs_of_pos he]
  exact div_lt_div_of_pos_right hw he

section Near

-- In units of the exponent, a number that is close enough is off by less than a half, and by less than a quarter at a
-- power of two.
variable {r : ℚ} (h : Representable k least m e) (hr : |r - m| < m / (4 * 2 ^ k))

include h

private theorem add_one_le : (m : ℚ) + 1 ≤ 2 * 2 ^ k := by
  have hlt := h.lt
  rw [Nat.pow_succ] at hlt
  have hle : m + 1 ≤ 2 * 2 ^ k := by omega
  exact_mod_cast hle

include hr

private theorem near_half : |r - m| < 1 / 2 := by
  have hm := h.add_one_le
  refine hr.trans ?_
  rw [div_lt_iff₀ (by positivity)]
  linarith

private theorem near_pos : 0 < r := by
  have hm : (1 : ℚ) ≤ m := by exact_mod_cast h.pos
  have ⟨hl, _⟩ := abs_lt.mp (h.near_half hr)
  linarith

private theorem exponent_near (hb : e = least ∨ 2 ^ k ≤ r) :
    exponent k least (r * 2 ^ e) = e := by
  have he : (0 : ℚ) < 2 ^ e := zpow_pos two_pos e
  have hw : 0 < r * 2 ^ e := mul_pos (h.near_pos hr) he
  have hm := h.add_one_le
  have ⟨_, hu⟩ := abs_lt.mp (h.near_half hr)
  have top : Int.log 2 (r * 2 ^ e) ≤ e + k := by
    rw [log_le_iff hw, add_assoc, zpow_add₀ two_ne_zero, mul_comm, zpow_add₀ two_ne_zero, zpow_natCast, zpow_one]
    exact mul_lt_mul_of_pos_left (by linarith) he
  have bottom : e = least ∨ e + k ≤ Int.log 2 (r * 2 ^ e) := by
    refine hb.imp id fun hb => (le_log_iff hw).mpr ?_
    rw [zpow_add₀ two_ne_zero, zpow_natCast, mul_comm]
    exact mul_le_mul_of_nonneg_right hb he.le
  have hle := h.le
  rw [exponent]
  omega

-- Below a power of two the numbers are twice as close.
private theorem eq_pow_of_lt (hne : e ≠ least) (hlt : r < 2 ^ k) : m = 2 ^ k := by
  have ⟨hl, _⟩ := abs_lt.mp (h.near_half hr)
  have hlow := h.normal.resolve_left hne
  have hc : (m : ℚ) < 2 ^ k + 1 := by linarith
  have hc : m < 2 ^ k + 1 := by exact_mod_cast hc
  omega

private theorem exponent_below (hne : e ≠ least) (hlt : r < 2 ^ k) :
    exponent k least (r * 2 ^ e) = e - 1 ∧ halfEven (2 * r) = 2 ^ (k + 1) := by
  have he : (0 : ℚ) < 2 ^ e := zpow_pos two_pos e
  have hk : (1 : ℚ) ≤ 2 ^ k := one_le_pow₀ one_le_two
  have hw : 0 < r * 2 ^ e := mul_pos (h.near_pos hr) he
  have hm : (m : ℚ) = 2 ^ k := by exact_mod_cast h.eq_pow_of_lt hr hne hlt
  have quarter : (m : ℚ) / (4 * 2 ^ k) = 1 / 4 := by
    rw [hm]
    field_simp
  have ⟨hl, hu⟩ := abs_lt.mp (quarter ▸ hr)
  refine ⟨?_, halfEven_of_near (abs_lt.mpr ?_)⟩
  · have hlog : Int.log 2 (r * 2 ^ e) = e + k - 1 := by
      refine le_antisymm ((log_le_iff hw).mpr ?_) ((le_log_iff hw).mpr ?_)
      · rw [sub_add_cancel, zpow_add₀ two_ne_zero, zpow_natCast, mul_comm]
        exact mul_lt_mul_of_pos_left hlt he
      · rw [zpow_sub₀ two_ne_zero, zpow_add₀ two_ne_zero, zpow_natCast, zpow_one, mul_div_assoc, mul_comm]
        refine mul_le_mul_of_nonneg_right ?_ he.le
        linarith
    have hle := h.le
    rw [exponent, hlog]
    omega
  · push_cast
    rw [pow_succ]
    constructor
    all_goals linarith

end Near

-- What is close enough to a number is rounded to it.
theorem code_near (h : Representable k least m e) (hw : |w - m * 2 ^ e| < m * 2 ^ e / 2 ^ (k + 2)) :
    code k least w = (e - least).toNat * 2 ^ k + m := by
  have he : (2 : ℚ) ^ e ≠ 0 := (zpow_pos two_pos e).ne'
  have hr := in_units hw
  obtain ⟨r, rfl⟩ : ∃ r, w = r * 2 ^ e := ⟨w / 2 ^ e, (div_mul_cancel₀ w he).symm⟩
  rw [mul_div_cancel_right₀ r he] at hr
  by_cases hb : e = least ∨ 2 ^ k ≤ r
  case pos =>
    rw [code, h.exponent_near hr hb, mul_div_cancel_right₀ r he, halfEven_of_near (h.near_half hr)]
  case neg =>
    obtain ⟨hne, hlt⟩ := not_or.mp hb
    have hlt := lt_of_not_ge hlt
    obtain ⟨hexp, hround⟩ := h.exponent_below hr hne hlt
    have htwice : r * 2 ^ e / 2 ^ (e - 1) = 2 * r := by
      rw [zpow_sub₀ two_ne_zero, zpow_one]
      field_simp
    have hsteps : (e - least).toNat = (e - 1 - least).toNat + 1 := by
      have hle := h.le
      omega
    rw [code, hexp, htwice, hround, hsteps, h.eq_pow_of_lt hr hne hlt]
    ring

end Representable
end Rounding
