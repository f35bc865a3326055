import MysqlRs.Core.Text
import MysqlRs.Library.Rounding

namespace MySQL

-- `f64` by its bits.
structure Float64 where
  bits : UInt64
  deriving DecidableEq

namespace Float64

variable (x : Float64)

def isNegative : Bool :=
  2 ^ 63 ≤ x.bits.toNat

def exponentField : Nat :=
  x.bits.toNat / 2 ^ 52 % 2 ^ 11

def fraction : Nat :=
  x.bits.toNat % 2 ^ 52

def isFinite : Bool :=
  x.exponentField ≠ 2047

def isNan : Bool :=
  x.exponentField = 2047 ∧ x.fraction ≠ 0

-- The magnitude of a finite number as a quotient of natural numbers.
def ratio : Nat × Nat :=
  let significand := if x.exponentField = 0 then x.fraction else 2 ^ 52 + x.fraction
  let exponent := max x.exponentField 1
  if 1075 ≤ exponent then (significand * 2 ^ (exponent - 1075), 1)
  else (significand, 2 ^ (1075 - exponent))

private def divHalfEven (num den : Nat) : Nat :=
  let q := num / den
  let r := num % den
  if 2 * r < den then q
  else if den < 2 * r then q + 1
  else q + q % 2

private def withExponent (num den : Nat) (e : Int) : Nat × Nat :=
  if 0 ≤ e then (num, den * 2 ^ e.toNat) else (num * 2 ^ (-e).toNat, den)

-- The number closest to a quotient, and of two equally close ones the one with the even significand.
def ofRatio (negative : Bool) (num den : Nat) : Float64 :=
  let magnitude :=
    if num = 0 then 0
    else
      let e := max (-1074) ((Nat.log2 num : Int) - Nat.log2 den - 53)
      let (n, d) := withExponent num den e
      let e := if 2 ^ 53 ≤ n / d then e + 1 else e
      let (n, d) := withExponent num den e
      min ((e + 1074).toNat * 2 ^ 52 + divHalfEven n d) (2047 * 2 ^ 52)
  ⟨UInt64.ofNat (if negative then 2 ^ 63 + magnitude else magnitude)⟩

private def digits (n : Nat) : List Char :=
  Nat.toDigits 10 n

-- `k` such that `10 ^ (k - 1) ≤ num / den < 10 ^ k`, for a positive quotient.
private def decimalExponent (num den : Nat) : Int :=
  if den ≤ num then (digits (num / den)).length
  else 1 - ((digits ((den - 1) / num)).length : Int)

private def ofDecimal (negative : Bool) (coefficient : Nat) (exponent : Int) : Float64 :=
  if 0 ≤ exponent then ofRatio negative (coefficient * 10 ^ exponent.toNat) 1
  else ofRatio negative coefficient (10 ^ (-exponent).toNat)

-- The multiples of `10 ^ s` around a quotient, the closer one first, and of two equally close ones the larger one.
private def candidates (num den : Nat) (s : Int) : List Nat :=
  let (num, den) := if 0 ≤ s then (num, den * 10 ^ s.toNat) else (num * 10 ^ (-s).toNat, den)
  let q := num / den
  if den ≤ 2 * (num % den) then [q + 1, q] else [q, q + 1]

-- The shortest decimal number `c * 10 ^ s` that is read back as the same number. The power of ten above the number
-- is tried first: it has one digit, too.
def shortest : Nat × Int :=
  let (num, den) := x.ratio
  let k := decimalExponent num den
  let attempt (n : Nat) : Option (Nat × Int) :=
    let s := k - n
    ((candidates num den s).find? (ofDecimal x.isNegative · s = x)).map (·, s)
  ((List.range 18).findSome? attempt).getD (0, 0)

private def exponential (ds : List Char) (point : Int) : Text :=
  let exponent := point - 1
  ds.take 1 ++ (if ds.length ≤ 1 then [] else '.' :: ds.drop 1) ++ 'e' ::
    (if exponent < 0 then '-' :: digits exponent.natAbs else digits exponent.natAbs)

private def positional (ds : List Char) (point : Int) : Text :=
  if point ≤ 0 then '0' :: '.' :: List.replicate point.natAbs '0' ++ ds
  else if ds.length ≤ point.natAbs then
    ds ++ List.replicate (point.natAbs - ds.length) '0' ++ ['.', '0']
  else ds.take point.natAbs ++ '.' :: ds.drop point.natAbs

-- `{:?}`: very large and very small numbers are written with an exponent.
def debug : Text :=
  let sign : Text := if x.isNegative && !x.isNan then ['-'] else []
  let (num, den) := x.ratio
  sign ++
    if !x.isFinite then (if x.isNan then "NaN" else "inf").toList
    else if num = 0 then "0.0".toList
    else
      let (c, s) := x.shortest
      let ds := digits c
      let point := (ds.length : Int) + s
      if 10 ^ 16 * den ≤ num || num * 10 ^ 4 < den then exponential ds point
      else positional ds point

section Characters

variable {ds : List Char} {point : Int}

-- The characters that a finite number is written with.
def isNumeral (c : Char) : Bool :=
  c.isDigit || c = '-' || c = '.' || c = 'e'

private theorem digits_numeral {n : Nat} : ∀ c ∈ digits n, isNumeral c := by
  intro c hc
  simp [isNumeral, Nat.isDigit_of_mem_toDigits (by decide) (by decide) hc]

private theorem exponential_numeral (h : ∀ c ∈ ds, isNumeral c) :
    ∀ c ∈ exponential ds point, isNumeral c := by
  have hd := digits_numeral (n := (point - 1).natAbs)
  intro c hc
  rw [exponential, List.mem_append, List.mem_append, List.mem_cons] at hc
  obtain (hc | hc) | rfl | hc := hc
  · exact h c (List.mem_of_mem_take hc)
  · split_ifs at hc
    case pos => cases hc
    case neg =>
      obtain rfl | hc := List.mem_cons.mp hc
      · decide
      · exact h c (List.mem_of_mem_drop hc)
  · decide
  · split_ifs at hc
    case neg => exact hd c hc
    case pos =>
      obtain rfl | hc := List.mem_cons.mp hc
      · decide
      · exact hd c hc

private theorem positional_numeral (h : ∀ c ∈ ds, isNumeral c) : ∀ c ∈ positional ds point, isNumeral c := by
  have h₀ : isNumeral '0' := by decide
  have h₁ : isNumeral '.' := by decide
  intro c hc
  rw [positional] at hc
  split_ifs at hc
  all_goals simp only [List.mem_append, List.mem_cons, List.mem_replicate, List.not_mem_nil, or_false] at hc
  case pos =>
    obtain (rfl | rfl | ⟨_, rfl⟩) | hc := hc
    · exact h₀
    · exact h₁
    · exact h₀
    · exact h c hc
  case pos =>
    obtain (hc | ⟨_, rfl⟩) | rfl | rfl := hc
    · exact h c hc
    · exact h₀
    · exact h₁
    · exact h₀
  case neg =>
    obtain hc | rfl | hc := hc
    · exact h c (List.mem_of_mem_take hc)
    · exact h₁
    · exact h c (List.mem_of_mem_drop hc)

theorem debug_numeral (h : x.isFinite) : ∀ c ∈ x.debug, isNumeral c := by
  have zero : ∀ c ∈ "0.0".toList, isNumeral c := List.all_eq_true.mp (by decide)
  intro c hc
  simp only [debug, h, Bool.not_true, Bool.false_eq_true, if_false] at hc
  obtain hc | hc := List.mem_append.mp hc
  · split_ifs at hc
    · obtain rfl := List.mem_singleton.mp hc
      decide
    · cases hc
  · split_ifs at hc
    · exact zero c hc
    · exact exponential_numeral digits_numeral c hc
    · exact positional_numeral digits_numeral c hc

end Characters

-- `{}` of a number that is not finite.
def displayNonFinite : Text :=
  x.debug

private def isDigit (c : Char) : Bool :=
  '0' ≤ c && c ≤ '9'

private def digitsValue (ds : Text) : Nat :=
  ds.foldl (fun n c => n * 10 + (c.toNat - 48)) 0

private def splitSign : Text → Bool × Text
  | '-' :: s => (true, s)
  | '+' :: s => (false, s)
  | s        => (false, s)

private def parseExponent : Text → Option Int
  | [] => some 0
  | c :: s =>
    if c ≠ 'e' && c ≠ 'E' then none
    else
      let (negative, ds) := splitSign s
      if ds = [] || !ds.all isDigit then none
      else some (if negative then -digitsValue ds else digitsValue ds)

-- `str::parse::<f64>`.
def parse (s : Text) : Option Float64 :=
  let (negative, s) := splitSign s
  let lower := s.map Char.toLower
  if lower = "inf".toList || lower = "infinity".toList then
    some (ofRatio negative (2 ^ 1024) 1)
  else if lower = "nan".toList then
    some ⟨UInt64.ofNat ((if negative then 2 ^ 63 else 0) + 2047 * 2 ^ 52 + 2 ^ 51)⟩
  else
    let whole := s.takeWhile isDigit
    let (fraction, s) :=
      match s.dropWhile isDigit with
      | '.' :: s => (s.takeWhile isDigit, s.dropWhile isDigit)
      | s        => ([], s)
    if whole = [] && fraction = [] then none
    else
      (parseExponent s).map fun exponent =>
        ofDecimal negative (digitsValue (whole ++ fraction)) (exponent - fraction.length)

section Rounding

open Rounding

private theorem withExponent_value (num den : Nat) (e : Int) :
    ((withExponent num den e).1 : ℚ) / (withExponent num den e).2 = (num / den : ℚ) / 2 ^ e := by
  rw [withExponent]
  split
  case isTrue he =>
    obtain ⟨n, rfl⟩ := Int.eq_ofNat_of_zero_le he
    simp [div_div]
  case isFalse he =>
    obtain ⟨n, hn⟩ := Int.eq_ofNat_of_zero_le (by omega : 0 ≤ -e)
    obtain rfl : e = -n := by omega
    simp [zpow_neg]
    ring

private theorem withExponent_pos {num den : Nat} (hd : 0 < den) (e : Int) : 0 < (withExponent num den e).2 := by
  rw [withExponent]
  split
  case isTrue  => exact Nat.mul_pos hd (Nat.two_pow_pos _)
  case isFalse => exact hd

private theorem divHalfEven_eq {num den : Nat} (hd : 0 < den) : divHalfEven num den = halfEven (num / den) := by
  rw [halfEven_div hd, divHalfEven]

-- The bounds that the lengths in bits give are one apart.
private theorem log_ratio {num den : Nat} (hn : 0 < num) (hd : 0 < den) :
    Int.log 2 (num / den : ℚ) = (Nat.log2 num : Int) - Nat.log2 den ∨
      Int.log 2 (num / den : ℚ) = (Nat.log2 num : Int) - Nat.log2 den - 1 := by
  have hd' : (0 : ℚ) < den := Nat.cast_pos.mpr hd
  have hw : (0 : ℚ) < num / den := div_pos (Nat.cast_pos.mpr hn) hd'
  have num_le : (2 : ℚ) ^ Nat.log2 num ≤ num := by exact_mod_cast Nat.log2_self_le hn.ne'
  have num_lt : (num : ℚ) < 2 ^ (Nat.log2 num + 1) := by exact_mod_cast Nat.lt_log2_self
  have den_le : (2 : ℚ) ^ Nat.log2 den ≤ den := by exact_mod_cast Nat.log2_self_le hd.ne'
  have den_lt : (den : ℚ) < 2 ^ (Nat.log2 den + 1) := by exact_mod_cast Nat.lt_log2_self
  have upper : Int.log 2 (num / den : ℚ) ≤ (Nat.log2 num : Int) - Nat.log2 den := by
    rw [log_le_iff hw, div_lt_iff₀ hd', sub_add_eq_add_sub, zpow_sub₀ two_ne_zero, div_mul_eq_mul_div,
      lt_div_iff₀ (zpow_pos two_pos _), zpow_natCast, ← Nat.cast_succ, zpow_natCast]
    exact mul_lt_mul num_lt den_le (by positivity) (by positivity)
  have lower : (Nat.log2 num : Int) - Nat.log2 den - 1 ≤ Int.log 2 (num / den : ℚ) := by
    rw [le_log_iff hw, le_div_iff₀ hd', sub_sub, zpow_sub₀ two_ne_zero, div_mul_eq_mul_div,
      div_le_iff₀ (zpow_pos two_pos _), zpow_natCast, ← Nat.cast_succ, zpow_natCast]
    exact mul_le_mul num_le den_lt.le (by positivity) (by positivity)
  omega

-- What a quotient is rounded to.
private theorem ofRatio_eq (negative : Bool) {num den : Nat} (hn : 0 < num) (hd : 0 < den) :
    ofRatio negative num den =
      let magnitude := min (code 52 (-1074) (num / den)) (2047 * 2 ^ 52)
      ⟨UInt64.ofNat (if negative then 2 ^ 63 + magnitude else magnitude)⟩ := by
  have hw : (0 : ℚ) < num / den := div_pos (Nat.cast_pos.mpr hn) (Nat.cast_pos.mpr hd)
  have bump (e : Int) : 2 ^ 53 ≤ (withExponent num den e).1 / (withExponent num den e).2 ↔
      e + 53 ≤ Int.log 2 (num / den : ℚ) := by
    have hp : (0 : ℚ) < (withExponent num den e).2 := Nat.cast_pos.mpr (withExponent_pos hd e)
    have h2 : (0 : ℚ) < 2 ^ e := zpow_pos two_pos e
    rw [Nat.le_div_iff_mul_le (withExponent_pos hd e), le_log_iff hw, add_comm, zpow_add₀ two_ne_zero,
      ← le_div_iff₀ h2, ← withExponent_value, le_div_iff₀ hp]
    exact_mod_cast Iff.rfl
  have hexp : (if 2 ^ 53 ≤ (withExponent num den (max (-1074) ((Nat.log2 num : Int) - Nat.log2 den - 53))).1 /
        (withExponent num den (max (-1074) ((Nat.log2 num : Int) - Nat.log2 den - 53))).2
      then max (-1074) ((Nat.log2 num : Int) - Nat.log2 den - 53) + 1
      else max (-1074) ((Nat.log2 num : Int) - Nat.log2 den - 53)) = exponent 52 (-1074) (num / den) := by
    have hl := log_ratio hn hd
    simp only [bump]
    rw [exponent]
    split
    all_goals omega
  simp only [ofRatio, if_neg hn.ne', hexp, divHalfEven_eq (withExponent_pos hd _), withExponent_value]
  rfl

variable {x}

-- A number that is neither zero nor without bound, by its significand and its exponent.
private structure Finite (x : Float64) (m : Nat) (e : Int) : Prop where
  representable : Representable 52 (-1074) m e
  ratio         : ((x.ratio.1 : ℚ) / x.ratio.2) = m * 2 ^ e
  bits          : x.bits.toNat = (if x.isNegative then 2 ^ 63 else 0) + ((e + 1074).toNat * 2 ^ 52 + m)
  bounded       : (e + 1074).toNat * 2 ^ 52 + m ≤ 2047 * 2 ^ 52

private theorem ratio_pos : 0 < x.ratio.2 := by
  rw [ratio]
  split
  case isTrue  => exact Nat.one_pos
  case isFalse => exact Nat.two_pow_pos _

private theorem bits_eq : x.bits.toNat =
    (if x.isNegative then 2 ^ 63 else 0) + (x.exponentField * 2 ^ 52 + x.fraction) := by
  have h := x.bits.toNat_lt
  simp only [isNegative, exponentField, fraction, decide_eq_true_eq]
  split
  all_goals omega

private def significand (x : Float64) : Nat :=
  if x.exponentField = 0 then x.fraction else 2 ^ 52 + x.fraction

private theorem ratio_value :
    ((x.ratio.1 : ℚ) / x.ratio.2) = x.significand * 2 ^ ((max x.exponentField 1 : Int) - 1075) := by
  obtain ⟨n, hn⟩ : ∃ n : Nat, n = max x.exponentField 1 := ⟨_, rfl⟩
  have hn' : (max x.exponentField 1 : Int) = n := by omega
  rw [ratio, ← hn, hn']
  split
  case isTrue h =>
    obtain ⟨j, rfl⟩ := Nat.exists_eq_add_of_le h
    have hj : ((1075 + j : Nat) : Int) - 1075 = j := by omega
    rw [hj, Nat.add_sub_cancel_left, zpow_natCast]
    simp [significand]
  case isFalse h =>
    obtain ⟨j, hj⟩ := Nat.exists_eq_add_of_le (Nat.le_of_not_le h)
    have hj' : (n : Int) - 1075 = -j := by omega
    have hk : 1075 - n = j := by omega
    rw [hj', hk, zpow_neg, zpow_natCast, ← div_eq_mul_inv]
    simp [significand]

private theorem finite (hf : x.isFinite) (hz : x.ratio.1 ≠ 0) :
    x.Finite x.significand ((max x.exponentField 1 : Int) - 1075) := by
  have hb := x.bits_eq
  have he : x.exponentField < 2047 := by
    have hlt : x.exponentField < 2 ^ 11 := Nat.mod_lt _ (by decide)
    have hne : x.exponentField ≠ 2047 := of_decide_eq_true hf
    omega
  have hfr : x.fraction < 2 ^ 52 := Nat.mod_lt _ (by decide)
  have hs : x.significand = if x.exponentField = 0 then x.fraction else 2 ^ 52 + x.fraction := rfl
  have hpos : 0 < x.significand := by
    refine Nat.pos_of_ne_zero fun h0 => hz ?_
    have hr := ratio_value (x := x)
    rw [h0, Nat.cast_zero, zero_mul, div_eq_zero_iff] at hr
    exact_mod_cast hr.resolve_right (by exact_mod_cast (ratio_pos (x := x)).ne')
  refine ⟨⟨hpos, ?_, ?_, ?_⟩, ratio_value, ?_, ?_⟩
  · rw [hs]
    split
    all_goals omega
  · omega
  · rw [hs]
    split
    all_goals omega
  · rw [hb, hs]
    split
    all_goals split
    all_goals omega
  · rw [hs]
    split
    all_goals omega

-- Whatever is close enough to a number is rounded to it.
private theorem ofRatio_near (hf : x.isFinite) (hz : x.ratio.1 ≠ 0) {num den : Nat} (hn : 0 < num) (hd : 0 < den)
    (h : |(num / den : ℚ) - x.ratio.1 / x.ratio.2| < (x.ratio.1 / x.ratio.2 : ℚ) / 2 ^ 54) :
    ofRatio x.isNegative num den = x := by
  have hx := finite hf hz
  rw [hx.ratio] at h
  have hc := hx.representable.code_near h
  rw [ofRatio_eq _ hn hd, hc]
  have hm : min ((((max x.exponentField 1 : Int) - 1075) - (-1074)).toNat * 2 ^ 52 + x.significand) (2047 * 2 ^ 52) =
      (((max x.exponentField 1 : Int) - 1075) + 1074).toNat * 2 ^ 52 + x.significand := by
    rw [sub_neg_eq_add]
    exact min_eq_left hx.bounded
  have hb : (if x.isNegative then
        2 ^ 63 + ((((max x.exponentField 1 : Int) - 1075) + 1074).toNat * 2 ^ 52 + x.significand)
      else (((max x.exponentField 1 : Int) - 1075) + 1074).toNat * 2 ^ 52 + x.significand) = x.bits.toNat := by
    rw [hx.bits]
    split
    all_goals omega
  dsimp only
  rw [hm, hb, UInt64.ofNat_toNat]

private theorem ofDecimal_value (negative : Bool) (c : Nat) (e : Int) : ∃ num den, 0 < den ∧
    ofDecimal negative c e = ofRatio negative num den ∧ (num / den : ℚ) = c * 10 ^ e ∧ (0 < c → 0 < num) := by
  rw [ofDecimal]
  split
  case isTrue he =>
    obtain ⟨n, rfl⟩ := Int.eq_ofNat_of_zero_le he
    refine ⟨c * 10 ^ n, 1, Nat.one_pos, by simp, by simp, fun hc => ?_⟩
    exact Nat.mul_pos hc (Nat.pow_pos (by decide))
  case isFalse he =>
    obtain ⟨n, hn⟩ := Int.eq_ofNat_of_zero_le (by omega : 0 ≤ -e)
    obtain rfl : e = -n := by omega
    refine ⟨c, 10 ^ n, Nat.pow_pos (by decide), by simp, ?_, id⟩
    rw [zpow_neg, zpow_natCast, Nat.cast_pow, Nat.cast_ofNat, div_eq_mul_inv]

-- Decimal numbers of one value are rounded alike.
private theorem ofDecimal_congr (negative : Bool) {c c' : Nat} {e e' : Int} (hc : 0 < c) (hc' : 0 < c')
    (h : (c * 10 ^ e : ℚ) = c' * 10 ^ e') : ofDecimal negative c e = ofDecimal negative c' e' := by
  obtain ⟨num, den, hd, ho, hv, hn⟩ := ofDecimal_value negative c e
  obtain ⟨num', den', hd', ho', hv', hn'⟩ := ofDecimal_value negative c' e'
  rw [ho, ho', ofRatio_eq negative (hn hc) hd, ofRatio_eq negative (hn' hc') hd', hv, hv', h]

private theorem ofDecimal_near (hf : x.isFinite) (hz : x.ratio.1 ≠ 0) {c : Nat} {e : Int} (hc : 0 < c)
    (h : |(c * 10 ^ e : ℚ) - x.ratio.1 / x.ratio.2| < (x.ratio.1 / x.ratio.2 : ℚ) / 2 ^ 54) :
    ofDecimal x.isNegative c e = x := by
  obtain ⟨num, den, hd, ho, hv, hn⟩ := ofDecimal_value x.isNegative c e
  rw [ho]
  exact ofRatio_near hf hz (hn hc) hd (hv ▸ h)

private theorem ofDecimal_zero (negative : Bool) (e : Int) :
    ofDecimal negative 0 e = ⟨UInt64.ofNat (if negative then 2 ^ 63 else 0)⟩ := by
  rw [ofDecimal]
  split
  all_goals simp [ofRatio]

private theorem length_digits {n k : Nat} (hk : 0 < k) : (digits n).length ≤ k ↔ n < 10 ^ k :=
  Nat.length_toDigits_le_iff (by decide) hk

-- The first digit of a quotient is at the place that is said, or further to the left.
private theorem decimalExponent_le {num den : Nat} (hn : 0 < num) (hd : 0 < den) :
    (10 : ℚ) ^ (decimalExponent num den - 1) ≤ num / den := by
  have hd' : (0 : ℚ) < den := Nat.cast_pos.mpr hd
  rw [decimalExponent]
  split
  case isTrue h =>
    have hq : 1 ≤ num / den := (Nat.one_le_div_iff hd).mpr h
    obtain ⟨l, hl⟩ : ∃ l, (digits (num / den)).length = l + 1 :=
      Nat.exists_eq_succ_of_ne_zero (List.length_eq_zero_iff.not.mpr Nat.toDigits_ne_nil)
    have hle : 10 ^ l ≤ num / den := by
      cases l
      case zero   => exact hq
      case succ l =>
        by_contra hlt
        have := (length_digits (Nat.succ_pos l)).mpr (Nat.lt_of_not_le hlt)
        omega
    have hle : 10 ^ l * den ≤ num := (Nat.le_div_iff_mul_le hd).mp hle
    rw [hl, Nat.cast_succ, add_sub_cancel_right, zpow_natCast, le_div_iff₀ hd']
    exact_mod_cast hle
  case isFalse h =>
    obtain ⟨l, hl⟩ : ∃ l, (digits ((den - 1) / num)).length = l + 1 :=
      Nat.exists_eq_succ_of_ne_zero (List.length_eq_zero_iff.not.mpr Nat.toDigits_ne_nil)
    have hlt : (den - 1) / num < 10 ^ (l + 1) := (length_digits (Nat.succ_pos l)).mp hl.le
    have hlt : den - 1 < 10 ^ (l + 1) * num := (Nat.div_lt_iff_lt_mul hn).mp hlt
    have hle : den ≤ num * 10 ^ (l + 1) := by
      rw [Nat.mul_comm]
      omega
    have he : 1 - ((l + 1 : Nat) : Int) - 1 = -((l + 1 : Nat) : Int) := by omega
    rw [hl, he, zpow_neg, zpow_natCast, inv_le_iff_one_le_mul₀ (by positivity), div_mul_eq_mul_div, one_le_div hd']
    exact_mod_cast hle

-- The first candidate is the closest decimal number with a given last place.
private theorem nearest (n : Nat) {d : Nat} (hd : 0 < d) :
    ∃ c ∈ (if d ≤ 2 * (n % d) then [n / d + 1, n / d] else [n / d, n / d + 1]), |(c : ℚ) - n / d| ≤ 1 / 2 := by
  have hd' : (0 : ℚ) < d := Nat.cast_pos.mpr hd
  have hn : (n : ℚ) = d * (n / d : Nat) + (n % d : Nat) := by exact_mod_cast (Nat.div_add_mod n d).symm
  have hr : ((n % d : Nat) : ℚ) < d := by exact_mod_cast Nat.mod_lt n hd
  have hq : (n : ℚ) / d = (n / d : Nat) + (n % d : Nat) / d := by
    rw [hn, add_div, mul_div_cancel_left₀ _ hd'.ne']
  split
  case isTrue h =>
    have h : (d : ℚ) ≤ 2 * (n % d : Nat) := by exact_mod_cast h
    refine ⟨n / d + 1, List.mem_cons_self, ?_⟩
    rw [hq, Nat.cast_succ, add_sub_add_left_eq_sub, abs_of_nonneg (by rw [sub_nonneg, div_le_one hd']; exact hr.le),
      sub_le_comm, le_div_iff₀ hd']
    linarith
  case isFalse h =>
    have h : 2 * ((n % d : Nat) : ℚ) < d := by exact_mod_cast Nat.lt_of_not_le h
    refine ⟨n / d, List.mem_cons_self, ?_⟩
    rw [hq, sub_add_cancel_left, abs_neg, abs_of_nonneg (by positivity), div_le_iff₀ hd']
    linarith

private theorem candidates_near (num : Nat) {den : Nat} (hd : 0 < den) (e : Int) : ∃ c ∈ candidates num den e,
    |(c * 10 ^ e : ℚ) - num / den| ≤ 10 ^ e / 2 := by
  have h10 : (0 : ℚ) < 10 ^ e := zpow_pos (by norm_num) e
  suffices h : ∃ c ∈ candidates num den e, |(c : ℚ) - num / den / 10 ^ e| ≤ 1 / 2 by
    obtain ⟨c, hc, h⟩ := h
    refine ⟨c, hc, ?_⟩
    have hs : (c * 10 ^ e : ℚ) - num / den = (c - num / den / 10 ^ e) * 10 ^ e := by
      field_simp
    have hm := mul_le_mul_of_nonneg_right h h10.le
    rw [hs, abs_mul, abs_of_pos h10]
    linarith
  rw [candidates]
  by_cases he : 0 ≤ e
  case pos =>
    rw [if_pos he]
    obtain ⟨n, rfl⟩ := Int.eq_ofNat_of_zero_le he
    have hp : 0 < den * 10 ^ n := Nat.mul_pos hd (Nat.pow_pos (by decide))
    have h := nearest num hp
    simpa [div_div] using h
  case neg =>
    rw [if_neg he]
    obtain ⟨n, hn⟩ := Int.eq_ofNat_of_zero_le (by omega : 0 ≤ -e)
    obtain rfl : e = -n := by omega
    have h := nearest (num * 10 ^ n) hd
    simpa [mul_div_right_comm] using h

private theorem pos_of_ofDecimal (hf : x.isFinite) (hz : x.ratio.1 ≠ 0) {c : Nat} {e : Int}
    (h : ofDecimal x.isNegative c e = x) : 0 < c := by
  refine Nat.pos_of_ne_zero ?_
  rintro rfl
  have hx := finite hf hz
  have hpos := hx.representable.pos
  have hlt := hx.bounded
  have hbits := congrArg (fun x : Float64 => x.bits.toNat) ((ofDecimal_zero x.isNegative e).symm.trans h)
  simp only at hbits
  rw [hx.bits] at hbits
  split at hbits
  all_goals
    rw [UInt64.toNat_ofNat'] at hbits
    omega

-- Seventeen digits are enough.
private theorem seventeen_digits (hf : x.isFinite) (hz : x.ratio.1 ≠ 0) :
    ∃ c ∈ candidates x.ratio.1 x.ratio.2 (decimalExponent x.ratio.1 x.ratio.2 - 17),
      ofDecimal x.isNegative c (decimalExponent x.ratio.1 x.ratio.2 - 17) = x := by
  have hd := ratio_pos (x := x)
  have hv := decimalExponent_le (Nat.pos_of_ne_zero hz) hd
  generalize decimalExponent x.ratio.1 x.ratio.2 = k at hv
  obtain ⟨c, hc, hnear⟩ := candidates_near x.ratio.1 hd (k - 17)
  have hpow : (10 : ℚ) ^ (k - 1) = 10 ^ (k - 17) * 10 ^ 16 := by
    rw [← zpow_natCast, ← zpow_add₀ (by norm_num)]
    congr 1
    omega
  rw [hpow] at hv
  have hp : (0 : ℚ) < 10 ^ (k - 17) := zpow_pos (by norm_num) _
  have ⟨hl, _⟩ := abs_le.mp hnear
  have hc0 : 0 < c := by
    refine Nat.pos_of_ne_zero ?_
    rintro rfl
    rw [Nat.cast_zero, zero_mul] at hl
    linarith
  refine ⟨c, hc, ofDecimal_near hf hz hc0 (lt_of_le_of_lt hnear ?_)⟩
  rw [lt_div_iff₀ (by positivity)]
  linarith

private theorem shortest_spec (hf : x.isFinite) (hz : x.ratio.1 ≠ 0) :
    0 < x.shortest.1 ∧ ofDecimal x.isNegative x.shortest.1 x.shortest.2 = x := by
  let attempt (n : Nat) : Option (Nat × Int) :=
    let s := decimalExponent x.ratio.1 x.ratio.2 - n
    ((candidates x.ratio.1 x.ratio.2 s).find? (ofDecimal x.isNegative · s = x)).map (·, s)
  have hshort : x.shortest = ((List.range 18).findSome? attempt).getD (0, 0) := rfl
  have hsome : ((List.range 18).findSome? attempt).isSome := by
    obtain ⟨c, hc, hgood⟩ := seventeen_digits hf hz
    refine List.findSome?_isSome_iff.mpr ⟨17, List.mem_range.mpr (by decide), ?_⟩
    rw [Option.isSome_map, List.find?_isSome]
    exact ⟨c, hc, decide_eq_true hgood⟩
  obtain ⟨y, hy⟩ := Option.isSome_iff_exists.mp hsome
  obtain ⟨n, _, hn⟩ := List.exists_of_findSome?_eq_some hy
  obtain ⟨c, hc, rfl⟩ := Option.map_eq_some_iff.mp hn
  have hgood := List.find?_some hc
  rw [decide_eq_true_eq] at hgood
  rw [hshort, hy, Option.getD_some]
  exact ⟨pos_of_ofDecimal hf hz hgood, hgood⟩

end Rounding

section Texts

variable {x} {ds es rest : Text} {c : Char} (negative : Bool)

private def signOf (negative : Bool) : Text :=
  if negative then ['-'] else []

-- What may come after the digits of a number.
private def Ends (rest : Text) : Prop :=
  ∀ c ∈ rest.head?, isDigit c = false ∧ c ≠ '.'

private theorem digitsValue_append : digitsValue (ds ++ es) = digitsValue ds * 10 ^ es.length + digitsValue es := by
  have step (n : Nat) : es.foldl (fun n c => n * 10 + (c.toNat - 48)) n = n * 10 ^ es.length + digitsValue es := by
    rw [digitsValue]
    induction es generalizing n
    case nil          => simp
    case cons c es ih =>
      rw [List.foldl_cons, List.foldl_cons, ih, ih (0 * 10 + (c.toNat - 48)), List.length_cons, Nat.pow_succ]
      ring
  rw [digitsValue, List.foldl_append]
  exact step _

private theorem digitsValue_replicate (n : Nat) : digitsValue (List.replicate n '0') = 0 := by
  induction n
  case zero      => rfl
  case succ n ih => rw [List.replicate_succ', digitsValue_append, ih]; rfl

private theorem digitsValue_digits (n : Nat) : digitsValue (digits n) = n := by
  have hf : (fun n c => n * 10 + (c.toNat - 48)) = fun (n : Nat) (c : Char) => 10 * n + (c.toNat - '0'.toNat) := by
    funext n c
    rw [Nat.mul_comm]
    rfl
  rw [digitsValue, hf, ← Nat.ofDigitChars_eq_foldl]
  exact Nat.ofDigitChars_ten_toDigits

private theorem isDigit_digits {n : Nat} : ∀ c ∈ digits n, isDigit c := by
  intro c hc
  have h := Nat.isDigit_of_mem_toDigits (by decide) (by decide) hc
  simpa [isDigit, Char.isDigit, Char.le_def] using h

private theorem takeWhile_digits (h : ∀ c ∈ ds, isDigit c) (hr : Ends rest) :
    (ds ++ rest).takeWhile isDigit = ds ∧ (ds ++ rest).dropWhile isDigit = rest := by
  rw [List.takeWhile_append_of_pos h, List.dropWhile_append_of_pos h]
  cases rest
  case nil       => simp
  case cons c cs =>
    have hc := (hr c rfl).left
    rw [List.takeWhile_cons_of_neg (by simp [hc]), List.dropWhile_cons_of_neg (by simp [hc]), List.append_nil]
    exact ⟨rfl, rfl⟩

private theorem toLower_digit (h : isDigit c) : c.toLower = c := by
  have hc : c.val.toNat ≤ 57 := by
    simp only [isDigit, Bool.and_eq_true, decide_eq_true_eq, Char.le_def, UInt32.le_iff_toNat_le] at h
    exact h.right
  have hu : ¬65 ≤ c.val.toNat := by omega
  exact dif_neg fun h => hu (UInt32.le_iff_toNat_le.mp (show 'A'.val ≤ c.val from h.left))

private theorem splitSign_sign (h : ∀ c ∈ rest.head?, isDigit c) :
    splitSign (signOf negative ++ rest) = (negative, rest) := by
  cases negative
  case true  => rfl
  case false =>
    cases rest
    case nil       => rfl
    case cons c cs =>
      have hc := h c rfl
      rw [signOf]
      simp only [Bool.false_eq_true, if_false, List.nil_append]
      rw [splitSign]
      all_goals
        rintro _ ⟨⟩
        revert hc
        decide

-- A text that begins with a digit is no name.
private theorem parse_digit (hd : ∀ c ∈ ds, isDigit c) (hn : ds ≠ []) :
    parse (signOf negative ++ (ds ++ rest)) =
      let s := ds ++ rest
      let whole := s.takeWhile isDigit
      let (fraction, s) :=
        match s.dropWhile isDigit with
        | '.' :: s => (s.takeWhile isDigit, s.dropWhile isDigit)
        | s        => ([], s)
      if whole = [] && fraction = [] then none
      else
        (parseExponent s).map fun exponent =>
          ofDecimal negative (digitsValue (whole ++ fraction)) (exponent - fraction.length) := by
  obtain ⟨c, cs, rfl⟩ := List.exists_cons_of_ne_nil hn
  have hc : isDigit c := hd c List.mem_cons_self
  have hs : ∀ d ∈ (c :: cs ++ rest).head?, isDigit d := by
    rintro _ ⟨⟩
    exact hc
  have name {name : Text} {d : Char} (h : name.head? = some d) (hd : isDigit d = false) :
      (c :: cs ++ rest).map Char.toLower ≠ name := by
    rintro rfl
    rw [List.cons_append, List.map_cons, List.head?_cons, toLower_digit hc] at h
    obtain rfl := Option.some.inj h
    rw [hc] at hd
    cases hd
  rw [parse, splitSign_sign negative hs]
  simp only
  rw [if_neg, if_neg (name (d := 'n') rfl rfl)]
  rw [Bool.or_eq_true, decide_eq_true_eq, decide_eq_true_eq]
  rintro (h | h)
  · exact name (d := 'i') rfl rfl h
  · exact name (d := 'i') rfl rfl h

-- A number whose digits stand around a point is read back with all of its digits.
private theorem parse_point (hd : ∀ c ∈ ds, isDigit c) (hn : ds ≠ []) (he : ∀ c ∈ es, isDigit c) (hr : Ends rest) :
    parse (signOf negative ++ (ds ++ '.' :: (es ++ rest))) = (parseExponent rest).map fun exponent =>
      ofDecimal negative (digitsValue (ds ++ es)) (exponent - es.length) := by
  have hw : (ds ++ '.' :: (es ++ rest)).takeWhile isDigit = ds := by
    rw [List.takeWhile_append_of_pos hd, List.takeWhile_cons_of_neg (by decide), List.append_nil]
  have hdrop : (ds ++ '.' :: (es ++ rest)).dropWhile isDigit = '.' :: (es ++ rest) := by
    rw [List.dropWhile_append_of_pos hd, List.dropWhile_cons_of_neg (by decide)]
  obtain ⟨hf, hs⟩ := takeWhile_digits he hr
  rw [parse_digit negative hd hn]
  simp only [hw, hdrop, hf, hs, hn, decide_false, Bool.false_and, Bool.false_eq_true, if_false]

private theorem parse_whole (hd : ∀ c ∈ ds, isDigit c) (hn : ds ≠ []) (hr : Ends rest) :
    parse (signOf negative ++ (ds ++ rest)) = (parseExponent rest).map fun exponent =>
      ofDecimal negative (digitsValue ds) exponent := by
  obtain ⟨hw, hs⟩ := takeWhile_digits hd hr
  rw [parse_digit negative hd hn]
  simp only [hw, hs, hn, decide_false, Bool.false_and, Bool.false_eq_true, if_false]
  split
  case h_1 s => exact absurd rfl (hr '.' rfl).right
  case h_2   => simp only [List.append_nil, List.length_nil, Nat.cast_zero, sub_zero]

private theorem parseExponent_digits {e : Int} :
    parseExponent ('e' :: (if e < 0 then '-' :: digits e.natAbs else digits e.natAbs)) = some e := by
  have value (negative : Bool) (n : Nat) : parseExponent ('e' :: (signOf negative ++ digits n)) =
      some (if negative then -(n : Int) else n) := by
    have hn : digits n ≠ [] := Nat.toDigits_ne_nil
    have ha : (digits n).all isDigit := List.all_eq_true.mpr isDigit_digits
    have hs : splitSign (signOf negative ++ digits n) = (negative, digits n) :=
      splitSign_sign negative fun c hc => isDigit_digits c (List.mem_of_mem_head? hc)
    rw [parseExponent, hs]
    simp [hn, ha, digitsValue_digits]
  obtain he | he := lt_or_ge e 0
  case inl =>
    have hv : -(e.natAbs : Int) = e := by omega
    rw [if_pos he]
    exact (value true e.natAbs).trans (congrArg some hv)
  case inr =>
    have hv : (e.natAbs : Int) = e := by omega
    rw [if_neg (Int.not_lt.mpr he)]
    exact (value false e.natAbs).trans (congrArg some hv)

private theorem signOf_isNegative (hf : x.isFinite) :
    (if x.isNegative && !x.isNan then ['-'] else []) = signOf x.isNegative := by
  have hn : x.isNan = false := by
    have hne : x.exponentField ≠ 2047 := of_decide_eq_true hf
    simp [isNan, hne]
  rw [hn, signOf]
  simp

-- The digits of a number with a point after some of them.
private theorem parse_exponential {n : Nat} {point : Int} :
    parse (signOf negative ++ exponential (digits n) point) =
      some (ofDecimal negative n (point - (digits n).length)) := by
  have hd := isDigit_digits (n := n)
  have hn : digits n ≠ [] := Nat.toDigits_ne_nil
  have hv := digitsValue_digits n
  have hr : Ends ('e' :: (if point - 1 < 0 then '-' :: digits (point - 1).natAbs else digits (point - 1).natAbs)) := by
    rintro _ ⟨⟩
    decide
  generalize digits n = ds at hd hn hv
  obtain ⟨c, cs, rfl⟩ := List.exists_cons_of_ne_nil hn
  have ⟨hc, hcs⟩ := List.forall_mem_cons.mp hd
  cases cs
  case nil =>
    have hp := parse_whole negative hd hn hr
    rw [parseExponent_digits, Option.map_some, hv] at hp
    simpa [exponential] using hp
  case cons d ds =>
    have hc : ∀ d ∈ [c], isDigit d := fun d hd => List.mem_singleton.mp hd ▸ hc
    have hp := parse_point negative hc (List.cons_ne_nil c []) hcs hr
    have he : point - 1 - ((d :: ds).length : Int) = point - ((c :: d :: ds).length : Int) := by
      simp only [List.length_cons]
      omega
    have hv : digitsValue ([c] ++ d :: ds) = n := hv
    rw [parseExponent_digits, Option.map_some, hv, he] at hp
    simpa [exponential] using hp

-- A whole number has a further digit.
private theorem parse_positional {n : Nat} (point : Int) (h0 : 0 < n) (hr : Ends rest)
    (hx : parseExponent rest = some 0) :
    parse (signOf negative ++ (positional (digits n) point ++ rest)) =
      some (ofDecimal negative n (point - (digits n).length)) := by
  have hd := isDigit_digits (n := n)
  have hn : digits n ≠ [] := Nat.toDigits_ne_nil
  have hv := digitsValue_digits n
  generalize digits n = ds at hd hn hv
  have zeros (k : Nat) : ∀ c ∈ List.replicate k '0', isDigit c := by
    intro c hc
    obtain rfl := (List.mem_replicate.mp hc).right
    decide
  have both {ds es : Text} (hd : ∀ c ∈ ds, isDigit c) (he : ∀ c ∈ es, isDigit c) : ∀ c ∈ ds ++ es, isDigit c :=
    fun c hc => (List.mem_append.mp hc).elim (hd c) (he c)
  rw [positional]
  split
  case isTrue hp =>
    have hz : ∀ c ∈ ['0'], isDigit c := zeros 1
    have h := parse_point negative hz (List.cons_ne_nil '0' []) (both (zeros point.natAbs) hd) hr
    have hl : (0 : Int) - ((List.replicate point.natAbs '0' ++ ds).length : Int) = point - ds.length := by
      rw [List.length_append, List.length_replicate]
      omega
    rw [hx, Option.map_some, hl, digitsValue_append, digitsValue_append, digitsValue_replicate, hv] at h
    simpa [digitsValue] using h
  case isFalse hp =>
    split
    case isTrue hl =>
      have h := parse_point negative (both hd (zeros (point.natAbs - ds.length)))
        (List.append_ne_nil_of_left_ne_nil hn _) (zeros 1) hr
      rw [hx, Option.map_some, digitsValue_append, digitsValue_append, digitsValue_replicate, digitsValue_replicate, hv,
        List.length_replicate, List.length_replicate, Nat.add_zero, Nat.add_zero, Nat.pow_one] at h
      obtain ⟨k, hk⟩ : ∃ k, point.natAbs - ds.length = k := ⟨_, rfl⟩
      have he : point - (ds.length : Int) = k := by omega
      have hp : 0 < n * 10 ^ k * 10 := Nat.mul_pos (Nat.mul_pos h0 (Nat.pow_pos (by decide))) (by decide)
      have hc : ofDecimal negative (n * 10 ^ k * 10) ((0 : Int) - (1 : Nat)) = ofDecimal negative n k := by
        refine ofDecimal_congr negative hp h0 ?_
        rw [Nat.cast_one, zero_sub, zpow_natCast]
        push_cast
        rw [zpow_neg, zpow_one, mul_assoc, mul_inv_cancel₀ (by norm_num), mul_one]
      rw [hk, hc] at h
      rw [he, ← h, hk]
      simp
    case isFalse hl =>
      have ht : ds.take point.natAbs ≠ [] := by
        rw [ne_eq, List.take_eq_nil_iff]
        rintro (h | h)
        · omega
        · exact hn h
      have hb : ∀ c ∈ ds.take point.natAbs, isDigit c := fun c hc => hd c (List.mem_of_mem_take hc)
      have ha : ∀ c ∈ ds.drop point.natAbs, isDigit c := fun c hc => hd c (List.mem_of_mem_drop hc)
      have h := parse_point negative hb ht ha hr
      have he : (0 : Int) - ((ds.drop point.natAbs).length : Int) = point - ds.length := by
        rw [List.length_drop]
        omega
      rw [hx, Option.map_some, List.take_append_drop, hv, he] at h
      simpa using h

private theorem debug_eq (hf : x.isFinite) (hz : x.ratio.1 ≠ 0) : x.debug = signOf x.isNegative ++
    if 10 ^ 16 * x.ratio.2 ≤ x.ratio.1 || x.ratio.1 * 10 ^ 4 < x.ratio.2 then
      exponential (digits x.shortest.1) ((digits x.shortest.1).length + x.shortest.2)
    else positional (digits x.shortest.1) ((digits x.shortest.1).length + x.shortest.2) := by
  rw [debug, signOf_isNegative hf]
  simp only [hf, hz, Bool.not_true, Bool.false_eq_true, if_false]

private theorem zero_eq (hf : x.isFinite) (hz : x.ratio.1 = 0) : x.debug = signOf x.isNegative ++ "0.0".toList ∧
    x = ⟨UInt64.ofNat (if x.isNegative then 2 ^ 63 else 0)⟩ := by
  refine ⟨?_, ?_⟩
  · rw [debug, signOf_isNegative hf]
    simp only [hf, hz, Bool.not_true, Bool.false_eq_true, if_false, if_true]
  · have hs : x.significand = 0 := by
      have hr := ratio_value (x := x)
      rw [hz, Nat.cast_zero, zero_div, eq_comm, mul_eq_zero] at hr
      exact_mod_cast hr.resolve_right (zpow_pos two_pos _).ne'
    have hb := x.bits_eq
    rw [significand] at hs
    split at hs
    case isFalse => omega
    case isTrue he =>
      rw [he, hs, Nat.zero_mul, Nat.add_zero] at hb
      rw [← hb, UInt64.ofNat_toNat]

-- A number that is written is read back, also with an exponent of zero if it has been written without one.
theorem parse_debug (hf : x.isFinite) : parse x.debug = some x ∧
    ('e' ∉ x.debug → parse (x.debug ++ "e0".toList) = some x) := by
  have hr : Ends ([] : Text) := by rintro _ ⟨⟩
  have hr' : Ends "e0".toList := by
    rintro _ ⟨⟩
    decide
  by_cases hz : x.ratio.1 = 0
  case pos =>
    obtain ⟨hd, hx⟩ := zero_eq hf hz
    have digit : ∀ c ∈ ['0'], isDigit c := fun c hc => List.mem_singleton.mp hc ▸ rfl
    have zero {rest : Text} (hr : Ends rest) (he : parseExponent rest = some 0) :
        parse (signOf x.isNegative ++ (['0'] ++ '.' :: (['0'] ++ rest))) = some x := by
      rw [parse_point _ digit (List.cons_ne_nil _ _) digit hr, he, Option.map_some]
      exact congrArg some ((ofDecimal_zero _ _).trans hx.symm)
    rw [hd]
    refine ⟨zero hr rfl, fun _ => ?_⟩
    rw [List.append_assoc]
    exact zero hr' rfl
  case neg =>
    obtain ⟨hpos, hs⟩ := shortest_spec hf hz
    rw [debug_eq hf hz]
    split
    case isTrue h =>
      have he : 'e' ∈ exponential (digits x.shortest.1) ((digits x.shortest.1).length + x.shortest.2) := by
        simp [exponential]
      refine ⟨?_, fun hn => absurd (List.mem_append_right _ he) hn⟩
      rw [parse_exponential, add_sub_cancel_left, hs]
    case isFalse h =>
      refine ⟨?_, fun _ => ?_⟩
      · have hp := parse_positional x.isNegative ((digits x.shortest.1).length + x.shortest.2) hpos hr rfl
        rwa [List.append_nil, add_sub_cancel_left, hs] at hp
      · rw [List.append_assoc, parse_positional _ _ hpos hr' rfl, add_sub_cancel_left, hs]

end Texts
end Float64
end MySQL
