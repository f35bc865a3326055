import Mathlib.Tactic.Ring
import MysqlRs.Core.Converters
import MysqlRs.Library.Checked

namespace MySQL

namespace Text

def isDigit (c : Char) : Prop :=
  '0' ≤ c ∧ c ≤ '9'

theorem isDigit.toNat {c : Char} (h : isDigit c) : c.toNat - 48 ≤ 9 ∧ c.utf8Size = 1 := by
  have h : c.toNat ≤ 57 := h.right
  refine ⟨by omega, Char.utf8Size_eq_one_iff.mpr (UInt32.le_iff_toNat_le.mpr ?_)⟩
  exact Nat.le_trans h (by decide)

theorem foldl_digits_lt {ds : Text} (h : ∀ c ∈ ds, isDigit c) (n : Nat) :
    ds.foldl (fun n c => n * 10 + (c.toNat - 48)) n < (n + 1) * 10 ^ ds.length := by
  induction ds generalizing n
  case nil          => simp
  case cons c ds ih =>
    have hc := (h c List.mem_cons_self).toNat.left
    calc ds.foldl _ (n * 10 + (c.toNat - 48))
      _ < (n * 10 + (c.toNat - 48) + 1) * 10 ^ ds.length := ih (fun d hd => h d (List.mem_cons_of_mem c hd)) _
      _ ≤ (n + 1) * 10 * 10 ^ ds.length                  := Nat.mul_le_mul_right _ (by omega)
      _ = (n + 1) * 10 ^ (c :: ds).length                := by rw [List.length_cons, Nat.pow_succ]; ring

theorem len_digits {ds : Text} (h : ∀ c ∈ ds, isDigit c) : len ds = ds.length := by
  induction ds
  case nil          => rfl
  case cons c ds ih =>
    have hc := (h c List.mem_cons_self).toNat.right
    have ih := ih fun d hd => h d (List.mem_cons_of_mem c hd)
    rw [len] at ih ⊢
    simp only [asBytes, List.flatMap_cons, List.length_append, String.length_utf8EncodeChar] at ih ⊢
    rw [hc, ih, List.length_cons, Nat.add_comm]

theorem digitsValue?_eq_some {ds : Text} {n : Nat} (h : digitsValue? ds = some n) :
    ds.len = ds.length ∧ n < 10 ^ ds.length := by
  rw [digitsValue?] at h
  split at h
  case isTrue     => exact nomatch h
  case isFalse hd =>
    have hd : ∀ c ∈ ds, isDigit c := by
      intro c hc
      simp only [Bool.or_eq_true, not_or, Bool.not_eq_true, Bool.not_eq_false', List.all_eq_true] at hd
      simpa [isDigit] using hd.right c hc
    obtain rfl := Option.some.inj h
    exact ⟨len_digits hd, by simpa using foldl_digits_lt hd 0⟩

-- A number is written in ASCII: its bytes are counted as its characters are.
theorem parseUInt32_eq_some {s : Text} {m : Nat} (h : s.parseUInt32 = some m) :
    s.len = s.length ∧ m < 10 ^ s.length := by
  obtain ⟨n, hn, h⟩ := Option.bind_eq_some_iff.mp h
  obtain ⟨_, ⟨⟩⟩ := Option.ite_none_right_eq_some.mp h
  split at hn
  case h_1 ds =>
    have ⟨hl, hlt⟩ := digitsValue?_eq_some hn
    refine ⟨?_, ?_⟩
    · rw [len] at hl ⊢
      simp only [asBytes, List.flatMap_cons, List.length_append, String.length_utf8EncodeChar] at hl ⊢
      rw [hl, List.length_cons, Nat.add_comm]
      rfl
    · rw [List.length_cons, Nat.pow_succ]
      omega
  case h_2 => exact digitsValue?_eq_some hn

end Text

namespace Runtime

open Checked

def u32Max : Nat := 2 ^ 32 - 1

def i64Min : Int := -2 ^ 63

-- `s.splitn(2, c).collect()`
def splitn (c : Char) (s : Text) : List Text :=
  match s.splitOnce c with
  | (base, none)      => [base]
  | (base, some rest) => [base, rest]

def convertDatetime [Libraries] (s : Text) : Checked Value := do
  let parts := splitn '.' s
  let base ← index parts 0
  match Chrono.parseDateTime base "%Y-%m-%d %H:%M:%S" with
  | none    => return .string s
  | some dt =>
    if parts.length = 2 then
      let frac : Text := (← index parts 1).take 6
      match frac.parseUInt32 with
      | some m =>
        let exponent ← sub 6 (frac.len % 2 ^ 32)
        let micros ← mul u32Max m (← pow u32Max 10 exponent)
        return .dateTime (Chrono.add dt (Chrono.microseconds micros))
      | none   => return .string s
    else return .dateTime dt

-- The microseconds that `convertTimedelta` adds, if they can be read.
def fractionMicros (parts : List Text) : Checked (Option Int) := do
  if parts.length = 2 then
    let frac : Text := (← index parts 1).take 6
    match frac.parseUInt32 with
    | some m =>
      let fracLen := frac.length % 2 ^ 32
      if fracLen ≤ 6 then
        let exponent ← sub 6 fracLen
        let scale := if 10 ^ exponent ≤ i64Max then 10 ^ exponent else 1
        return some (saturating (m * scale))
      else return some (saturating (m * 1))
    | none   => return none
  else return some 0

-- The time span that `convertTimedelta` ends with.
def boundedTimeSpan [Libraries] (neg : Bool) (total : Int) : Checked TimeDelta := do
  let maxMicros := i64Max / 1000
  let total ← Checked.clamp (← Checked.neg i64Min maxMicros) maxMicros total
  if neg then return Chrono.microseconds (← Checked.neg i64Min total)
  else return Chrono.microseconds total

def convertTimedelta [Libraries] (s : Text) : Checked Value := do
  let neg := s.head? = some '-'
  let s := s.trimStartMatches '-'
  let parts := splitn '.' s
  let timePart ← index parts 0
  let secs := timeSeconds (timePart.splitOn ':').reverse 0 0
  match ← fractionMicros parts with
  | none        => return .string s
  | some micros =>
    let total := saturating (saturating (secs * 1000000) + micros)
    return .timeSpan (← boundedTimeSpan neg total)

-- With the digits that are left out, a fraction of a second stays below a million microseconds.
theorem scaled_lt {m l : Nat} (hm : m < 10 ^ l) (hl : l ≤ 6) : m * 10 ^ (6 - l) < 10 ^ 6 := by
  calc m * 10 ^ (6 - l)
    _ < 10 ^ l * 10 ^ (6 - l) := Nat.mul_lt_mul_of_pos_right hm (Nat.pow_pos (by decide))
    _ = 10 ^ 6                := by rw [← Nat.pow_add, Nat.add_sub_cancel' hl]

theorem fractionMicros_eq (base rest : Text) : fractionMicros [base, rest] =
    .ok ((Text.parseUInt32 (rest.take 6)).map fun m =>
      saturating (m * 10 ^ (6 - (rest.take 6).length))) := by
  have hr : index [base, rest] 1 = .ok rest := rfl
  have hl := List.length_take_le 6 rest
  simp only [fractionMicros, hr, ok_bind, List.length_cons, List.length_nil, if_true]
  cases Text.parseUInt32 (rest.take 6)
  case none   => rfl
  case some m =>
    have hp : 10 ^ (6 - (rest.take 6).length) ≤ 10 ^ 6 := Nat.pow_le_pow_right (by decide) (Nat.sub_le 6 _)
    have hp : (10 ^ (6 - (rest.take 6).length) : Int) ≤ i64Max :=
      Int.le_trans (mod_cast hp) (show (10 ^ 6 : Nat) ≤ i64Max by decide)
    simp only
    rw [Nat.mod_eq_of_lt (by omega), if_pos hl, sub_eq hl, ok_bind]
    simp only [if_pos hp]
    rfl

theorem boundedTimeSpan_eq [Libraries] (neg : Bool) (total : Int) : boundedTimeSpan neg total =
    .ok (let total := max (-(i64Max / 1000)) (min total (i64Max / 1000))
      Chrono.microseconds (if neg then -total else total)) := by
  have hm : i64Max / 1000 ≠ i64Min := by decide
  have ht : max (-(i64Max / 1000)) (min total (i64Max / 1000)) ≠ i64Min := by
    have : i64Min < -(i64Max / 1000) := by decide
    omega
  simp only [boundedTimeSpan]
  rw [neg_eq hm, ok_bind, Checked.clamp_eq (by decide), ok_bind, neg_eq ht, ok_bind]
  cases neg <;> rfl

theorem convertTimedelta_eq [Libraries] (s : Text) : convertTimedelta s = .ok (MySQL.convertTimedelta s) := by
  rw [convertTimedelta, MySQL.convertTimedelta]
  simp only
  generalize s.trimStartMatches '-' = s'
  rw [splitn]
  obtain ⟨base, _ | rest⟩ := s'.splitOnce '.'
  case none =>
    have hb : index [base] 0 = .ok base := rfl
    have hf : fractionMicros [base] = .ok (some 0) := rfl
    simp only [hb, hf, ok_bind, boundedTimeSpan_eq, decide_eq_true_eq]
    rfl
  case some =>
    have hb : index [base, rest] 0 = .ok base := rfl
    simp only [hb, ok_bind, fractionMicros_eq]
    cases Text.parseUInt32 (rest.take 6)
    case none   => rfl
    case some m =>
      simp only [boundedTimeSpan_eq, ok_bind, decide_eq_true_eq]
      rfl

theorem convertDatetime_eq [Libraries] (s : Text) : convertDatetime s = .ok (MySQL.convertDatetime s) := by
  rw [convertDatetime, MySQL.convertDatetime, splitn]
  obtain ⟨base, _ | rest⟩ := s.splitOnce '.'
  case none =>
    have hb : index [base] 0 = .ok base := rfl
    simp only [hb, ok_bind]
    cases Chrono.parseDateTime base "%Y-%m-%d %H:%M:%S" <;> rfl
  case some =>
    have hb : index [base, rest] 0 = .ok base := rfl
    have hr : index [base, rest] 1 = .ok rest := rfl
    simp only [hb, hr, ok_bind]
    cases Chrono.parseDateTime base "%Y-%m-%d %H:%M:%S"
    case none    => rfl
    case some dt =>
      simp only [List.length_cons, List.length_nil, if_true]
      cases h : Text.parseUInt32 (rest.take 6)
      case none   => rfl
      case some m =>
        obtain ⟨hlen, hm⟩ := Text.parseUInt32_eq_some h
        rw [← hlen] at hm
        have hl : Text.len (rest.take 6) ≤ 6 := hlen ▸ List.length_take_le 6 rest
        have hm := scaled_lt hm hl
        have hp : 10 ^ (6 - Text.len (rest.take 6)) ≤ 10 ^ 6 := Nat.pow_le_pow_right (by decide) (Nat.sub_le 6 _)
        have hu : 10 ^ 6 ≤ u32Max := by decide
        simp only
        rw [Nat.mod_eq_of_lt (by omega), sub_eq hl, ok_bind, pow_eq (hp.trans hu), ok_bind,
          mul_eq (hm.le.trans hu)]
        rfl

open FieldType

def decoderFor [Libraries] (fieldType : UInt8) : Option (Text → Checked Value) :=
  if fieldType ∈ [TINY, SHORT, LONG, LONGLONG, INT24, YEAR] then some fun s => pure (convertInt s)
  else if fieldType ∈ [FLOAT, DOUBLE] then some fun s => pure (convertFloat s)
  else if fieldType ∈ [TIMESTAMP, DATETIME] then some convertDatetime
  else if fieldType = TIME then some convertTimedelta
  else if fieldType = DATE then some fun s => pure (convertDate s)
  else if fieldType ∈ [DECIMAL, NEWDECIMAL] then some fun s => pure (convertDecimal s)
  else some fun s => pure (convertString s)

theorem decoderFor_eq [Libraries] (fieldType : UInt8) :
    decoderFor fieldType = (MySQL.decoderFor fieldType).map fun convert s => .ok (convert s) := by
  rw [decoderFor, MySQL.decoderFor]
  split_ifs
  all_goals simp only [Option.map_some, ← convertDatetime_eq, ← convertTimedelta_eq]
  all_goals rfl

end Runtime
end MySQL
