import Mathlib.Data.List.TakeWhile
import MysqlRs.Runtime.Converters

namespace MySQL

namespace Text

structure Digits (ds : Text) : Prop where
  ne_nil : ds ≠ []
  digit  : ∀ c ∈ ds, c.isDigit

def number (ds : Text) : Nat :=
  Nat.ofDigitChars 10 ds 0

theorem isDigit_iff {c : Char} : isDigit c ↔ c.isDigit = true := by
  simp [isDigit, Char.isDigit, Char.le_def]

theorem splitOnce_append {c : Char} {s rest : Text} (h : c ∉ s) :
    (s ++ c :: rest).splitOnce c = (s, some rest) := by
  have hs : ∀ d ∈ s, decide (d ≠ c) = true := fun d hd => decide_eq_true fun he => h (he ▸ hd)
  have hd : (s ++ c :: rest).dropWhile (· ≠ c) = c :: rest := by
    rw [List.dropWhile_append_of_pos hs]
    exact List.dropWhile_cons_of_neg (by simp)
  have ht : (s ++ c :: rest).takeWhile (· ≠ c) = s := by
    rw [List.takeWhile_append_of_pos hs, List.takeWhile_cons_of_neg (by simp), List.append_nil]
  rw [splitOnce, hd, ht]

theorem splitOnce_of_notMem {c : Char} {s : Text} (h : c ∉ s) : s.splitOnce c = (s, none) := by
  have hs : s.dropWhile (· ≠ c) = [] :=
    List.dropWhile_eq_nil_iff.mpr fun d hd => decide_eq_true fun he => h (he ▸ hd)
  rw [splitOnce, hs]

theorem trimStartMatches_eq_self {c : Char} {s : Text} (h : s.head? ≠ some c) : s.trimStartMatches c = s := by
  cases s
  case nil       => rfl
  case cons d ds => exact List.dropWhile_cons_of_neg fun hd => h (congrArg some (of_decide_eq_true hd))

theorem trimStartMatches_cons {c : Char} {s : Text} : trimStartMatches c (c :: s) = s.trimStartMatches c :=
  List.dropWhile_cons_of_pos (decide_eq_true rfl)

theorem trimStartMatches_head {c : Char} {s : Text} (h : s.trimStartMatches c = s) : s.head? ≠ some c := by
  intro hs
  obtain ⟨s', rfl⟩ : ∃ s', s = c :: s' := ⟨s.tail, (List.cons_head?_tail hs).symm⟩
  have hl := List.length_dropWhile_le (· = c) s'
  rw [trimStartMatches_cons, trimStartMatches] at h
  rw [h, List.length_cons] at hl
  omega

namespace Digits

variable {ds : Text}

theorem take (h : Digits ds) {n : Nat} (hn : n ≠ 0) : Digits (List.take n ds) where
  ne_nil := by simp [h.ne_nil, hn]
  digit c hc := h.digit c (List.mem_of_mem_take hc)

theorem notMem (h : Digits ds) {c : Char} (hc : c.isDigit = false) : c ∉ ds := by
  intro hm
  rw [h.digit c hm] at hc
  cases hc

theorem digitsValue? (h : Digits ds) : Text.digitsValue? ds = some ds.number := by
  have hd : ds.all (fun c => '0' ≤ c && c ≤ '9') := by
    refine List.all_eq_true.mpr fun c hc => ?_
    simpa [isDigit] using isDigit_iff.mpr (h.digit c hc)
  have hf : (fun n c => n * 10 + (c.toNat - 48)) = fun (n : Nat) (c : Char) => 10 * n + (c.toNat - '0'.toNat) := by
    funext n c
    rw [Nat.mul_comm]
    rfl
  rw [Text.digitsValue?, if_neg (by simp [h.ne_nil, hd]), number, Nat.ofDigitChars_eq_foldl, hf]

theorem number_lt (h : Digits ds) : ds.number < 10 ^ ds.length :=
  (digitsValue?_eq_some h.digitsValue?).right

-- Neither sign is a digit.
theorem parseInt64 (h : Digits ds) (hn : ds.number < 2 ^ 63) :
    (ds.parseInt64.map Int64.toInt).getD 0 = ds.number := by
  have hv := h.digitsValue?
  have hl : -2 ^ 63 ≤ (ds.number : Int) := by omega
  have hu : (ds.number : Int) < 2 ^ 63 := by omega
  have hp : Text.parseInt64 ds = some (Int64.ofInt ds.number) := by
    refine Option.bind_eq_some_iff.mpr ⟨ds.number, ?_, if_pos ?_⟩
    · split
      case h_1 => exact absurd List.mem_cons_self (h.notMem (by decide))
      case h_2 => exact absurd List.mem_cons_self (h.notMem (by decide))
      case h_3 =>
        rw [hv]
        rfl
    · rw [decide_eq_true hl, decide_eq_true hu]
      rfl
  rw [hp, Option.map_some, Option.getD_some]
  exact Int64.toInt_ofInt_of_le hl hu

theorem parseUInt32 (h : Digits ds) (hn : ds.number < 2 ^ 32) : ds.parseUInt32 = some ds.number := by
  have hv := h.digitsValue?
  unfold Text.parseUInt32
  split
  case h_1 => exact absurd List.mem_cons_self (h.notMem (by decide))
  case h_2 =>
    rw [hv, Option.bind_some]
    exact if_pos hn

end Digits
end Text

theorem saturating_natCast {n : Nat} (h : n ≤ 2 ^ 63 - 1) : saturating n = n := by
  have hl : -2 ^ 63 ≤ (n : Int) := by omega
  have hu : (n : Int) ≤ i64Max := by rw [i64Max]; omega
  rw [saturating, min_eq_left hu, max_eq_right hl]

-- A part that does not saturate.
theorem timeSeconds_cons {p : Text} {ps : List Text} {i secs : Nat} (hp : p.Digits) (hi : i < 10)
    (h : secs + p.number * 60 ^ i ≤ 2 ^ 63 - 1) :
    timeSeconds (p :: ps) i secs = timeSeconds ps (i + 1) (secs + p.number * 60 ^ i : Nat) := by
  have he : i % 2 ^ 32 = i := Nat.mod_eq_of_lt (by omega)
  have hm : (60 ^ i : Int) ≤ i64Max := by
    have hm : 60 ^ i ≤ 60 ^ 9 := Nat.pow_le_pow_right (by decide) (by omega)
    exact Int.le_trans (mod_cast hm) (show ((60 ^ 9 : Nat) : Int) ≤ i64Max by decide)
  have hn : p.number ≤ p.number * 60 ^ i := Nat.le_mul_of_pos_right _ (Nat.pow_pos (by decide))
  have hc : (p.number : Int) * 60 ^ i = (p.number * 60 ^ i : Nat) := by push_cast; rfl
  rw [timeSeconds]
  simp only [he, if_pos hm, hp.parseInt64 (by omega), hc]
  rw [saturating_natCast (by omega), ← Int.natCast_add, saturating_natCast h]

-- What a time is written as: [-]HH:MM:SS[.ffffff].
structure TimeText where
  negative : Bool
  hours    : Text
  minutes  : Text
  seconds  : Text
  fraction : Option Text
  hours_digits    : hours.Digits
  minutes_digits  : minutes.Digits
  minutes_length  : minutes.length = 2
  seconds_digits  : seconds.Digits
  seconds_length  : seconds.length = 2
  fraction_digits : ∀ f ∈ fraction, f.Digits

namespace TimeText

def clock (t : TimeText) : Text :=
  t.hours ++ ':' :: t.minutes ++ ':' :: t.seconds

def magnitude (t : TimeText) : Text :=
  t.clock ++ (t.fraction.map ('.' :: ·)).getD []

def text (t : TimeText) : Text :=
  if t.negative then '-' :: t.magnitude else t.magnitude

def clockSeconds (t : TimeText) : Nat :=
  3600 * t.hours.number + 60 * t.minutes.number + t.seconds.number

-- The digits after the sixth one are left out.
def fractionMicros (t : TimeText) : Nat :=
  (t.fraction.map fun f => Text.number (f.take 6) * 10 ^ (6 - (f.take 6).length)).getD 0

def micros (t : TimeText) : Nat :=
  t.clockSeconds * 1000000 + t.fractionMicros

def signed (t : TimeText) : Int :=
  if t.negative then -t.micros else t.micros

variable {t : TimeText}

theorem clock_splitOn : t.clock.splitOn ':' = [t.hours, t.minutes, t.seconds] := by
  have hh : ':' ∉ t.hours := t.hours_digits.notMem (by decide)
  have hm : ':' ∉ t.minutes := t.minutes_digits.notMem (by decide)
  have hs : ':' ∉ t.seconds := t.seconds_digits.notMem (by decide)
  rw [clock, List.append_assoc, List.cons_append, List.splitOn_append_cons_self_of_not_mem hh,
    List.splitOn_append_cons_self_of_not_mem hm, List.splitOn_eq_singleton hs]

theorem notMem_clock {c : Char} (hd : c.isDigit = false) (hc : c ≠ ':') : c ∉ t.clock := by
  simp [clock, hc, t.hours_digits.notMem hd, t.minutes_digits.notMem hd, t.seconds_digits.notMem hd]

theorem mem_text {c : Char} (h : c ∈ t.text) : c.isDigit = true ∨ c ∈ ['-', ':', '.'] := by
  by_contra hn
  obtain ⟨hd, hc⟩ := not_or.mp hn
  simp only [List.mem_cons, List.not_mem_nil, or_false, not_or, Bool.not_eq_true] at hd hc
  have hk := t.notMem_clock hd hc.right.left
  have hm : c ∉ t.magnitude := by
    rw [magnitude]
    cases hf : t.fraction
    case none   => simpa using hk
    case some f => simpa [hk, hc.right.right] using (t.fraction_digits f hf).notMem hd
  rw [text] at h
  split at h
  case isTrue  => exact (List.mem_cons.mp h).elim hc.left hm
  case isFalse => exact hm h

theorem magnitude_splitOnce : t.magnitude.splitOnce '.' = (t.clock, t.fraction) := by
  have hc : '.' ∉ t.clock := notMem_clock (by decide) (by decide)
  rw [magnitude]
  cases t.fraction
  case none   => rw [Option.map_none, Option.getD_none, List.append_nil, Text.splitOnce_of_notMem hc]
  case some f => exact Text.splitOnce_append hc

theorem magnitude_head : t.magnitude.head? ≠ some '-' := by
  intro h
  obtain ⟨c, cs, hc⟩ := List.exists_cons_of_ne_nil t.hours_digits.ne_nil
  have hd := t.hours_digits.digit c (hc ▸ List.mem_cons_self)
  simp only [magnitude, clock, hc, List.cons_append, List.head?_cons, Option.some.injEq] at h
  rw [h] at hd
  cases hd

theorem text_head : t.text.head? = some '-' ↔ t.negative = true := by
  rw [text]
  split
  case isTrue hn  => simp [hn]
  case isFalse hn => exact iff_of_false magnitude_head hn

theorem text_trim : t.text.trimStartMatches '-' = t.magnitude := by
  have hm := Text.trimStartMatches_eq_self (t.magnitude_head)
  rw [text]
  split
  case isTrue  => rw [Text.trimStartMatches_cons, hm]
  case isFalse => exact hm

theorem timeSeconds_clock (h : t.clockSeconds ≤ 2 ^ 63 - 1) :
    timeSeconds [t.seconds, t.minutes, t.hours] 0 0 = t.clockSeconds := by
  rw [clockSeconds] at h ⊢
  calc timeSeconds [t.seconds, t.minutes, t.hours] 0 (0 : Nat)
    _ = timeSeconds [t.minutes, t.hours] 1 (0 + t.seconds.number * 60 ^ 0 : Nat) :=
      timeSeconds_cons t.seconds_digits (by decide) (by omega)
    _ = timeSeconds [t.hours] 2 (0 + t.seconds.number * 60 ^ 0 + t.minutes.number * 60 ^ 1 : Nat) :=
      timeSeconds_cons t.minutes_digits (by decide) (by omega)
    _ = (0 + t.seconds.number * 60 ^ 0 + t.minutes.number * 60 ^ 1 + t.hours.number * 60 ^ 2 : Nat) :=
      timeSeconds_cons t.hours_digits (by decide) (by omega)
    _ = _ := by push_cast; ring

theorem fraction_parse {f : Text} (h : f.Digits) : Text.parseUInt32 (f.take 6) = some (Text.number (f.take 6)) ∧
    Text.number (f.take 6) * 10 ^ (6 - (f.take 6).length) < 1000000 := by
  have hd := h.take (n := 6) (by decide)
  have hl := List.length_take_le 6 f
  have hn := hd.number_lt
  have hp : 10 ^ (f.take 6).length ≤ 10 ^ 6 := Nat.pow_le_pow_right (by decide) hl
  exact ⟨hd.parseUInt32 (by omega), Runtime.scaled_lt hn hl⟩

-- What is left of the arithmetic once nothing saturates.
theorem total_eq {n : Nat} (h : n ≤ i64Max / 1000) :
    max (-(i64Max / 1000)) (min (saturating n) (i64Max / 1000)) = n := by
  have hn : n ≤ 2 ^ 63 - 1 := by rw [i64Max] at h; omega
  rw [saturating_natCast hn, min_eq_left h, max_eq_right]
  exact Int.le_trans (by decide) (Int.natCast_nonneg n)

theorem convertTimedelta_text [Libraries] (h : t.micros ≤ i64Max / 1000) :
    convertTimedelta t.text = .timeSpan (Chrono.microseconds t.signed) := by
  have hm := h
  simp only [micros, i64Max] at hm
  have hs := t.timeSeconds_clock (by omega)
  have hc : (t.clockSeconds : Int) * 1000000 = (t.clockSeconds * 1000000 : Nat) := by push_cast; rfl
  have hk := saturating_natCast (n := t.clockSeconds * 1000000) (by omega)
  have ht := total_eq h
  rw [micros] at ht
  simp only [convertTimedelta, text_trim, magnitude_splitOnce, clock_splitOn, text_head, signed, micros,
    List.reverse_cons, List.reverse_nil, List.nil_append, List.cons_append, hs, hc, hk]
  cases hf : t.fraction
  case none =>
    have hz : t.fractionMicros = 0 := by rw [fractionMicros, hf]; rfl
    rw [hz, Nat.add_zero] at ht ⊢
    simp only [Int.add_zero, ht]
  case some f =>
    obtain ⟨hp, hl⟩ := fraction_parse (t.fraction_digits f hf)
    have hz : t.fractionMicros = Text.number (f.take 6) * 10 ^ (6 - (f.take 6).length) := by
      rw [fractionMicros, hf]
      rfl
    have hq : saturating ((Text.number (f.take 6) : Int) * 10 ^ (6 - (f.take 6).length)) = t.fractionMicros := by
      rw [← hz] at hl
      rw [← saturating_natCast (n := t.fractionMicros) (by omega), hz]
      push_cast
      rfl
    simp only [hp, Option.bind_eq_bind, Option.bind_some, Option.pure_def, Option.map_some, hq, ← Int.natCast_add,
      ht]

end TimeText

section Grammar

variable [Libraries]

-- Neither the sign nor the digits of a fraction are there.
def Refused (s : Text) : Prop :=
  s.head? ≠ some '-' ∧ ∃ f, (s.splitOnce '.').2 = some f ∧ Text.parseUInt32 (f.take 6) = none

theorem convertTimedelta_string {s r : Text} (h : convertTimedelta s = .string r) :
    r = s.trimStartMatches '-' ∧
      ∃ f, (Text.splitOnce '.' (s.trimStartMatches '-')).2 = some f ∧ Text.parseUInt32 (f.take 6) = none := by
  simp only [convertTimedelta] at h
  generalize s.trimStartMatches '-' = s' at h ⊢
  cases hf : (Text.splitOnce '.' s').2
  case none =>
    rw [hf] at h
    cases h
  case some f =>
    rw [hf] at h
    cases hp : Text.parseUInt32 (f.take 6)
    case none =>
      simp only [hp] at h
      cases h
      exact ⟨rfl, f, rfl, hp⟩
    case some =>
      simp only [hp] at h
      cases h

theorem convertTimedelta_self_iff {s : Text} : convertTimedelta s = .string s ↔ Refused s := by
  constructor
  case mp =>
    intro h
    obtain ⟨ht, f, hf, hp⟩ := convertTimedelta_string h
    rw [← ht] at hf
    exact ⟨Text.trimStartMatches_head ht.symm, f, hf, hp⟩
  case mpr =>
    rintro ⟨hs, f, hf, hp⟩
    simp only [convertTimedelta, Text.trimStartMatches_eq_self hs, hf, hp]
    rfl

theorem decodes_iff {s : Text} {P : TimeText → Prop} :
    ((∀ t : TimeText, s = t.text → t.micros ≤ i64Max / 1000 →
        convertTimedelta s = .timeSpan (Chrono.microseconds t.signed)) ∧
      ((¬∃ t : TimeText, s = t.text ∧ P t) → convertTimedelta s = .string s)) ↔
    (∃ t : TimeText, s = t.text ∧ P t) ∨ Refused s := by
  constructor
  case mp =>
    rintro ⟨_, h⟩
    by_cases ht : ∃ t : TimeText, s = t.text ∧ P t
    · exact .inl ht
    · exact .inr (convertTimedelta_self_iff.mp (h ht))
  case mpr =>
    intro h
    refine ⟨?_, fun ht => convertTimedelta_self_iff.mpr (h.resolve_left ht)⟩
    rintro t rfl hm
    exact t.convertTimedelta_text hm

-- A text that is no time is given back only if it is refused. The same holds when the times that are too
-- long for a time span, and decoded as the longest one, are not counted as times.
theorem convertTimedelta_grammar (s : Text) :
    (((∀ t : TimeText, s = t.text → t.micros ≤ i64Max / 1000 →
          convertTimedelta s = .timeSpan (Chrono.microseconds t.signed)) ∧
        ((¬∃ t : TimeText, s = t.text) → convertTimedelta s = .string s)) ↔
      (∃ t : TimeText, s = t.text) ∨ Refused s) ∧
    (((∀ t : TimeText, s = t.text → t.micros ≤ i64Max / 1000 →
          convertTimedelta s = .timeSpan (Chrono.microseconds t.signed)) ∧
        ((¬∃ t : TimeText, s = t.text ∧ t.micros ≤ i64Max / 1000) → convertTimedelta s = .string s)) ↔
      (∃ t : TimeText, s = t.text ∧ t.micros ≤ i64Max / 1000) ∨ Refused s) := by
  refine ⟨?_, decodes_iff⟩
  have h := decodes_iff (s := s) (P := fun _ => True)
  simp only [and_true] at h
  exact h

end Grammar

section Examples

attribute [local instance] Libraries.utf8Only

theorem convertTimedelta_letters :
    (¬∃ t : TimeText, "abc".toList = t.text) ∧
    convertTimedelta "abc".toList = .timeSpan (Chrono.microseconds 0) ∧
    (¬∃ t : TimeText, "-1:00:00.x".toList = t.text) ∧
    convertTimedelta "-1:00:00.x".toList = .string "1:00:00.x".toList := by
  refine ⟨?_, rfl, ?_, rfl⟩
  · rintro ⟨t, h⟩
    obtain hd | hc := t.mem_text (h ▸ (by decide : 'a' ∈ "abc".toList))
    · exact absurd hd (by decide)
    · exact absurd hc (by decide)
  · rintro ⟨t, h⟩
    obtain hd | hc := t.mem_text (h ▸ (by decide : 'x' ∈ "-1:00:00.x".toList))
    · exact absurd hd (by decide)
    · exact absurd hc (by decide)

end Examples
end MySQL
