import Mathlib.Data.List.DropRight
import MysqlRs.Values.TimeSpans

namespace MySQL

namespace Text

theorem toDigits_digits {n : Nat} : Digits (Nat.toDigits 10 n) where
  ne_nil    := Nat.toDigits_ne_nil
  digit _ h := Nat.isDigit_of_mem_toDigits (by decide) (by decide) h

theorem padded_digits {width n : Nat} : Digits (padded width n) where
  ne_nil h    := Nat.toDigits_ne_nil (List.append_eq_nil_iff.mp h).right
  digit c h := by
    obtain h | h := List.mem_append.mp h
    · obtain rfl := (List.mem_replicate.mp h).right
      decide
    · exact toDigits_digits.digit c h

theorem number_padded {width n : Nat} : (padded width n).number = n := by
  rw [number, padded, ofNat, Nat.ofDigitChars_append, Nat.ofDigitChars_replicate_zero, Nat.mul_zero,
    Nat.ofDigitChars_ten_toDigits]

theorem length_padded {width n : Nat} (hw : 0 < width) (hn : n < 10 ^ width) : (padded width n).length = width := by
  have hl := (Nat.length_toDigits_le_iff (by decide : 1 < 10) hw).mpr hn
  rw [padded, ofNat, List.length_append, List.length_replicate]
  omega

theorem number_append_replicate {ds : Text} {k : Nat} :
    number (ds ++ List.replicate k '0') = ds.number * 10 ^ k := by
  rw [number, Nat.ofDigitChars_append, Nat.ofDigitChars_replicate_zero, Nat.mul_comm]
  rfl

section TrimEnd

variable {c d : Char} {s r : Text}

theorem trimEndMatches_concat_self : trimEndMatches c (s ++ [c]) = s.trimEndMatches c :=
  List.rdropWhile_concat_pos (fun d => d = c) s c (decide_eq_true rfl)

theorem trimEndMatches_concat (h : d ≠ c) : trimEndMatches c (s ++ [d]) = s ++ [d] :=
  List.rdropWhile_concat_neg (fun d => d = c) s d (by simpa using h)

theorem trimEndMatches_of_notMem (h : c ∉ s) : s.trimEndMatches c = s := by
  induction s using List.reverseRecOn
  case nil                  => rfl
  case append_singleton s d => exact trimEndMatches_concat fun hd => h (by simp [hd])

-- The trimming stops at any other character.
theorem trimEndMatches_append_cons (h : d ≠ c) : trimEndMatches c (s ++ d :: r) = s ++ d :: trimEndMatches c r := by
  induction r using List.reverseRecOn
  case nil => exact trimEndMatches_concat h
  case append_singleton r e ih =>
    rw [← List.cons_append, ← List.append_assoc]
    by_cases he : e = c
    · rw [he, trimEndMatches_concat_self, trimEndMatches_concat_self, ih]
    · rw [trimEndMatches_concat he, trimEndMatches_concat he, List.append_assoc, List.cons_append]

theorem exists_replicate_trimEndMatches : ∃ k, s = s.trimEndMatches c ++ List.replicate k c := by
  induction s using List.reverseRecOn
  case nil => exact ⟨0, rfl⟩
  case append_singleton s d ih =>
    by_cases hd : d = c
    · obtain ⟨k, hk⟩ := ih
      refine ⟨k + 1, ?_⟩
      rw [hd, trimEndMatches_concat_self, List.replicate_succ', ← List.append_assoc, ← hk]
    · exact ⟨0, by rw [trimEndMatches_concat hd, List.replicate_zero, List.append_nil]⟩

end TrimEnd
end Text

section TimeSpans

-- The text of a time span with as many microseconds.
def TimeText.ofMicros (n : Int) : TimeText where
  negative := n < 0
  hours    := Text.padded 2 (n.natAbs / 1000000 / 3600)
  minutes  := Text.padded 2 (n.natAbs / 1000000 % 3600 / 60)
  seconds  := Text.padded 2 (n.natAbs / 1000000 % 60)
  fraction := if 0 < n.natAbs % 1000000 then some (Text.padded 6 (n.natAbs % 1000000)) else none
  hours_digits   := Text.padded_digits
  minutes_digits := Text.padded_digits
  minutes_length := Text.length_padded (by decide) (by omega)
  seconds_digits := Text.padded_digits
  seconds_length := Text.length_padded (by decide) (by omega)
  fraction_digits := by
    intro f hf
    obtain ⟨_, ⟨⟩⟩ := Option.ite_none_right_eq_some.mp hf
    exact Text.padded_digits

variable {n : Int}

theorem micros_ofMicros : (TimeText.ofMicros n).micros = n.natAbs := by
  simp only [TimeText.micros, TimeText.clockSeconds, TimeText.fractionMicros, TimeText.ofMicros, Text.number_padded]
  split
  case isTrue h =>
    have hl := @Text.length_padded 6 (n.natAbs % 1000000) (by decide) (by omega)
    have ht : List.take 6 (Text.padded 6 (n.natAbs % 1000000)) = Text.padded 6 (n.natAbs % 1000000) :=
      List.take_of_length_le hl.le
    rw [Option.map_some, Option.getD_some, ht, hl, Text.number_padded]
    omega
  case isFalse =>
    rw [Option.map_none, Option.getD_none]
    omega

-- Below a second, the sign is that of the rest.
theorem tdiv_negative : (n.tdiv 1000000 < 0 ∨ n.tdiv 1000000 = 0 ∧ n.tmod 1000000 < 0) ↔ n < 0 := by
  have he := Int.mul_tdiv_add_tmod n 1000000
  obtain hn | hn := Int.lt_or_le n 0
  · have hq := Int.tdiv_nonneg (a := -n) (b := 1000000) (by omega) (by decide)
    rw [Int.neg_tdiv] at hq
    omega
  · have hq := Int.tdiv_nonneg (b := 1000000) hn (by decide)
    have hr := Int.tmod_nonneg 1000000 hn
    omega

variable [Libraries]

-- What the calendar library does with time spans: the whole seconds and the rest both carry the sign.
structure Spans : Prop where
  seconds : ∀ n : Int, n.natAbs ≤ i64Max / 1000 → Chrono.numSeconds (Chrono.microseconds n) = n.tdiv 1000000
  rest    : ∀ n : Int, n.natAbs ≤ i64Max / 1000 → Chrono.subsecMicros (Chrono.microseconds n) = n.tmod 1000000

theorem formatTimedelta_microseconds (spans : Spans) (h : n.natAbs ≤ i64Max / 1000) :
    formatTimedelta (Chrono.microseconds n) = (TimeText.ofMicros n).text := by
  have hs : (n.tdiv 1000000).natAbs = n.natAbs / 1000000 := Int.natAbs_tdiv n 1000000
  have hm : (n.tmod 1000000).natAbs = n.natAbs % 1000000 := Int.natAbs_tmod n 1000000
  have hf : (if 0 < n.natAbs % 1000000 then '.' :: Text.padded 6 (n.natAbs % 1000000) else []) =
      ((TimeText.ofMicros n).fraction.map ('.' :: ·)).getD [] := by
    rw [TimeText.ofMicros]
    simp only
    split <;> rfl
  have hn : (TimeText.ofMicros n).negative = true ↔ n < 0 := decide_eq_true_iff
  simp only [formatTimedelta, spans.seconds n h, spans.rest n h, hs, hm, hf, Bool.or_eq_true, Bool.and_eq_true,
    decide_eq_true_eq, tdiv_negative, TimeText.text, hn]
  rfl

theorem convertTimedelta_formatTimedelta (spans : Spans) (h : n.natAbs ≤ i64Max / 1000) :
    convertTimedelta (formatTimedelta (Chrono.microseconds n)) = .timeSpan (Chrono.microseconds n) := by
  have hs : (TimeText.ofMicros n).signed = n := by
    have hn : (TimeText.ofMicros n).negative = true ↔ n < 0 := decide_eq_true_iff
    simp only [TimeText.signed, hn, micros_ofMicros]
    omega
  rw [formatTimedelta_microseconds spans h, TimeText.convertTimedelta_text (by rwa [micros_ofMicros]), hs]

end TimeSpans

section DateTimes

-- A leap year has a 29th of February.
def NaiveDate.isLeap (year : Int) : Bool :=
  year % 4 = 0 && (year % 100 ≠ 0 || year % 400 = 0)

def NaiveDate.daysInMonth (year : Int) (month : Nat) : Nat :=
  if month = 2 then if isLeap year then 29 else 28
  else if month ∈ [4, 6, 9, 11] then 30
  else 31

def NaiveDateTime.withNanosecond (dt : NaiveDateTime) (n : Nat) : NaiveDateTime where
  date := dt.date
  time := { dt.time with nanosecond := n }

-- The points in time with a year of four digits, outside of a leap second.
structure NaiveDateTime.Ordinary (dt : NaiveDateTime) : Prop where
  year       : 0 ≤ dt.date.year ∧ dt.date.year ≤ 9999
  month      : 1 ≤ dt.date.month ∧ dt.date.month ≤ 12
  day        : 1 ≤ dt.date.day ∧ dt.date.day ≤ NaiveDate.daysInMonth dt.date.year dt.date.month
  hour       : dt.time.hour < 24
  minute     : dt.time.minute < 60
  second     : dt.time.second < 60
  nanosecond : dt.time.nanosecond < 1000000000

-- What the calendar library does with them: the fraction of a second is written behind the whole seconds,
-- these are read back, and what is added to them below a second becomes their fraction.
structure Calendar [Libraries] : Prop extends Spans where
  fraction : ∀ dt : NaiveDateTime, dt.Ordinary → Chrono.formatDateTime dt "%Y-%m-%d %H:%M:%S%.6f" =
    Chrono.formatDateTime dt "%Y-%m-%d %H:%M:%S" ++ '.' :: Text.padded 6 (dt.time.nanosecond / 1000)
  whole    : ∀ dt : NaiveDateTime, dt.Ordinary → '.' ∉ Chrono.formatDateTime dt "%Y-%m-%d %H:%M:%S"
  parse    : ∀ dt : NaiveDateTime, dt.Ordinary →
    Chrono.parseDateTime (Chrono.formatDateTime dt "%Y-%m-%d %H:%M:%S") "%Y-%m-%d %H:%M:%S" =
      some (dt.withNanosecond 0)
  add      : ∀ (dt : NaiveDateTime) (n : Nat), dt.Ordinary → n < 1000000 →
    Chrono.add (dt.withNanosecond 0) (Chrono.microseconds n) = dt.withNanosecond (n * 1000)

theorem trimEndMatches_fraction {base ds : Text} (hb : '.' ∉ base) (hd : ds.Digits) :
    Text.trimEndMatches '.' (Text.trimEndMatches '0' (base ++ '.' :: ds)) =
      if ds.trimEndMatches '0' = [] then base else base ++ '.' :: ds.trimEndMatches '0' := by
  have hz : '.' ∉ ds.trimEndMatches '0' := fun h => hd.notMem (by decide) (Text.trimEndMatches_subset _ _ h)
  rw [Text.trimEndMatches_append_cons (by decide)]
  split
  case isTrue ht => rw [ht, Text.trimEndMatches_concat_self, Text.trimEndMatches_of_notMem hb]
  case isFalse ht =>
    obtain ⟨c, cs, hc⟩ := List.exists_cons_of_ne_nil ht
    rw [hc] at hz ⊢
    obtain ⟨hd, hcs⟩ := not_or.mp (mt List.mem_cons.mpr hz)
    rw [List.append_cons, Text.trimEndMatches_append_cons (Ne.symm hd), Text.trimEndMatches_of_notMem hcs]

-- The zeros that are left out are made up for by the scale.
theorem number_trimEndMatches {ds : Text} (hl : ds.length = 6) :
    (ds.trimEndMatches '0').length ≤ 6 ∧
      (ds.trimEndMatches '0').number * 10 ^ (6 - (ds.trimEndMatches '0').length) = ds.number := by
  obtain ⟨k, hk⟩ := Text.exists_replicate_trimEndMatches (c := '0') (s := ds)
  generalize ds.trimEndMatches '0' = t at hk ⊢
  rw [hk, List.length_append, List.length_replicate] at hl
  refine ⟨by omega, ?_⟩
  rw [hk, Text.number_append_replicate, show 6 - t.length = k by omega]

variable [Libraries] {dt : NaiveDateTime}

theorem convertDatetime_whole (cal : Calendar) (h : dt.Ordinary) :
    convertDatetime (Chrono.formatDateTime dt "%Y-%m-%d %H:%M:%S") = .dateTime (dt.withNanosecond 0) := by
  simp only [convertDatetime, Text.splitOnce_of_notMem (cal.whole dt h), cal.parse dt h]

theorem convertDatetime_fraction (cal : Calendar) (h : dt.Ordinary) {f : Text} (hf : f.Digits) (hl : f.length ≤ 6) :
    convertDatetime (Chrono.formatDateTime dt "%Y-%m-%d %H:%M:%S" ++ '.' :: f) =
      .dateTime (dt.withNanosecond (f.number * 10 ^ (6 - f.length) * 1000)) := by
  have hp : 10 ^ f.length ≤ 10 ^ 6 := Nat.pow_le_pow_right (by decide) hl
  have hn := hf.number_lt
  have ht : f.take 6 = f := List.take_of_length_le hl
  have hb : f.len = f.length := (Text.digitsValue?_eq_some hf.digitsValue?).left
  simp only [convertDatetime, Text.splitOnce_append (cal.whole dt h), cal.parse dt h, ht,
    hf.parseUInt32 (by omega), hb, cal.add dt _ h (Runtime.scaled_lt hn hl)]

theorem convertDatetime_toSql (cal : Calendar) (h : dt.Ordinary) (hn : dt.time.nanosecond % 1000 = 0)
    (encoding : Text) :
    ∃ text, Value.toSql encoding (.dateTime dt) = .ok (quoted text) ∧ convertDatetime text = .dateTime dt := by
  have hd : (Text.padded 6 (dt.time.nanosecond / 1000)).Digits := Text.padded_digits
  have hl : (Text.padded 6 (dt.time.nanosecond / 1000)).length = 6 :=
    Text.length_padded (by decide) (by have := h.nanosecond; omega)
  have hm := number_trimEndMatches hl
  rw [Text.number_padded] at hm
  have ht := trimEndMatches_fraction (cal.whole dt h) hd
  rw [← cal.fraction dt h] at ht
  refine ⟨_, rfl, (congrArg convertDatetime ht).trans ?_⟩
  split
  case isTrue hz =>
    have hz : dt.time.nanosecond = 0 := by
      have hm := hm.right
      rw [hz, show Text.number [] = 0 from rfl, Nat.zero_mul] at hm
      omega
    rw [convertDatetime_whole cal h, ← hz]
    rfl
  case isFalse hz =>
    have hf : (Text.trimEndMatches '0' (Text.padded 6 (dt.time.nanosecond / 1000))).Digits :=
      ⟨hz, fun c hc => hd.digit c (Text.trimEndMatches_subset _ _ hc)⟩
    have hs : dt.time.nanosecond / 1000 * 1000 = dt.time.nanosecond := by omega
    rw [convertDatetime_fraction cal h hf hm.left, hm.right, hs]
    rfl

-- Times and points in time are read back from the literals that they are written as.
theorem temporal_roundTrip (cal : Calendar) (encoding : Text) :
    (∀ n : Int, n.natAbs ≤ i64Max / 1000 →
      ∃ text, Value.toSql encoding (.timeSpan (Chrono.microseconds n)) = .ok (quoted text) ∧
        convertTimedelta text = .timeSpan (Chrono.microseconds n)) ∧
    (∀ dt : NaiveDateTime, dt.Ordinary → dt.time.nanosecond % 1000 = 0 →
      ∃ text, Value.toSql encoding (.dateTime dt) = .ok (quoted text) ∧ convertDatetime text = .dateTime dt) :=
  ⟨fun _ h => ⟨_, rfl, convertTimedelta_formatTimedelta cal.toSpans h⟩,
    fun _ h hn => convertDatetime_toSql cal h hn encoding⟩

end DateTimes

section Examples

def writeThree (c : Char) (x y z : Text) : Text :=
  x ++ c :: y ++ c :: z

def writeWhole (dt : NaiveDateTime) : Text :=
  writeThree '-' (Text.padded 4 dt.date.year.toNat) (Text.padded 2 dt.date.month) (Text.padded 2 dt.date.day) ++ ' ' ::
    writeThree ':' (Text.padded 2 dt.time.hour) (Text.padded 2 dt.time.minute) (Text.padded 2 dt.time.second)

def readThree (c : Char) (s : Text) : Option (Nat × Nat × Nat) :=
  match s.splitOn c with
  | [x, y, z] => do return (← Text.digitsValue? x, ← Text.digitsValue? y, ← Text.digitsValue? z)
  | _         => none

def readWhole (s : Text) : Option NaiveDateTime := do
  let (date, time) := s.splitOnce ' '
  let (year, month, day) ← readThree '-' date
  let (hour, minute, second) ← readThree ':' (← time)
  return ⟨⟨year, month, day⟩, ⟨hour, minute, second, 0⟩⟩

@[reducible]
def Libraries.calendar : Libraries :=
  { Libraries.utf8Only with
    formatDateTime dt format := writeWhole dt ++
      if format = "%Y-%m-%d %H:%M:%S%.6f" then '.' :: Text.padded 6 (dt.time.nanosecond / 1000) else []
    parseDateTime s _        := readWhole s
    add dt td                := dt.withNanosecond (dt.time.nanosecond + td.nanoseconds.toNat) }

theorem readThree_padded {c : Char} (hc : c.isDigit = false) {k x y z : Nat} :
    readThree c (writeThree c (Text.padded k x) (Text.padded 2 y) (Text.padded 2 z)) = some (x, y, z) := by
  have hp {k x : Nat} : c ∉ Text.padded k x := Text.padded_digits.notMem hc
  have hv {k x : Nat} : Text.digitsValue? (Text.padded k x) = some x :=
    Text.padded_digits.digitsValue?.trans (congrArg some Text.number_padded)
  rw [readThree, writeThree, List.append_assoc, List.cons_append, List.splitOn_append_cons_self_of_not_mem hp,
    List.splitOn_append_cons_self_of_not_mem hp, List.splitOn_eq_singleton hp]
  simp only [hv]
  rfl

theorem mem_writeWhole {c : Char} {dt : NaiveDateTime} (h : c ∈ writeWhole dt) :
    c.isDigit = true ∨ c ∈ ['-', ' ', ':'] := by
  by_contra hn
  obtain ⟨hd, hc⟩ := not_or.mp hn
  simp only [List.mem_cons, List.not_mem_nil, or_false, not_or, Bool.not_eq_true] at hd hc
  have hp {k x : Nat} : c ∉ Text.padded k x := Text.padded_digits.notMem hd
  simp [writeWhole, writeThree, hp, hc] at h

attribute [local instance] Libraries.calendar

theorem formatDateTime_whole (dt : NaiveDateTime) :
    Chrono.formatDateTime dt "%Y-%m-%d %H:%M:%S" = writeWhole dt := by
  change writeWhole dt ++ ite _ _ _ = _
  rw [if_neg (by decide), List.append_nil]

theorem calendar_calendar : Calendar where
  seconds n _ := Int.mul_tdiv_mul_of_pos_left n 1000000 (by decide)
  rest n _ := by
    have hm : (n * 1000).tmod (1000000 * 1000) = n.tmod 1000000 * 1000 := by
      rw [Int.mul_comm n, Int.mul_comm 1000000, Int.mul_tmod_mul_of_pos _ _ (by decide), Int.mul_comm]
    exact (congrArg (Int.tdiv · 1000) hm).trans (Int.mul_tdiv_cancel _ (by decide))
  fraction dt _ := by
    rw [formatDateTime_whole]
    rfl
  whole dt _ h := by
    rw [formatDateTime_whole] at h
    obtain h | h := mem_writeWhole h
    all_goals exact absurd h (by decide)
  parse dt h := by
    have hy : (dt.date.year.toNat : Int) = dt.date.year := Int.toNat_of_nonneg h.year.left
    have hs : ' ' ∉ writeThree '-' (Text.padded 4 dt.date.year.toNat) (Text.padded 2 dt.date.month)
        (Text.padded 2 dt.date.day) := by
      simp [writeThree, Text.padded_digits.notMem (c := ' ') (by decide)]
    rw [formatDateTime_whole]
    change readWhole (writeWhole dt) = _
    rw [readWhole, writeWhole, Text.splitOnce_append hs]
    simp only [readThree_padded (c := '-') (by decide), readThree_padded (c := ':') (by decide),
      Option.bind_eq_bind, Option.bind_some, Option.pure_def, hy]
    rfl
  add dt n _ _ := by
    have hn : 0 + ((n : Int) * 1000).toNat = n * 1000 := by omega
    exact congrArg dt.withNanosecond hn

theorem temporal_roundTrip_leapDay :
    (∃ text, Value.toSql "utf8".toList (.timeSpan (Chrono.microseconds (-500000))) = .ok (quoted text) ∧
      convertTimedelta text = .timeSpan (Chrono.microseconds (-500000))) ∧
    (∃ text, Value.toSql "utf8".toList (.dateTime ⟨⟨2024, 2, 29⟩, ⟨23, 59, 5, 120000000⟩⟩) = .ok (quoted text) ∧
      convertDatetime text = .dateTime ⟨⟨2024, 2, 29⟩, ⟨23, 59, 5, 120000000⟩⟩) := by
  have h := temporal_roundTrip calendar_calendar "utf8".toList
  refine ⟨h.left _ (by decide), h.right _ ?_ rfl⟩
  exact ⟨by decide, by decide, by decide, by decide, by decide, by decide, by decide⟩

end Examples
end MySQL
