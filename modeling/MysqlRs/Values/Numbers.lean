import MysqlRs.Sql.Sequences
import MysqlRs.Values.RoundTrip

namespace MySQL

section Integers

variable {i : Int64}

theorem Text.parseInt64_ofInt : (Text.ofInt i.toInt).parseInt64 = some i := by
  have hl : -2 ^ 63 ≤ i.toInt := i.le_toInt
  have hu : i.toInt < 2 ^ 63 := i.toInt_lt
  have hd : (Text.ofNat i.toInt.natAbs).Digits := Text.toDigits_digits
  have hv : Text.digitsValue? (Text.ofNat i.toInt.natAbs) = some i.toInt.natAbs :=
    hd.digitsValue?.trans (congrArg some Nat.ofDigitChars_ten_toDigits)
  have hi : (if -2 ^ 63 ≤ i.toInt && i.toInt < 2 ^ 63 then some (Int64.ofInt i.toInt) else none) = some i := by
    rw [decide_eq_true hl, decide_eq_true hu, Int64.ofInt_toInt]
    rfl
  refine Option.bind_eq_some_iff.mpr ⟨i.toInt, ?_, hi⟩
  obtain hn | hn := Int.lt_or_le i.toInt 0
  case inl =>
    have hs : -(i.toInt.natAbs : Int) = i.toInt := by omega
    rw [Text.ofInt, if_pos hn]
    simp only [hv]
    exact congrArg some hs
  case inr =>
    have hs : (i.toInt.natAbs : Int) = i.toInt := by omega
    rw [Text.ofInt, if_neg (Int.not_lt.mpr hn)]
    split
    case h_1 h => exact absurd (h ▸ List.mem_cons_self) (hd.notMem (by decide))
    case h_2 h => exact absurd (h ▸ List.mem_cons_self) (hd.notMem (by decide))
    case h_3 =>
      rw [hv]
      exact congrArg some hs

theorem convertInt_ofInt : convertInt (Text.ofInt i.toInt) = .int i := by
  rw [convertInt, Text.parseInt64_ofInt, Option.map_some, Option.getD_some]

end Integers

section Floats

variable {f : Float64}

-- Whatever is finite is written with an exponent.
theorem escapeFloat_parse (h : f.isFinite) :
    ∃ text, escapeFloat f = .ok text ∧ 'e' ∈ text ∧ Float64.parse text = some f := by
  obtain ⟨hp, hs⟩ := Float64.parse_debug h
  have hE : 'E' ∉ f.debug := fun hE => absurd (f.debug_numeral h 'E' hE) (by decide)
  simp only [escapeFloat, h, hE, Bool.not_true, Bool.false_eq_true, if_false, decide_false, Bool.or_false,
    decide_eq_true_eq]
  split
  case isTrue he  => exact ⟨f.debug, rfl, he, hp⟩
  case isFalse he => exact ⟨f.debug ++ "e0".toList, rfl, List.mem_append_right _ List.mem_cons_self, hs he⟩

theorem convertFloat_escapeFloat (h : f.isFinite) :
    ∃ text, escapeFloat f = .ok text ∧ 'e' ∈ text ∧ convertFloat text = .float f := by
  obtain ⟨text, ht, he, hp⟩ := escapeFloat_parse h
  refine ⟨text, ht, he, ?_⟩
  rw [convertFloat, hp, Option.map_some, Option.getD_some]

end Floats

section Columns

open FieldType

variable [Libraries]

theorem convertDecimal_format {d : Decimal} (h : Decimals.parse (Decimals.format d) = some d) :
    convertDecimal (Decimals.format d) = .decimal d := by
  simp only [convertDecimal, h, if_true]

-- A number is read back from the literal that it is written as, by the decoder of every column that is meant for it.
theorem numeric_roundTrip (encoding : Text) :
    (∀ i : Int64, ∃ text, Value.toSql encoding (.int i) = .ok text ∧
      ∀ t ∈ [TINY, SHORT, LONG, LONGLONG, INT24, YEAR], (decoderFor t).map (· text) = some (.int i)) ∧
    (∀ f : Float64, f.isFinite → ∃ text, Value.toSql encoding (.float f) = .ok text ∧ 'e' ∈ text ∧
      ∀ t ∈ [FLOAT, DOUBLE], (decoderFor t).map (· text) = some (.float f)) ∧
    (∀ d : Decimal, Decimals.parse (Decimals.format d) = some d →
      ∃ text, Value.toSql encoding (.decimal d) = .ok text ∧
        ∀ t ∈ [DECIMAL, NEWDECIMAL], (decoderFor t).map (· text) = some (.decimal d)) := by
  have decoder {types : List UInt8} {convert : Converter} (hd : ∀ t ∈ types, decoderFor t = some convert) {text : Text}
      {value : Value} (hv : convert text = value) : ∀ t ∈ types, (decoderFor t).map (· text) = some value := by
    intro t ht
    rw [hd t ht, Option.map_some, hv]
  have ints : ∀ t ∈ [TINY, SHORT, LONG, LONGLONG, INT24, YEAR], decoderFor t = some convertInt :=
    fun t ht => if_pos ht
  have floats : ∀ t ∈ [FLOAT, DOUBLE], decoderFor t = some convertFloat := by
    simp only [List.forall_mem_cons]
    exact ⟨rfl, rfl, List.forall_mem_nil _⟩
  have decimals : ∀ t ∈ [DECIMAL, NEWDECIMAL], decoderFor t = some convertDecimal := by
    simp only [List.forall_mem_cons]
    exact ⟨rfl, rfl, List.forall_mem_nil _⟩
  refine ⟨fun i => ⟨_, rfl, decoder ints convertInt_ofInt⟩, fun f hf => ?_, fun d hd => ?_⟩
  · obtain ⟨text, ht, he, hv⟩ := convertFloat_escapeFloat hf
    exact ⟨text, ht, he, decoder floats hv⟩
  · exact ⟨_, rfl, decoder decimals (convertDecimal_format hd)⟩

end Columns

section Examples

def readDecimal (s : Text) : Option Decimal := do
  let negative := s.head? = some '-'
  let (whole, fraction) := (s.trimStartMatches '-').splitOnce '.'
  let fraction := fraction.getD []
  let n ← Text.digitsValue? (whole ++ fraction)
  return ⟨if negative then -n else n, fraction.length⟩

@[reducible]
def Libraries.decimals : Libraries :=
  { Libraries.formatting with parse := readDecimal }

attribute [local instance] Libraries.decimals

open FieldType

-- The smallest positive number, a zero with a sign and an amount of money.
theorem numeric_roundTrip_smallest :
    (∃ text, Value.toSql "utf8".toList (.float ⟨1⟩) = .ok text ∧ 'e' ∈ text ∧
      ∀ t ∈ [FLOAT, DOUBLE], (decoderFor t).map (· text) = some (.float ⟨1⟩)) ∧
    (∃ text, Value.toSql "utf8".toList (.float ⟨0x8000000000000000⟩) = .ok text ∧ 'e' ∈ text ∧
      ∀ t ∈ [FLOAT, DOUBLE], (decoderFor t).map (· text) = some (.float ⟨0x8000000000000000⟩)) ∧
    (∃ text, Value.toSql "utf8".toList (.decimal ⟨-1250, 2⟩) = .ok text ∧
      ∀ t ∈ [DECIMAL, NEWDECIMAL], (decoderFor t).map (· text) = some (.decimal ⟨-1250, 2⟩)) :=
  have h := numeric_roundTrip "utf8".toList
  ⟨h.right.left ⟨1⟩ (by decide), h.right.left ⟨0x8000000000000000⟩ (by decide), h.right.right ⟨-1250, 2⟩ (by decide)⟩

end Examples
end MySQL
