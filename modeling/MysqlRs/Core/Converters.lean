import MysqlRs.Core.Error
import MysqlRs.Core.Float64
import MysqlRs.Core.Libraries

namespace MySQL

-- The elements of a set are listed in the order in which they are iterated.
inductive Value
  | null
  | bool (b : Bool)
  | int (i : Int64)
  | float (f : Float64)
  | string (s : Text)
  | bytes (b : Bytes)
  | date (d : NaiveDate)
  | time (t : NaiveTime)
  | dateTime (dt : NaiveDateTime)
  | timeSpan (td : TimeDelta)
  | decimal (d : Decimal)
  | list (items : List Value)
  | set (items : List Value)

namespace Text

-- `str::replace` with a single character as the pattern.
def replace (s : Text) (c : Char) (new : Text) : Text :=
  s.flatMap fun d => if d = c then new else [d]

def trimEndMatches (c : Char) (s : Text) : Text :=
  (s.reverse.dropWhile (· = c)).reverse

theorem trimEndMatches_subset (c : Char) (s : Text) : s.trimEndMatches c ⊆ s := fun _ hd =>
  List.mem_reverse.mp (List.dropWhile_subset _ (List.mem_reverse.mp hd))

def trimStartMatches (c : Char) (s : Text) : Text :=
  s.dropWhile (· = c)

-- `str::splitn(2, c)`: what comes before the first `c`, and what comes after it.
def splitOnce (c : Char) (s : Text) : Text × Option Text :=
  match s.dropWhile (· ≠ c) with
  | []        => (s, none)
  | _ :: rest => (s.takeWhile (· ≠ c), some rest)

def join (separator : Text) : List Text → Text
  | []      => []
  | [s]     => s
  | s :: ss => s ++ separator ++ join separator ss

def ofNat (n : Nat) : Text :=
  Nat.toDigits 10 n

def ofInt (i : Int) : Text :=
  if i < 0 then '-' :: ofNat i.natAbs else ofNat i.natAbs

-- `{:02}` and its siblings.
def padded (width n : Nat) : Text :=
  List.replicate (width - (ofNat n).length) '0' ++ ofNat n

def digitsValue? (ds : Text) : Option Nat :=
  if ds = [] || !ds.all (fun c => '0' ≤ c && c ≤ '9') then none
  else some (ds.foldl (fun n c => n * 10 + (c.toNat - 48)) 0)

-- `str::parse::<i64>`.
def parseInt64 (s : Text) : Option Int64 :=
  let value : Option Int :=
    match s with
    | '-' :: ds => (digitsValue? ds).map (- ·)
    | '+' :: ds => (digitsValue? ds).map (·)
    | ds        => (digitsValue? ds).map (·)
  value.bind fun i => if -2 ^ 63 ≤ i && i < 2 ^ 63 then some (Int64.ofInt i) else none

-- `str::parse::<u32>`.
def parseUInt32 (s : Text) : Option Nat :=
  let value :=
    match s with
    | '+' :: ds => digitsValue? ds
    | ds        => digitsValue? ds
  value.bind fun n => if n < 2 ^ 32 then some n else none

end Text

-- The last replacement but one is that of the control-Z character.
def escapeString (value : Text) : Text :=
  (((((((value.replace '\\' "\\\\".toList).replace '\'' "\\'".toList).replace '\n' "\\n".toList).replace
    '\r' "\\r".toList).replace '\x00' "\\0".toList).replace '\x1a' "\\Z".toList).replace
    '"' "\\\"".toList)

private def hexDigit (n : Nat) : Char :=
  Char.ofNat (if n < 10 then 48 + n else 55 + n)

def escapeBytes (value : Bytes) (_encoding : Text) : Text :=
  let hex := value.flatMap fun b => [hexDigit (b.toNat / 16), hexDigit (b.toNat % 16)]
  'X' :: '\'' :: hex ++ ['\'']

def isHexDigit (c : Char) : Bool :=
  c.isDigit || 'A' ≤ c && c ≤ 'F'

private theorem hexDigit_isHexDigit {n : Nat} (h : n < 16) : isHexDigit (hexDigit n) := by
  revert n
  decide

-- Two digits stand for every byte.
theorem escapeBytes_digits (value : Bytes) (encoding : Text) :
    ∃ ds, escapeBytes value encoding = 'X' :: '\'' :: ds ++ ['\''] ∧
      ds.length = 2 * value.length ∧ ∀ c ∈ ds, isHexDigit c := by
  refine ⟨_, rfl, ?_, fun c hc => ?_⟩
  · simp [Nat.mul_comm]
  · obtain ⟨b, _, hc⟩ := List.mem_flatMap.mp hc
    have hb := b.toNat_lt
    simp only [List.mem_cons, List.not_mem_nil, or_false] at hc
    obtain rfl | rfl := hc
    · exact hexDigit_isHexDigit (Nat.div_lt_of_lt_mul hb)
    · exact hexDigit_isHexDigit (Nat.mod_lt _ (by decide))

def escapeFloat (value : Float64) : Except Error Text :=
  if !value.isFinite then
    .error (.dataError 0
      s!"{String.ofList value.displayNonFinite} can not be used with MySQL")
  else
    let s := value.debug
    if 'e' ∈ s || 'E' ∈ s then .ok s else .ok (s ++ "e0".toList)

def formatTimedelta [Libraries] (td : TimeDelta) : Text :=
  let neg := Chrono.numSeconds td < 0 || Chrono.numSeconds td = 0 && Chrono.subsecMicros td < 0
  let totalSeconds := (Chrono.numSeconds td).natAbs
  let hours := totalSeconds / 3600
  let minutes := totalSeconds % 3600 / 60
  let seconds := totalSeconds % 60
  let microseconds := (Chrono.subsecMicros td).natAbs
  let body := Text.padded 2 hours ++ ':' :: Text.padded 2 minutes ++ ':' :: Text.padded 2 seconds ++
    if 0 < microseconds then '.' :: Text.padded 6 microseconds else []
  if neg then '-' :: body else body

def quoted (s : Text) : Text :=
  '\'' :: s ++ ['\'']

namespace Value

variable [Libraries]

private def trimFraction (s : Text) : Text :=
  (s.trimEndMatches '0').trimEndMatches '.'

omit [Libraries] in
theorem trimFraction_subset (s : Text) : trimFraction s ⊆ s :=
  List.Subset.trans (Text.trimEndMatches_subset _ _) (Text.trimEndMatches_subset _ _)

mutual

def toSql (encoding : Text) : Value → Except Error Text
  | null        => .ok "NULL".toList
  | bool b      => .ok (if b then "1".toList else "0".toList)
  | int i       => .ok (Text.ofInt i.toInt)
  | float f     => escapeFloat f
  | string s    => .ok (quoted (escapeString s))
  | bytes b     => .ok (escapeBytes b encoding)
  | date d      => .ok (quoted (Chrono.formatDate d "%Y-%m-%d"))
  | time t      => .ok (quoted (trimFraction (Chrono.formatTime t "%H:%M:%S%.6f")))
  | dateTime dt => .ok (quoted (trimFraction (Chrono.formatDateTime dt "%Y-%m-%d %H:%M:%S%.6f")))
  | timeSpan td => .ok (quoted (formatTimedelta td))
  | decimal d   => .ok (Decimals.format d)
  | list items  => do
    let items ← toSqlItems encoding items
    return '(' :: Text.join [','] items ++ [')']
  | set items   => do
    let items ← toSqlItems encoding items
    return Text.join [','] items

-- The items as they are collected by `escape_sequence` and `escape_set`.
def toSqlItems (encoding : Text) : List Value → Except Error (List Text)
  | []            => .ok []
  | value :: rest => do
    let s ← toSql encoding value
    let ss ← toSqlItems encoding rest
    return s :: ss

end

end Value

-- Turns the text of a column into a value.
abbrev Converter := Text → Value

section Decoders

variable [Libraries]

def convertInt (s : Text) : Value :=
  (s.parseInt64.map Value.int).getD (.string s)

def convertFloat (s : Text) : Value :=
  ((Float64.parse s).map Value.float).getD (.string s)

def convertString (s : Text) : Value :=
  .string s

def convertDecimal (s : Text) : Value :=
  match Decimals.parse s with
  | some d => if Decimals.format d = s then .decimal d else .string s
  | none   => .string s

def convertDate (s : Text) : Value :=
  match Chrono.parseDate s "%Y-%m-%d" with
  | some d => .date d
  | none   => .string s

def convertDatetime (s : Text) : Value :=
  let (base, fraction) := s.splitOnce '.'
  match Chrono.parseDateTime base "%Y-%m-%d %H:%M:%S" with
  | none    => .string s
  | some dt =>
    match fraction with
    | none          => .dateTime dt
    | some fraction =>
      let frac : Text := fraction.take 6
      match frac.parseUInt32 with
      | some m =>
        let micros := m * 10 ^ (6 - frac.len)
        .dateTime (Chrono.add dt (Chrono.microseconds micros))
      | none   => .string s

def i64Max : Int := 2 ^ 63 - 1

def saturating (i : Int) : Int :=
  max (-2 ^ 63) (min i i64Max)

-- Adds up the parts from the last one on: the `i`th one counts `60 ^ i` seconds. The exponent is a
-- `u32`.
def timeSeconds : List Text → Nat → Int → Int
  | [],      _, secs => secs
  | p :: ps, i, secs =>
    let v := (p.parseInt64.map Int64.toInt).getD 0
    let exponent := i % 2 ^ 32
    let multiplier := if 60 ^ exponent ≤ i64Max then 60 ^ exponent else i64Max
    timeSeconds ps (i + 1) (saturating (secs + saturating (v * multiplier)))

def convertTimedelta (s : Text) : Value :=
  let neg := s.head? = some '-'
  let s := s.trimStartMatches '-'
  let (timePart, fraction) := s.splitOnce '.'
  let secs := timeSeconds (timePart.splitOn ':').reverse 0 0
  let micros : Option Int :=
    match fraction with
    | none          => some 0
    | some fraction =>
      let frac : Text := fraction.take 6
      frac.parseUInt32.map fun m => saturating (m * 10 ^ (6 - frac.length))
  match micros with
  | none        => .string s
  | some micros =>
    let total := saturating (saturating (secs * 1000000) + micros)
    -- `TimeDelta::microseconds` takes no more than this.
    let maxMicros := i64Max / 1000
    let total := max (-maxMicros) (min total maxMicros)
    .timeSpan (Chrono.microseconds (if neg then -total else total))

open FieldType

def decoderFor (fieldType : UInt8) : Option Converter :=
  if fieldType ∈ [TINY, SHORT, LONG, LONGLONG, INT24, YEAR] then some convertInt
  else if fieldType ∈ [FLOAT, DOUBLE] then some convertFloat
  else if fieldType ∈ [TIMESTAMP, DATETIME] then some convertDatetime
  else if fieldType = TIME then some convertTimedelta
  else if fieldType = DATE then some convertDate
  else if fieldType ∈ [DECIMAL, NEWDECIMAL] then some convertDecimal
  else some convertString

end Decoders
end MySQL
