import Mathlib.Data.List.Basic
import MysqlRs.Library.LittleEndian

namespace MySQL

abbrev Bytes := List UInt8

-- Text is a sequence of Unicode scalar values.
abbrev Text := List Char

-- A 64-bit target: the largest `usize`.
def usizeMax : Nat := 2 ^ 64 - 1

namespace Text

-- The bytes of a `str`.
def asBytes (s : Text) : Bytes :=
  s.flatMap String.utf8EncodeChar

-- `str::len`, which counts bytes.
def len (s : Text) : Nat :=
  s.asBytes.length

@[simp]
theorem asBytes_append (s t : Text) : asBytes (s ++ t) = s.asBytes ++ t.asBytes :=
  List.flatMap_append

@[simp]
theorem len_append (s t : Text) : len (s ++ t) = s.len + t.len := by
  simp [len]

def replacementChar : Char := '\uFFFD'

def isContinuation (b : UInt8) : Bool :=
  0x80 ≤ b && b ≤ 0xBF

-- The second bytes that may follow the lead byte of a three-byte sequence.
def isSecondOfThree (lead b : UInt8) : Bool :=
  if lead = 0xE0 then 0xA0 ≤ b && b ≤ 0xBF
  else if lead = 0xED then 0x80 ≤ b && b ≤ 0x9F
  else isContinuation b

-- The second bytes that may follow the lead byte of a four-byte sequence.
def isSecondOfFour (lead b : UInt8) : Bool :=
  if lead = 0xF0 then 0x90 ≤ b && b ≤ 0xBF
  else if lead = 0xF4 then 0x80 ≤ b && b ≤ 0x8F
  else isContinuation b

def scalar (bs : List UInt8) (lead : Nat) : Char :=
  Char.ofNat (bs.foldl (fun n b => n * 64 + b.toNat % 64) lead)

-- `String::from_utf8_lossy`: every maximal invalid part becomes one replacement character.
def fromUtf8Lossy : Bytes → Text
  | [] => []
  | b₁ :: bs =>
    if b₁ < 0x80 then Char.ofNat b₁.toNat :: fromUtf8Lossy bs
    else if 0xC2 ≤ b₁ && b₁ ≤ 0xDF then
      match bs with
      | b₂ :: bs' =>
        if isContinuation b₂ then scalar [b₂] (b₁.toNat % 32) :: fromUtf8Lossy bs'
        else replacementChar :: fromUtf8Lossy (b₂ :: bs')
      | [] => [replacementChar]
    else if 0xE0 ≤ b₁ && b₁ ≤ 0xEF then
      match bs with
      | b₂ :: b₃ :: bs' =>
        if isSecondOfThree b₁ b₂ then
          if isContinuation b₃ then scalar [b₂, b₃] (b₁.toNat % 16) :: fromUtf8Lossy bs'
          else replacementChar :: fromUtf8Lossy (b₃ :: bs')
        else replacementChar :: fromUtf8Lossy (b₂ :: b₃ :: bs')
      | [b₂] =>
        if isSecondOfThree b₁ b₂ then [replacementChar]
        else replacementChar :: fromUtf8Lossy [b₂]
      | [] => [replacementChar]
    else if 0xF0 ≤ b₁ && b₁ ≤ 0xF4 then
      match bs with
      | b₂ :: b₃ :: b₄ :: bs' =>
        if isSecondOfFour b₁ b₂ then
          if isContinuation b₃ then
            if isContinuation b₄ then scalar [b₂, b₃, b₄] (b₁.toNat % 8) :: fromUtf8Lossy bs'
            else replacementChar :: fromUtf8Lossy (b₄ :: bs')
          else replacementChar :: fromUtf8Lossy (b₃ :: b₄ :: bs')
        else replacementChar :: fromUtf8Lossy (b₂ :: b₃ :: b₄ :: bs')
      | [b₂, b₃] =>
        if isSecondOfFour b₁ b₂ then
          if isContinuation b₃ then [replacementChar]
          else replacementChar :: fromUtf8Lossy [b₃]
        else replacementChar :: fromUtf8Lossy [b₂, b₃]
      | [b₂] =>
        if isSecondOfFour b₁ b₂ then [replacementChar]
        else replacementChar :: fromUtf8Lossy [b₂]
      | [] => [replacementChar]
    else replacementChar :: fromUtf8Lossy bs

-- Valid text comes back, and each of the two broken sequences is one replacement character.
example : fromUtf8Lossy [0x61, 0xE3, 0x81, 0x82] = ['a', 'あ'] := by decide
example : fromUtf8Lossy [0xF0, 0x90, 0x61, 0xE3] = [replacementChar, 'a', replacementChar] := by decide

end Text
end MySQL
