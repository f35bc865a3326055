import Mathlib.Algebra.Group.Int.Defs
import Mathlib.Algebra.GroupWithZero.Nat
import Mathlib.Tactic.Common

-- Unsigned integers as little-endian byte strings of a fixed width.
namespace LittleEndian

def encode : Nat → Nat → List UInt8
  | 0,     _ => []
  | k + 1, n => UInt8.ofNat n :: encode k (n / 256)

def decode : List UInt8 → Nat
  | []      => 0
  | b :: bs => b.toNat + 256 * decode bs

@[simp]
theorem encode_length (k n : Nat) : (encode k n).length = k := by
  induction k generalizing n
  case zero       => rfl
  case succ _ ih  => simp [encode, ih]

theorem decode_encode (k n : Nat) : decode (encode k n) = n % 256 ^ k := by
  induction k generalizing n
  case zero      => simp [encode, decode, Nat.mod_one]
  case succ k ih =>
    rw [encode, decode, ih, Nat.pow_succ', Nat.mod_mul]
    simp

theorem decode_encode_of_lt {k n : Nat} (h : n < 256 ^ k) : decode (encode k n) = n := by
  rw [decode_encode, Nat.mod_eq_of_lt h]

theorem decode_append (as bs : List UInt8) :
    decode (as ++ bs) = decode as + 256 ^ as.length * decode bs := by
  induction as
  case nil          => simp [decode]
  case cons a as ih =>
    rw [List.cons_append, decode, ih, decode, List.length_cons, Nat.pow_succ', Nat.mul_add, Nat.mul_assoc,
      Nat.add_assoc]

theorem decode_lt (bs : List UInt8) : decode bs < 256 ^ bs.length := by
  induction bs
  case nil          => simp [decode]
  case cons b bs ih =>
    have hb := b.toNat_lt
    rw [decode, List.length_cons, Nat.pow_succ]
    omega

-- What a reader of `k` bytes finds at the front of a longer input.
theorem take_encode_append (k n : Nat) (bs : List UInt8) : (encode k n ++ bs).take k = encode k n := by
  rw [List.take_append_of_le_length (by simp), List.take_of_length_le (by simp)]

theorem drop_encode_append (k n : Nat) (bs : List UInt8) : (encode k n ++ bs).drop k = bs := by
  rw [List.drop_append_of_le_length (by simp), List.drop_of_length_le (by simp), List.nil_append]

end LittleEndian
