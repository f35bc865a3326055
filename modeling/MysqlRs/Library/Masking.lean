import Mathlib.Tactic.Common

-- Bytes under the exclusive or with a key.
namespace Masking

-- As long as the shorter one.
def xor (bytes key : List UInt8) : List UInt8 :=
  List.zipWith (· ^^^ ·) bytes key

-- The key starts over after `period` bytes.
def mask (key : List UInt8) (period : Nat) (bytes : List UInt8) : List UInt8 :=
  bytes.mapIdx fun i b => b ^^^ key.getD (i % period) 0

theorem byte_cancel (b k : UInt8) : b ^^^ k ^^^ k = b := by
  rw [UInt8.xor_assoc, UInt8.xor_self, UInt8.xor_zero]

theorem xor_comm (bytes key : List UInt8) : xor bytes key = xor key bytes :=
  List.zipWith_comm_of_comm fun _ _ => UInt8.xor_comm _ _

theorem xor_cancel {bytes key : List UInt8} (h : bytes.length ≤ key.length) :
    xor (xor bytes key) key = bytes := by
  induction bytes generalizing key
  case nil          => rfl
  case cons b bytes ih =>
    cases key
    case nil        => exact absurd h (Nat.not_succ_le_zero _)
    case cons k key => exact congrArg₂ _ (byte_cancel b k) (ih (Nat.le_of_succ_le_succ h))

theorem mask_append (key : List UInt8) (period : Nat) (bytes : List UInt8) (b : UInt8) :
    mask key period (bytes ++ [b]) = mask key period bytes ++ [b ^^^ key.getD (bytes.length % period) 0] :=
  List.mapIdx_concat

theorem mask_mask (key : List UInt8) (period : Nat) (bytes : List UInt8) :
    mask key period (mask key period bytes) = bytes := by
  apply List.ext_getElem (by simp [mask])
  intro i _ _
  simp only [mask, List.getElem_mapIdx]
  exact byte_cancel _ _

end Masking
