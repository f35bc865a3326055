import Mathlib.Data.List.TakeWhile
import MysqlRs.Core.Packet
import MysqlRs.Library.Raw

namespace MySQL

-- The most bytes that a vector can hold.
def isizeMax : Nat := 2 ^ 63 - 1

-- A packet as it can be in memory. The cursor starts at 0 and stays within the data.
structure MysqlPacket.Fits (p : MysqlPacket) : Prop where
  position : p.position ≤ p.data.length
  data     : p.data.length ≤ isizeMax

namespace Runtime

open ClientError Checked

abbrev Reader := Raw Error MysqlPacket

def read (size : Nat) : Reader Bytes := do
  let p ← get
  if usizeMax < p.position + size then
    throw (.internalError CR_MALFORMED_PACKET
      s!"Read size overflow: Position={p.position}, Size={size}")
  let stop := p.position + size
  if p.data.length < stop then
    throw (.internalError CR_MALFORMED_PACKET
      s!"Result length not requested length: Expected={size}, Actual={p.data.length - p.position}, Position={p.position}, Data Length={p.data.length}, Data={p.data}")
  let result ← slice p.data p.position stop
  modify ({ · with position := stop })
  return result

def readAll : Reader Bytes := do
  let p ← get
  let result ← sliceFrom p.data p.position
  modify ({ · with position := p.data.length })
  return result

def advance (length : Nat) : Reader Unit := do
  let p ← get
  if usizeMax < p.position + length then
    throw (.internalError CR_MALFORMED_PACKET
      s!"Advance amount overflow: Position={p.position}, Length={length}")
  let newPosition := p.position + length
  if p.data.length < newPosition then
    throw (.internalError CR_MALFORMED_PACKET
      s!"Invalid advance amount ({length}) for cursor. Position={newPosition}")
  modify ({ · with position := newPosition })

-- `from_le_bytes` on `[bytes[0], bytes[1], ..]`.
def readUint (size : Nat) : Reader Nat := do
  let bytes ← read size
  return LittleEndian.decode (← indices usizeMax bytes 0 size)

def readUint8 : Reader UInt8 := do
  return UInt8.ofNat (← readUint 1)

def readUint16 : Reader UInt16 := do
  return UInt16.ofNat (← readUint 2)

def readUint24 : Reader UInt32 := do
  return UInt32.ofNat (← readUint 3)

def readUint32 : Reader UInt32 := do
  return UInt32.ofNat (← readUint 4)

def readUint64 : Reader UInt64 := do
  return UInt64.ofNat (← readUint 8)

def readString : Reader (Option Bytes) := do
  let p ← get
  let rest ← sliceFrom p.data p.position
  match rest.findIdx? (· = 0) with
  | some i =>
    let stop ← add usizeMax p.position i
    let result ← slice p.data p.position stop
    let position ← add usizeMax stop 1
    modify ({ · with position := position })
    return some result
  | none   => return none

def readLengthEncodedInteger : Reader (Option UInt64) := do
  let c ← readUint8
  if c = NULL_COLUMN then return none
  else if c < UNSIGNED_CHAR_COLUMN then return some c.toUInt64
  else if c = UNSIGNED_SHORT_COLUMN then return some (← readUint16).toUInt64
  else if c = UNSIGNED_INT24_COLUMN then return some (← readUint24).toUInt64
  else if c = UNSIGNED_INT64_COLUMN then return some (← readUint64)
  else throw (.internalError CR_MALFORMED_PACKET s!"Invalid length encoded integer header: {c}")

def readLengthCodedString : Reader (Option Bytes) := do
  match ← readLengthEncodedInteger with
  | none     => return none
  | some len => return some (← read len.toNat)

def OkPacketWrapper.fromPacket : Reader OkPacketWrapper := do
  if !(← get).isOkPacket then
    throw (.internalError CR_MALFORMED_PACKET
      "Cannot create OkPacketWrapper from invalid packet type")
  advance 1
  let affectedRows ← readLengthEncodedInteger
  let insertId ← readLengthEncodedInteger
  let serverStatus ← readUint16
  let warningCount ← readUint16
  let message ← readAll
  return {
    affectedRows, insertId, serverStatus, warningCount, message
    hasNext := hasMoreResults serverStatus
  }

def EofPacketWrapper.fromPacket : Reader EofPacketWrapper := do
  if !(← get).isEofPacket then
    throw (.internalError CR_MALFORMED_PACKET
      "Cannot create EofPacketWrapper from invalid packet type")
  advance 1
  let warningCount ← readUint16
  let serverStatus ← readUint16
  return { warningCount, serverStatus, hasNext := hasMoreResults serverStatus }

def LoadLocalPacketWrapper.fromPacket (packet : MysqlPacket) :
    Checked (Except Error LoadLocalPacketWrapper) := do
  if !packet.isLoadLocalPacket then
    return .error (.internalError CR_MALFORMED_PACKET
      "Cannot create LoadLocalPacketWrapper from invalid packet type")
  return .ok { filename := ← sliceFrom packet.data 1 }

-- What has become of reading is what the other reader says.
inductive Matches {α : Type} (P : α → Prop) :
    Checked (Except Error α × MysqlPacket) → Except Error (α × MysqlPacket) → Prop
  | ok {a p} : P a → p.Fits → Matches P (.ok (.ok a, p)) (.ok (a, p))
  | error {e p} : p.Fits → Matches P (.ok (.error e, p)) (.error e)

namespace Matches

variable {α γ : Type} {P : α → Prop} {p : MysqlPacket} {o : Except Error (α × MysqlPacket)}

-- An early exit with an error.
theorem guard {b : Prop} [Decidable b] {f : PUnit → Reader α} {e : Error} (hp : p.Fits)
    (h : ¬b → Matches P (f ⟨⟩ p) o) :
    Matches P ((if b then throw e >>= f else f ⟨⟩) p) (if b then .error e else o) := by
  split_ifs
  case pos    => exact .error hp
  case neg hb => exact h hb

-- An operation that is not cut short.
theorem step {z : Checked γ} {c : γ} {f : γ → Reader α} (hz : z = .ok c) (h : Matches P (f c p) o) :
    Matches P ((liftM z >>= f) p) o := by
  subst hz
  exact h

end Matches

-- Every packet is read as the other reader reads it.
def Reads {α : Type} (P : α → Prop) (x : Reader α) (y : MysqlPacket.Reader α) : Prop :=
  ∀ p, p.Fits → Matches P (x p) (y p)

namespace Reads

variable {α β γ : Type} {P : α → Prop} {Q : β → Prop} {x : Reader α} {y : MysqlPacket.Reader α}

theorem bind {f : α → Reader β} {g : α → MysqlPacket.Reader β} (hx : Reads P x y)
    (hf : ∀ a, P a → Reads Q (f a) (g a)) : Reads Q (x >>= f) (y >>= g) := by
  intro p hp
  have h := hx p hp
  change Matches Q _ (y p >>= fun r => g r.1 r.2)
  rw [Raw.bind_apply]
  generalize x p = o at h
  generalize y p = o' at h
  cases h
  case ok a p h hp  => exact hf a h p hp
  case error e p hp => exact .error hp

theorem pure {a : α} (h : P a) : Reads P (pure a) (pure a) :=
  fun _ hp => .ok h hp

theorem throw (e : Error) : Reads P (throw e) (throw e) :=
  fun _ hp => .error hp

theorem ite {b : Prop} [Decidable b] {x' : Reader α} {y' : MysqlPacket.Reader α} (h : b → Reads P x y)
    (h' : ¬b → Reads P x' y') : Reads P (if b then x else x') (if b then y else y') := by
  split_ifs
  case pos hb => exact h hb
  case neg hb => exact h' hb

-- An early exit with an error.
theorem guard {b : Prop} [Decidable b] {e : Error} {f : PUnit → Reader α} {g : PUnit → MysqlPacket.Reader α}
    (h : Reads P (f ⟨⟩) (g ⟨⟩)) : Reads P (if b then MonadExcept.throw e >>= f else f ⟨⟩)
      (if b then MonadExcept.throw e >>= g else g ⟨⟩) :=
  .ite (fun _ => .bind (P := fun _ => False) (.throw e) fun _ h => h.elim) fun _ => h

theorem get {f : MysqlPacket → Reader α} (h : ∀ p, p.Fits → Matches P (f p p) (y p)) : Reads P (get >>= f) y :=
  h

theorem step {z : Checked γ} {c : γ} {f : γ → Reader α} (hz : z = .ok c) (hf : Reads P (f c) y) :
    Reads P (liftM z >>= f) y :=
  fun p hp => .step hz (hf p hp)

end Reads

theorem read_reads (size : Nat) : Reads (fun bytes => bytes.length = size) (read size) (MysqlPacket.read size) := by
  refine .get fun p hp => .guard hp fun _ => .guard hp fun h => ?_
  refine .step (slice_eq (by omega) (by omega)) ?_
  rw [Nat.add_sub_cancel_left]
  refine .ok ?_ ⟨Nat.not_lt.mp h, hp.data⟩
  simp only [List.length_take, List.length_drop]
  omega

theorem readAll_reads : Reads (fun _ => True) readAll MysqlPacket.readAll :=
  .get fun _ hp => .step (sliceFrom_eq hp.position) (.ok trivial ⟨Nat.le_refl _, hp.data⟩)

theorem advance_reads (length : Nat) : Reads (fun _ => True) (advance length) (MysqlPacket.advance length) :=
  .get fun _ hp => .guard hp fun _ => .guard hp fun h => .ok trivial ⟨Nat.not_lt.mp h, hp.data⟩

-- The bytes that are picked one by one are the ones that have been read.
theorem readUint_reads {size : Nat} (h : size ≤ 8) :
    Reads (fun _ => True) (readUint size) (MysqlPacket.readUint size) := by
  refine .bind (read_reads size) fun bytes hb => .step (indices_eq (by omega) ?_) ?_
  · simp only [usizeMax]
    omega
  · rw [List.drop_zero, List.take_of_length_le (Nat.le_of_eq hb)]
    exact .pure trivial

theorem readUint8_reads : Reads (fun _ => True) readUint8 MysqlPacket.readUint8 :=
  .bind (readUint_reads (by decide)) fun _ _ => .pure trivial

theorem readUint16_reads : Reads (fun _ => True) readUint16 MysqlPacket.readUint16 :=
  .bind (readUint_reads (by decide)) fun _ _ => .pure trivial

theorem readUint24_reads : Reads (fun _ => True) readUint24 MysqlPacket.readUint24 :=
  .bind (readUint_reads (by decide)) fun _ _ => .pure trivial

theorem readUint32_reads : Reads (fun _ => True) readUint32 MysqlPacket.readUint32 :=
  .bind (readUint_reads (by decide)) fun _ _ => .pure trivial

theorem readUint64_reads : Reads (fun _ => True) readUint64 MysqlPacket.readUint64 :=
  .bind (readUint_reads (by decide)) fun _ _ => .pure trivial

section Terminator

variable {bytes : Bytes}

theorem findIdx?_none (h : bytes.findIdx? (· = 0) = none) : 0 ∉ bytes ∧ bytes.takeWhile (· ≠ 0) = bytes := by
  have h : ∀ b ∈ bytes, b ≠ 0 := by simpa using h
  refine ⟨fun h₀ => h 0 h₀ rfl, List.takeWhile_eq_self_iff.mpr fun b hb => ?_⟩
  exact decide_eq_true (h b hb)

theorem findIdx?_some {i : Nat} (h : bytes.findIdx? (· = 0) = some i) : i < bytes.length ∧ 0 ∈ bytes ∧
    bytes.takeWhile (· ≠ 0) = bytes.take i ∧ bytes.dropWhile (· ≠ 0) = bytes.drop i := by
  have ⟨hi, h₀, _⟩ := List.findIdx?_eq_some_iff_getElem.mp h
  have ⟨_, hf⟩ := List.findIdx?_eq_some_iff_findIdx_eq.mp h
  have hf : bytes.findIdx (fun b => !decide (b ≠ 0)) = i := by simpa using hf
  refine ⟨hi, of_decide_eq_true h₀ ▸ List.getElem_mem hi, ?_, ?_⟩
  · rw [List.takeWhile_eq_take_findIdx_not, hf]
  · rw [List.dropWhile_eq_drop_findIdx_not, hf]

end Terminator

theorem readString_reads : Reads (fun _ => True) readString MysqlPacket.readString := by
  refine .get fun p hp => .step (sliceFrom_eq hp.position) ?_
  have hdata := hp.data
  simp only [isizeMax] at hdata
  cases h : (p.data.drop p.position).findIdx? (· = 0)
  case none   =>
    rw [MysqlPacket.readString, if_neg (findIdx?_none h).left]
    exact .ok trivial hp
  case some i =>
    have ⟨hi, h₀, ht, _⟩ := findIdx?_some h
    have hi : p.position + i < p.data.length := by
      simp only [List.length_drop] at hi
      omega
    simp only [MysqlPacket.readString, if_pos h₀, ht]
    rw [List.length_take_of_le (by simp only [List.length_drop]; omega)]
    refine .step (add_eq (by simp only [usizeMax]; omega)) ?_
    refine .step (slice_eq (by omega) (by omega)) ?_
    refine .step (add_eq (by simp only [usizeMax]; omega)) ?_
    rw [Nat.add_sub_cancel_left]
    exact .ok trivial ⟨hi, hp.data⟩

theorem readLengthEncodedInteger_reads :
    Reads (fun _ => True) readLengthEncodedInteger MysqlPacket.readLengthEncodedInteger := by
  refine .bind readUint8_reads fun c _ => ?_
  refine .ite (fun _ => .pure trivial) fun _ => .ite (fun _ => .pure trivial) fun _ => ?_
  refine .ite (fun _ => .bind readUint16_reads fun _ _ => .pure trivial) fun _ => ?_
  refine .ite (fun _ => .bind readUint24_reads fun _ _ => .pure trivial) fun _ => ?_
  exact .ite (fun _ => .bind readUint64_reads fun _ _ => .pure trivial) fun _ => .throw _

theorem readLengthCodedString_reads :
    Reads (fun _ => True) readLengthCodedString MysqlPacket.readLengthCodedString := by
  refine .bind readLengthEncodedInteger_reads fun len _ => ?_
  cases len
  case none     => exact .pure trivial
  case some len => exact .bind (read_reads _) fun _ _ => .pure trivial

theorem okFromPacket_reads : Reads (fun _ => True) OkPacketWrapper.fromPacket MySQL.OkPacketWrapper.fromPacket := by
  refine .get fun p hp => .guard hp fun _ => ?_
  suffices h : Reads _ _ MySQL.OkPacketWrapper.readFields from h p hp
  refine .bind (advance_reads 1) fun _ _ => ?_
  refine .bind readLengthEncodedInteger_reads fun _ _ => ?_
  refine .bind readLengthEncodedInteger_reads fun _ _ => ?_
  refine .bind readUint16_reads fun _ _ => .bind readUint16_reads fun _ _ => ?_
  exact .bind readAll_reads fun _ _ => .pure trivial

theorem eofFromPacket_reads : Reads (fun _ => True) EofPacketWrapper.fromPacket MySQL.EofPacketWrapper.fromPacket := by
  refine .get fun p hp => .guard hp fun _ => ?_
  suffices h : Reads _ _ MySQL.EofPacketWrapper.readFields from h p hp
  refine .bind (advance_reads 1) fun _ _ => ?_
  exact .bind readUint16_reads fun _ _ => .bind readUint16_reads fun _ _ => .pure trivial

theorem length_pos_of_head? {data : Bytes} {b : UInt8} (h : data.head? = some b) : 1 ≤ data.length := by
  cases data
  case nil  => exact nomatch h
  case cons => exact Nat.le_add_left 1 _

-- The first byte is there: the packet has been recognised by it.
theorem loadLocalFromPacket_eq (packet : MysqlPacket) :
    LoadLocalPacketWrapper.fromPacket packet = .ok (MySQL.LoadLocalPacketWrapper.fromPacket packet) := by
  rw [LoadLocalPacketWrapper.fromPacket, MySQL.LoadLocalPacketWrapper.fromPacket]
  cases h : packet.isLoadLocalPacket
  case false => rfl
  case true  =>
    rw [sliceFrom_eq (length_pos_of_head? (of_decide_eq_true h))]
    rfl

end Runtime
end MySQL
