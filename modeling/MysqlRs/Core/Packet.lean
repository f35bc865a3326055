import MysqlRs.Core.Error

namespace MySQL

open ClientError

def NULL_COLUMN : UInt8 := 251
def UNSIGNED_CHAR_COLUMN : UInt8 := 251
def UNSIGNED_SHORT_COLUMN : UInt8 := 252
def UNSIGNED_INT24_COLUMN : UInt8 := 253
def UNSIGNED_INT64_COLUMN : UInt8 := 254

def lenencInt (i : Nat) : Bytes :=
  if i < 0xFB then [UInt8.ofNat i]
  else if i < 2 ^ 16 then 0xFC :: LittleEndian.encode 2 i
  else if i < 2 ^ 24 then 0xFD :: LittleEndian.encode 3 i
  else 0xFE :: LittleEndian.encode 8 i

@[ext]
structure MysqlPacket where
  position : Nat
  data : Bytes
  deriving DecidableEq

namespace MysqlPacket

def new (data : Bytes) : MysqlPacket where
  position := 0
  data := data

-- The methods that take `&mut self`: they move the cursor, and every caller gives the packet up when
-- one of them fails.
abbrev Reader := StateT MysqlPacket (Except Error)

def read (size : Nat) : Reader Bytes := fun p =>
  if usizeMax < p.position + size then
    .error (.internalError CR_MALFORMED_PACKET
      s!"Read size overflow: Position={p.position}, Size={size}")
  else if p.data.length < p.position + size then
    .error (.internalError CR_MALFORMED_PACKET
      s!"Result length not requested length: Expected={size}, Actual={p.data.length - p.position}, Position={p.position}, Data Length={p.data.length}, Data={p.data}")
  else
    .ok ((p.data.drop p.position).take size, { p with position := p.position + size })

def readAll : Reader Bytes := fun p =>
  .ok (p.data.drop p.position, { p with position := p.data.length })

def advance (length : Nat) : Reader Unit := fun p =>
  if usizeMax < p.position + length then
    .error (.internalError CR_MALFORMED_PACKET
      s!"Advance amount overflow: Position={p.position}, Length={length}")
  else if p.data.length < p.position + length then
    .error (.internalError CR_MALFORMED_PACKET
      s!"Invalid advance amount ({length}) for cursor. Position={p.position + length}")
  else
    .ok ((), { p with position := p.position + length })

-- `u16::from_le_bytes` and its siblings on the bytes just read.
def readUint (size : Nat) : Reader Nat := do
  return LittleEndian.decode (← read size)

def readUint8 : Reader UInt8 := do
  return UInt8.ofNat (← readUint 1)

def readUint16 : Reader UInt16 := do
  return UInt16.ofNat (← readUint 2)

def readUint24 : Reader UInt32 := do
  return UInt32.ofNat (← readUint 3)

def readUint32 : Reader UInt32 := do
  return UInt32.ofNat (← readUint 4)

def readUint64 : Reader UInt64 := do
  return UInt64.ofNat (← readUint 8)

-- Reads up to a NUL and moves past it. Without a NUL nothing is read.
def readString : Reader (Option Bytes) := fun p =>
  let rest := p.data.drop p.position
  if 0 ∈ rest then
    let string := rest.takeWhile (· ≠ 0)
    .ok (some string, { p with position := p.position + string.length + 1 })
  else
    .ok (none, p)

def readLengthEncodedInteger : Reader (Option UInt64) := do
  let c ← readUint8
  if c = NULL_COLUMN then return none
  else if c < UNSIGNED_CHAR_COLUMN then return some c.toUInt64
  else if c = UNSIGNED_SHORT_COLUMN then return some (← readUint16).toUInt64
  else if c = UNSIGNED_INT24_COLUMN then return some (← readUint24).toUInt64
  else if c = UNSIGNED_INT64_COLUMN then return some (← readUint64)
  else throw (.internalError CR_MALFORMED_PACKET s!"Invalid length encoded integer header: {c}")

def readLengthCodedString : Reader (Option Bytes) := do
  match ← readLengthEncodedInteger with
  | none     => return none
  | some len => return some (← read len.toNat)

def isOkPacket (p : MysqlPacket) : Bool :=
  p.data.head? = some 0 ∧ 7 ≤ p.data.length

def isEofPacket (p : MysqlPacket) : Bool :=
  p.data.head? = some 0xFE ∧ p.data.length < 9

def isAuthSwitchRequest (p : MysqlPacket) : Bool :=
  p.data.head? = some 0xFE ∧ 8 ≤ p.data.length

def isExtraAuthData (p : MysqlPacket) : Bool :=
  p.data.head? = some 1

def isLoadLocalPacket (p : MysqlPacket) : Bool :=
  p.data.head? = some 0xFB

def isErrorPacket (p : MysqlPacket) : Bool :=
  p.data.head? = some 0xFF

def raiseForError (p : MysqlPacket) : Error :=
  Error.raiseMysqlException p.data

def checkError (p : MysqlPacket) : Except Error Unit :=
  if p.isErrorPacket then .error p.raiseForError else .ok ()

@[simp]
theorem new_data (data : Bytes) : (new data).data = data :=
  rfl

theorem isErrorPacket_of_extra (p : MysqlPacket) (h : p.isExtraAuthData) : p.isErrorPacket = false := by
  have h := of_decide_eq_true h
  simp [isErrorPacket, h]

theorem isAuthSwitchRequest_of_extra (p : MysqlPacket) (h : p.isExtraAuthData) :
    p.isAuthSwitchRequest = false := by
  have h := of_decide_eq_true h
  simp [isAuthSwitchRequest, h]

end MysqlPacket

open MysqlPacket

@[ext]
structure OkPacketWrapper where
  affectedRows : Option UInt64
  insertId : Option UInt64
  serverStatus : UInt16
  warningCount : UInt16
  message : Bytes
  hasNext : Bool

def hasMoreResults (serverStatus : UInt16) : Bool :=
  serverStatus &&& ServerStatus.SERVER_MORE_RESULTS_EXISTS ≠ 0

def OkPacketWrapper.readFields : Reader OkPacketWrapper := do
  advance 1
  let affectedRows ← readLengthEncodedInteger
  let insertId ← readLengthEncodedInteger
  let serverStatus ← readUint16
  let warningCount ← readUint16
  let message ← readAll
  return {
    affectedRows, insertId, serverStatus, warningCount, message
    hasNext := hasMoreResults serverStatus
  }

def OkPacketWrapper.fromPacket : Reader OkPacketWrapper := fun packet =>
  if !packet.isOkPacket then
    .error (.internalError CR_MALFORMED_PACKET
      "Cannot create OkPacketWrapper from invalid packet type")
  else
    readFields packet

@[ext]
structure EofPacketWrapper where
  warningCount : UInt16
  serverStatus : UInt16
  hasNext : Bool

def EofPacketWrapper.readFields : Reader EofPacketWrapper := do
  advance 1
  let warningCount ← readUint16
  let serverStatus ← readUint16
  return { warningCount, serverStatus, hasNext := hasMoreResults serverStatus }

def EofPacketWrapper.fromPacket : Reader EofPacketWrapper := fun packet =>
  if !packet.isEofPacket then
    .error (.internalError CR_MALFORMED_PACKET
      "Cannot create EofPacketWrapper from invalid packet type")
  else
    readFields packet

structure LoadLocalPacketWrapper where
  filename : Bytes

def LoadLocalPacketWrapper.fromPacket (packet : MysqlPacket) :
    Except Error LoadLocalPacketWrapper :=
  if !packet.isLoadLocalPacket then
    .error (.internalError CR_MALFORMED_PACKET
      "Cannot create LoadLocalPacketWrapper from invalid packet type")
  else
    .ok { filename := packet.data.drop 1 }

end MySQL
