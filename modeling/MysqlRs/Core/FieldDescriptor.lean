import MysqlRs.Core.Charset
import MysqlRs.Core.Converters
import MysqlRs.Core.Packet

namespace MySQL

open ClientError MysqlPacket

structure ColumnDescription where
  name : Text
  typeCode : UInt8
  internalSize : UInt32
  precision : UInt32
  scale : UInt8
  nullOk : Bool
  deriving DecidableEq

@[ext]
structure FieldDescriptorPacket where
  catalog : Option Bytes
  db : Option Bytes
  tableName : Text
  orgTable : Text
  name : Text
  orgName : Text
  charsetnr : UInt16
  length : UInt32
  typeCode : UInt8
  flags : UInt16
  scale : UInt8
  deriving DecidableEq

variable [Libraries]

-- The decoder of a label, and UTF-8 for labels that are not known.
def decodeBytes (encoding : Text) (bytes : Bytes) : Text :=
  (Encodings.forLabel encoding).getD Encodings.utf8 bytes

def decodeOrEmpty (data : Option Bytes) (encoding : Text) : Text :=
  match data with
  | some bytes => decodeBytes encoding bytes
  | none       => []

namespace FieldDescriptorPacket

def reader (encoding : Text) : Reader FieldDescriptorPacket := do
  let catalog ← readLengthCodedString
  let db ← readLengthCodedString
  let tableName := decodeOrEmpty (← readLengthCodedString) encoding
  let orgTable := decodeOrEmpty (← readLengthCodedString) encoding
  let name := decodeOrEmpty (← readLengthCodedString) encoding
  let orgName := decodeOrEmpty (← readLengthCodedString) encoding
  let filler ← readUint8
  if filler ≠ 0x0c then
    let hex := Nat.toDigits 16 filler.toNat
    let hex := String.ofList (List.replicate (2 - hex.length) '0' ++ hex)
    throw (.internalError CR_MALFORMED_PACKET
      s!"Invalid field descriptor filler: expected 0x0c, got 0x{hex}")
  let charsetnr ← readUint16
  let length ← readUint32
  let typeCode ← readUint8
  let flags ← readUint16
  let scale ← readUint8
  return {
    catalog, db, tableName, orgTable, name, orgName, charsetnr, length, typeCode, flags, scale
  }

def parse (data : Bytes) (encoding : Text) : Except Error FieldDescriptorPacket :=
  (reader encoding).run' (MysqlPacket.new data)

def getColumnLength (f : FieldDescriptorPacket) : UInt32 :=
  if f.typeCode = FieldType.VAR_STRING then f.length / UInt32.ofNat (mblength f.charsetnr)
  else f.length

def description (f : FieldDescriptorPacket) : ColumnDescription where
  name := f.name
  typeCode := f.typeCode
  internalSize := f.getColumnLength
  precision := f.getColumnLength
  scale := f.scale
  nullOk := f.flags % 2 = 0

end FieldDescriptorPacket
end MySQL
