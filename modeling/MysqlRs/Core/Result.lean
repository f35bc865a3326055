import MysqlRs.Core.FieldDescriptor
import MysqlRs.Library.Outcome

namespace MySQL

open ClientError MysqlPacket

inductive ReadState
  | initial
  | descriptions
  | rows
  | unbufferedReady
  | done
  deriving DecidableEq

inductive FeedResult
  | needMore
  | done
  | unbufferedReady
  deriving DecidableEq

-- A function pointer to a converter, by what it has been taken from: a function that the caller has registered, or
-- `decoderFor`.
inductive Decoder
  | registered (convert : Converter)
  | builtin (fieldType : UInt8)

structure FieldConverter where
  encoding : Option Text
  decoder : Decoder

abbrev Row := List Value

@[ext]
structure MySQLResult where
  affectedRows : Int64 := 0
  insertId : Option UInt64 := none
  serverStatus : Option UInt16 := none
  warningCount : UInt16 := 0
  message : Option Bytes := none
  fieldCount : UInt64 := 0
  description : Option (List ColumnDescription) := none
  rows : Option (List Row) := none
  fields : List FieldDescriptorPacket := []
  hasNext : Bool := false
  unbufferedActive : Bool := false
  converters : List FieldConverter := []
  readState : ReadState := .initial

-- `&mut self` methods of the packet: the packet is dropped afterwards.
def MysqlPacket.run {σ α : Type} (packet : MysqlPacket) (r : Reader α) : Proc Error σ α :=
  Proc.ofExcept (r.run' packet)

variable [Libraries]

namespace FieldConverter

def converter (c : FieldConverter) : Option Converter :=
  match c.decoder with
  | .registered convert => some convert
  | .builtin fieldType  => decoderFor fieldType

-- The value of a column. Without an encoding the bytes are kept.
def convert (c : FieldConverter) : Option Bytes → Value
  | none       => .null
  | some bytes =>
    match c.encoding with
    | none          => .bytes bytes
    | some encoding =>
      let s := decodeBytes encoding bytes
      match c.converter with
      | some convert => convert s
      | none         => .string s

def readRow : List FieldConverter → Reader Row
  | []      => return []
  | c :: cs => do
    let data ← readLengthCodedString
    let row ← readRow cs
    return c.convert data :: row

end FieldConverter

namespace MySQLResult

def isDone (r : MySQLResult) : Bool :=
  r.readState = .done

def isInitial (r : MySQLResult) : Bool :=
  r.readState = .initial

def checkPacketIsEof (packet : MysqlPacket) : Proc Error MySQLResult Bool := do
  if !packet.isEofPacket then return false
  let wp ← packet.run EofPacketWrapper.fromPacket
  modify fun r => {
    r with
    warningCount := wp.warningCount
    hasNext := wp.hasNext
    serverStatus := some wp.serverStatus
  }
  return true

def readRowFromPacket (packet : MysqlPacket) : Proc Error MySQLResult Row := do
  packet.run (FieldConverter.readRow (← get).converters)

def feedRow (packet : MysqlPacket) : Proc Error MySQLResult FeedResult := do
  if ← checkPacketIsEof packet then
    modify ({ · with readState := .done })
    return .done
  let row ← readRowFromPacket packet
  modify fun r => { r with rows := some (r.rows.getD [] ++ [row]) }
  return .needMore

def readRowdataPacketUnbuffered (packet : MysqlPacket) : Proc Error MySQLResult (Option Row) := do
  if !(← get).unbufferedActive then return none
  if ← checkPacketIsEof packet then
    modify ({ · with unbufferedActive := false, readState := .done })
    return none
  modify ({ · with affectedRows := 1 })
  let row ← readRowFromPacket packet
  modify ({ · with rows := some [row] })
  return some row

end MySQLResult
end MySQL
