import MysqlRs.Core.Connection

namespace MySQL

open ClientError

namespace MySQLResult

variable [Libraries]

open FieldType

def TEXT_TYPES : List UInt8 :=
  [BIT, BLOB, LONG_BLOB, MEDIUM_BLOB, STRING, TINY_BLOB, VAR_STRING, VARCHAR, GEOMETRY]

def buildConverter (field : FieldDescriptorPacket) (conn : Connection) : FieldConverter where
  encoding :=
    if !conn.useUnicode then none
    else if field.typeCode = JSON then some conn.encoding
    else if field.typeCode ∈ TEXT_TYPES then
      if field.charsetnr = 63 then none else some conn.encoding
    else some "ascii".toList
  decoder :=
    match conn.fieldConverters field.typeCode with
    | some convert => .registered convert
    | none         => .builtin field.typeCode

def readLoadLocalPacket (packet : MysqlPacket) (conn : Connection) : Error :=
  if !conn.options.localInfile then
    .operationalError CR_LOAD_DATA_LOCAL_INFILE_REJECTED
      "Received LOAD_LOCAL packet but local_infile option is false"
  else
    match LoadLocalPacketWrapper.fromPacket packet with
    | .error e => e
    | .ok loadPacket =>
      .operationalError CR_LOAD_DATA_LOCAL_INFILE_REJECTED
        s!"LOAD DATA LOCAL INFILE requires I/O driver support: {String.ofList (Text.fromUtf8Lossy loadPacket.filename)}"

def feedInitial (packet : MysqlPacket) (conn : Connection) : Proc Error MySQLResult FeedResult := do
  if packet.isOkPacket then
    let ok ← packet.run OkPacketWrapper.fromPacket
    modify fun r => {
      r with
      affectedRows := (ok.affectedRows.getD 0).toInt64
      insertId := ok.insertId
      serverStatus := some ok.serverStatus
      warningCount := ok.warningCount
      message := some ok.message
      hasNext := ok.hasNext
      readState := .done
    }
    return .done
  else if packet.isLoadLocalPacket then
    Proc.throw (readLoadLocalPacket packet conn)
  else
    let fieldCount ← packet.run MysqlPacket.readLengthEncodedInteger
    modify fun r => {
      r with
      fieldCount := fieldCount.getD 0
      fields := []
      converters := []
      description := none
      rows := none
      readState := .descriptions
    }
    return .needMore

def feedDescription (packet : MysqlPacket) (conn : Connection) :
    Proc Error MySQLResult FeedResult := do
  let result ← get
  if result.fields.length < result.fieldCount.toNat then
    let field ← Proc.ofExcept (FieldDescriptorPacket.parse packet.data conn.encoding)
    modify fun r => {
      r with
      converters := r.converters ++ [buildConverter field conn]
      fields := r.fields ++ [field]
    }
    return .needMore
  else if !packet.isEofPacket then
    Proc.throw (.internalError CR_MALFORMED_PACKET "Protocol error, expecting EOF")
  else
    let wp ← packet.run EofPacketWrapper.fromPacket
    modify fun r => {
      r with
      warningCount := wp.warningCount
      hasNext := wp.hasNext
      serverStatus := some wp.serverStatus
      description := some (r.fields.map (·.description))
      readState := if r.unbufferedActive then .unbufferedReady else .rows
    }
    return if result.unbufferedActive then .unbufferedReady else .needMore

def feedPacket (packet : MysqlPacket) (conn : Connection) : Proc Error MySQLResult FeedResult := do
  match (← get).readState with
  | .initial                => feedInitial packet conn
  | .descriptions           => feedDescription packet conn
  | .rows | .unbufferedReady => feedRow packet
  | .done                   => return .done

-- What a reader does with the outcome of `feedPacket`: it goes on or gives the affected rows.
def feedStep (packet : MysqlPacket) (conn : Connection) :
    Proc Error MySQLResult (Option Int64) := do
  match ← feedPacket packet conn with
  | .needMore               => return none
  | .done | .unbufferedReady => return some (← get).affectedRows

end MySQLResult

end MySQL
