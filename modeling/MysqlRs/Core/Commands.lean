import Mathlib.Data.Nat.Basic
import MysqlRs.Core.FeedPacket
import MysqlRs.Library.Source

namespace MySQL

open ClientError Command

namespace Connection

variable [Libraries]

-- The packets that have been received already.
def received : Source Error Connection MysqlPacket where
  next := readPacket
  measure c := c.packetStream.recvQueue.length
  decreasing h := by
    obtain ⟨ps, hq, rfl⟩ := readPacket_ok h
    rw [hq]
    exact Nat.lt_succ_self ps.length

def eofStep (packet : MysqlPacket) (_ : Connection) : Proc Error MySQLResult (Option Unit) := do
  if ← MySQLResult.checkPacketIsEof packet then
    modify ({ · with unbufferedActive := false, readState := .done })
    return some ()
  return none

-- Forgets the rest of an unbuffered result up to its EOF.
def finishUnbufferedQuery (result : MySQLResult) : Proc Error Connection MySQLResult :=
  if !result.unbufferedActive then return result
  else do
    let (_, result) ← received.feedLocal eofStep result
    return result

def readQueryResult (unbuffered : Bool) : Proc Error Connection Int64 := do
  let result := ((← get).result.filter (!·.isDone)).getD {}
  modify ({ · with result := none })
  let result :=
    if result.isInitial then { result with unbufferedActive := unbuffered } else result
  let (affectedRows, result) ← received.feedLocal MySQLResult.feedStep result
  modify fun c => {
    c with
    serverStatus := result.serverStatus.getD c.serverStatus
    result := some result
  }
  return affectedRows

def nextResult (unbuffered : Bool) : Proc Error Connection Int64 := do
  let affectedRows ← readQueryResult unbuffered
  modify ({ · with affectedRows := affectedRows })
  return affectedRows

theorem readQueryResult_lt {unbuffered : Bool} {c c' : Connection} {n : Int64}
    (h : readQueryResult unbuffered c = .ok n c') :
    c'.packetStream.recvQueue.length < c.packetStream.recvQueue.length := by
  have ⟨_, _, hf, h⟩ := Outcome.bind_eq_ok.mp h
  obtain ⟨_, rfl⟩ := Outcome.ok.inj h
  have := received.feedLocal_lt (m := fun c => c.packetStream.recvQueue.length) received.decreasing hf
  exact this

-- The results that have been received already, one after another. Each is taken out of the connection.
def receivedResults : Source Error Connection (Option MySQLResult) where
  next := do
    let _ ← nextResult false
    let result := (← get).result
    modify ({ · with result := none })
    return result
  measure c := c.packetStream.recvQueue.length
  decreasing h := by
    have ⟨_, _, hn, h⟩ := Outcome.bind_eq_ok.mp h
    have ⟨_, _, hr, hm⟩ := Outcome.bind_eq_ok.mp hn
    obtain ⟨_, rfl⟩ := Outcome.ok.inj hm
    obtain ⟨_, rfl⟩ := Outcome.ok.inj h
    have := readQueryResult_lt hr
    exact this

def lastStep (result : Option MySQLResult) (_ : Connection) : Proc Error Unit (Option Unit) :=
  return if (result.map (·.hasNext)).getD false then none else some ()

def drainResults (result : MySQLResult) : Proc Error Connection Unit :=
  if !result.hasNext then return
  else do
    let _ ← receivedResults.feedLocal lastStep ()

-- Takes the current result away and reads what it still promises.
def drainPending : Proc Error Connection Unit := do
  match (← get).result with
  | none        => pure ()
  | some result =>
    modify ({ · with result := none })
    let result ← finishUnbufferedQuery result
    drainResults result

-- A command starts a new sequence.
def writeCommand (command : UInt8) (sql : Bytes) : Proc Error Connection Unit := do
  modify fun c => c.setStream c.packetStream.resetSeqId
  writePacket (command :: sql)

def executeCommand (command : UInt8) (sql : Bytes) : Proc Error Connection Unit := do
  if (← get).closed then
    Proc.throw (.interfaceError 0 "Connection is closed")
  drainPending
  writeCommand command sql

-- What does not depend on the answers of the server.
structure Steady {δ : Type} (f : Connection → δ) : Prop where
  read   : readPacket.Leaves f
  answer : ∀ c status rows result,
    f { c with serverStatus := status, affectedRows := rows, result := result } = f c

namespace Steady

variable {δ : Type} {f : Connection → δ} (h : Steady f)

include h

theorem readQueryResult (unbuffered : Bool) : (readQueryResult unbuffered).Leaves f :=
  .bind .get fun _ => .bind (.modify fun c => h.answer c _ _ _) fun _ =>
    .bind (received.feedLocal_leaves h.read _ _) fun _ => .bind (.modify fun c => h.answer c _ _ _) fun _ => .pure _

theorem nextResult (unbuffered : Bool) : (nextResult unbuffered).Leaves f :=
  .bind (h.readQueryResult _) fun _ => .bind (.modify fun c => h.answer c _ _ _) fun _ => .pure _

theorem drainPending : drainPending.Leaves f := by
  have next : receivedResults.next.Leaves f :=
    .bind (h.nextResult _) fun _ => .bind .get fun _ => .bind (.modify fun c => h.answer c _ _ _) fun _ => .pure _
  refine .bind .get fun c => ?_
  cases c.result
  case none   => exact .pure _
  case some r =>
    refine .bind (.modify fun c => h.answer c _ _ _) fun _ => .bind ?_ fun _ => ?_
    · exact .ite (.pure _) (.bind (received.feedLocal_leaves h.read _ _) fun _ => .pure _)
    · exact .ite (.pure _) (.bind (receivedResults.feedLocal_leaves next _ _) fun _ => .pure _)

end Steady

def setCharacterSet (charset : Text) (collation : Option Text) : Proc Error Connection Unit := do
  match Charset.byName charset with
  | none             => Proc.throw (unknownCharset charset)
  | some charsetInfo =>
    modify ({ · with encoding := charsetInfo.encoding })
    match collation with
    | none   => pure ()
    | some c =>
      if !c.all fun ch => ch.isAlphanum || ch = '_' then
        Proc.throw (.programmingError CR_CANT_READ_CHARSET s!"Invalid collation: {String.ofList c}")
    let query : Text :=
      match collation with
      | some c => "SET NAMES ".toList ++ charset ++ " COLLATE ".toList ++ c
      | none   => "SET NAMES ".toList ++ charset
    executeCommand COM_QUERY query.asBytes
    modify fun c => { c with options := { c.options with charset := charset, collation := collation } }

-- Only a change is told the server.
def setAutocommit (value : Bool) : Proc Error Connection Unit := do
  modify fun c => { c with options := { c.options with autocommit := some value } }
  let current := (← get).getAutocommit
  if value ≠ current then
    executeCommand COM_QUERY (Text.asBytes (if value then "SET AUTOCOMMIT = 1" else "SET AUTOCOMMIT = 0").toList)

def selectDb (db : Text) : Proc Error Connection Unit :=
  executeCommand COM_INIT_DB db.asBytes

def ping : Proc Error Connection Unit :=
  executeCommand COM_PING []

def begin : Proc Error Connection Unit :=
  executeCommand COM_QUERY (Text.asBytes "BEGIN".toList)

def commit : Proc Error Connection Unit :=
  executeCommand COM_QUERY (Text.asBytes "COMMIT".toList)

def rollback : Proc Error Connection Unit :=
  executeCommand COM_QUERY (Text.asBytes "ROLLBACK".toList)

def query (sql : Text) (unbuffered : Bool) : Proc Error Connection Int64 := do
  executeCommand COM_QUERY sql.asBytes
  let affectedRows ← readQueryResult unbuffered
  modify ({ · with affectedRows := affectedRows })
  return affectedRows

def kill (threadId : UInt32) : Proc Error Connection Int64 :=
  query s!"KILL {threadId}".toList false

def readOkPacket : Proc Error Connection OkPacketWrapper := do
  let pkt ← readPacket
  if !pkt.isOkPacket then
    Proc.throw (.operationalError CR_COMMANDS_OUT_OF_SYNC "Command Out of Sync")
  let ok ← pkt.run OkPacketWrapper.fromPacket
  modify ({ · with serverStatus := ok.serverStatus })
  return ok

def setResult (result : MySQLResult) (c : Connection) : Connection :=
  {
    c with
    serverStatus := result.serverStatus.getD c.serverStatus
    affectedRows := result.affectedRows
    result := some result
  }

def resultMut (f : MySQLResult → MySQLResult) (c : Connection) : Connection :=
  { c with result := c.result.map f }

def setSecure (secure : Bool) (c : Connection) : Connection :=
  { c with secure := secure }

def registerConverter (typeCode : UInt8) (converter : Converter) (c : Connection) : Connection :=
  { c with fieldConverters := fun t => if t = typeCode then some converter else c.fieldConverters t }

def popSendQueue : Proc Error Connection (Option Bytes) := do
  let packet := (← get).packetStream.sendQueue.head?
  modify fun c => c.setStream { c.packetStream with sendQueue := c.packetStream.sendQueue.tail }
  return packet

def escapeString (s : Text) (c : Connection) : Text :=
  if c.serverStatus &&& ServerStatus.SERVER_STATUS_NO_BACKSLASH_ESCAPES ≠ 0 then
    s.replace '\'' "''".toList
  else
    MySQL.escapeString s

def literal (obj : Value) (c : Connection) : Except Error Text :=
  match obj with
  | .string s => .ok (quoted (c.escapeString s))
  | .bytes b  => .ok (escapeBytes b c.encoding)
  | obj       => obj.toSql c.encoding

end Connection
end MySQL
