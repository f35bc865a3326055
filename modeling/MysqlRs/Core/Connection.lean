import MysqlRs.Core.PacketStream
import MysqlRs.Core.Result

namespace MySQL

open ClientError

inductive SslMode
  | disabled
  | preferred
  | required
  deriving DecidableEq

def DEFAULT_CHARSET : Text := "utf8mb4".toList

structure ConnectOptions where
  host : Text := "localhost".toList
  port : UInt16 := 3306
  user : Text := []
  password : Bytes := []
  database : Option Text := none
  charset : Text := DEFAULT_CHARSET
  collation : Option Text := none
  -- In nanoseconds.
  connectTimeout : Nat := 10 * 10 ^ 9
  sslMode : SslMode := .preferred
  autocommit : Option Bool := some false
  sqlMode : Option Text := none
  initCommand : Option Text := none
  localInfile : Bool := false
  compress : Bool := false
  maxAllowedPacket : UInt64 := 16 * 1024 * 1024
  programName : Option Text := none
  serverPublicKey : Option Bytes := none
  useUnicode : Bool := true

inductive AuthPlugin
  | mysqlNativePassword
  | cachingSha2Password
  | sha256Password
  | mysqlClearPassword
  | mysqlOldPassword
  | clientEd25519
  | dialog
  | other (name : Text)
  deriving DecidableEq

inductive AuthPhase
  | initial
  | cachingSha2FastSuccess
  | cachingSha2PublicKey
  | sha256Password
  deriving DecidableEq

structure Connection where
  options : ConnectOptions
  packetStream : PacketStream
  protocolVersion : UInt8
  serverVersion : Text
  serverThreadId : UInt32
  salt : Bytes
  serverCapabilities : UInt32
  serverStatus : UInt16
  serverLanguage : UInt8
  serverCharset : Option String
  authPluginName : AuthPlugin
  clientFlag : UInt32
  secure : Bool
  encoding : Text
  useUnicode : Bool
  result : Option MySQLResult
  affectedRows : Int64
  serverPublicKey : Option Bytes
  closed : Bool
  authPhase : AuthPhase
  needsTlsUpgrade : Bool
  fieldConverters : UInt8 → Option Converter

def oneYear : Nat := 365 * 24 * 60 * 60 * 10 ^ 9

def unknownCharset (charset : Text) : Error :=
  .operationalError CR_CANT_READ_CHARSET s!"Unknown charset: {String.ofList charset}"

namespace Connection

-- The checks of `connect`, in the order in which they are made.
def checkOptions (options : ConnectOptions) : Except Error Charset :=
  if options.host.head? ≠ some '/' ∧ options.port = 0 then
    .error (.programmingError CR_UNKNOWN_ERROR "port must be greater than 0")
  else if options.maxAllowedPacket = 0 then
    .error (.programmingError CR_UNKNOWN_ERROR "max_allowed_packet must be greater than 0")
  else if options.connectTimeout = 0 ∨ oneYear ≤ options.connectTimeout then
    .error (.programmingError CR_UNKNOWN_ERROR
      "connect_timeout must be greater than 0 and less than one year")
  else
    match Charset.byName options.charset with
    | some charset => .ok charset
    | none         => .error (unknownCharset options.charset)

def fresh (options : ConnectOptions) (charset : Charset) : Connection where
  options
  packetStream := .new options.maxAllowedPacket
  protocolVersion := 0
  serverVersion := []
  serverThreadId := 0
  salt := []
  serverCapabilities := 0
  serverStatus := 0
  serverLanguage := 0
  serverCharset := none
  authPluginName := .mysqlNativePassword
  clientFlag := Client.CAPABILITIES |||
    (if options.database.isSome then Client.CONNECT_WITH_DB else 0) |||
    (if options.localInfile then Client.LOCAL_FILES else 0) |||
    (if options.compress then Client.COMPRESS else 0)
  secure := false
  encoding := charset.encoding
  useUnicode := options.useUnicode
  result := none
  affectedRows := 0
  serverPublicKey := options.serverPublicKey
  closed := false
  authPhase := .initial
  needsTlsUpgrade := false
  fieldConverters := fun _ => none

def connect (options : ConnectOptions) : Except Error Connection :=
  (checkOptions options).map (fresh options)

@[simps]
def setStream (c : Connection) (s : PacketStream) : Connection :=
  { c with packetStream := s }

-- Runs an operation of the packet stream.
def onStream {α : Type} (x : Proc Error PacketStream α) : Proc Error Connection α :=
  x.zoom packetStream fun s c => c.setStream s

@[simp]
theorem setStream_packetStream_self (c : Connection) : c.setStream c.packetStream = c :=
  rfl

@[simp]
theorem setStream_setStream (c : Connection) (s s' : PacketStream) :
    (c.setStream s).setStream s' = c.setStream s' :=
  rfl

@[simp]
theorem onStream_apply {α : Type} (x : Proc Error PacketStream α) (c : Connection) :
    onStream x c = (x c.packetStream).mapState c.setStream :=
  rfl

def readPacket : Proc Error Connection MysqlPacket :=
  onStream PacketStream.readPacket

theorem readPacket_cons {c : Connection} {p : MysqlPacket} {ps : List MysqlPacket}
    (h : c.packetStream.recvQueue = p :: ps) :
    readPacket c = .ok p (c.setStream { c.packetStream with recvQueue := ps }) := by
  simp [readPacket, PacketStream.readPacket, h]

theorem readPacket_nil {c : Connection} (h : c.packetStream.recvQueue = []) :
    readPacket c = .error .needMoreData c := by
  simp [readPacket, PacketStream.readPacket, h]

theorem readPacket_ok {c c' : Connection} {p : MysqlPacket} (h : readPacket c = .ok p c') :
    ∃ ps, c.packetStream.recvQueue = p :: ps ∧
      c' = c.setStream { c.packetStream with recvQueue := ps } := by
  cases hq : c.packetStream.recvQueue
  case nil       => exact nomatch (readPacket_nil hq).symm.trans h
  case cons q qs =>
    obtain ⟨rfl, rfl⟩ := Outcome.ok.inj ((readPacket_cons hq).symm.trans h)
    exact ⟨qs, rfl, rfl⟩

variable [Libraries]

def writePacket (payload : Bytes) : Proc Error Connection Unit :=
  onStream (PacketStream.writePacket payload)

def feedBytes (data : Bytes) : Proc Error Connection Nat :=
  onStream (PacketStream.feedBytes data)

def close : Proc Error Connection Unit := do
  if (← get).closed then return
  modify fun c => { c with closed := true, packetStream := c.packetStream.resetSeqId }
  writePacket [Command.COM_QUIT]

def forceClose (c : Connection) : Connection :=
  { c with packetStream := c.packetStream.forceClose, closed := true }

def isOpen (c : Connection) : Bool :=
  !c.closed

def enableCompression (c : Connection) : Connection :=
  { c with packetStream := c.packetStream.enableCompression }

def getAutocommit (c : Connection) : Bool :=
  c.serverStatus &&& ServerStatus.SERVER_STATUS_AUTOCOMMIT ≠ 0

def inTransaction (c : Connection) : Bool :=
  c.serverStatus &&& ServerStatus.SERVER_STATUS_IN_TRANS ≠ 0

end Connection

end MySQL
