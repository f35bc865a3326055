import MysqlRs.Core.OptionFile
import MysqlRs.Tokio.Authenticate

namespace MySQL

open ClientError

-- `std::fs::read_to_string`
def readToString [Files] (path : Text) : Except String Text := do
  let data ← Files.read path
  let text := Text.fromUtf8Lossy data
  if text.asBytes ≠ data then .error "stream did not contain valid UTF-8" else return text

def OptionFile.read [Files] [Unicode] (path : Text) : Except Error OptionFile := do
  let text ← (readToString path).mapError fun e =>
    .operationalError CR_UNKNOWN_ERROR s!"Failed to read option file {String.ofList path}: {e}"
  OptionFile.parse text

-- `str::parse::<u16>`
def Text.parseUInt16 (s : Text) : Option UInt16 :=
  s.parseUInt32.bind fun n => if n < 2 ^ 16 then some (UInt16.ofNat n) else none

-- The options with those that only matter before there is a connection.
structure FileOptions extends ConnectOptions where
  sslCa : Option Text := none
  sslCert : Option Text := none
  sslKey : Option Text := none
  readDefaultFile : Option Text := none
  readDefaultGroup : Option Text := none

namespace Tokio

def invalidPort (path value : Text) : Error :=
  .operationalError CR_UNKNOWN_ERROR
    s!"Invalid port in option file {String.ofList path}: {String.ofList value}"

-- The value of a key, as long as the field it is for has been left alone.
def fillIn (file : OptionFile) (group : Text) (unset : Bool) (key : String) : Option Text :=
  if unset then file.get group key.toList else none

-- The port is the only value that can be wrong.
def fillInPort (path : Text) (port : UInt16) : Option Text → Except Error UInt16
  | none       => .ok port
  | some value =>
    match value.parseUInt16 with
    | some port => .ok port
    | none      => .error (invalidPort path value)

def applyOptionFile [Files] [Unicode] (options : FileOptions) : Except Error FileOptions :=
  match options.readDefaultFile with
  | none      => .ok options
  | some path => do
    let group := options.readDefaultGroup.getD "client".toList
    let file ← OptionFile.read path
    let defaults : ConnectOptions := {}
    let value := fillIn file group
    let host := (value (options.host = defaults.host) "host").getD options.host
    let port ← fillInPort path options.port (value (options.port = defaults.port) "port")
    let user := (value (options.user = []) "user").getD options.user
    let password := ((value (options.password = []) "password").map Text.asBytes).getD options.password
    let database := (value options.database.isNone "database").or options.database
    let host := (value (host = defaults.host) "socket").getD host
    let charset := (value (options.charset = defaults.charset) "default-character-set").getD options.charset
    let sslCa := (value options.sslCa.isNone "ssl-ca").or options.sslCa
    let sslCert := (value options.sslCert.isNone "ssl-cert").or options.sslCert
    let sslKey := (value options.sslKey.isNone "ssl-key").or options.sslKey
    return {
      options with
      host, port, user, password, database, charset, sslCa, sslCert, sslKey
      readDefaultFile := none
    }

-- The ways to a server. A socket is waited for no longer than it is said; it is not there, or it is refused. The
-- libraries also know what an address looks like.
class Network where
  isIpv6 : Text → Bool
  unix : Text → Nat → Except String (Except String ConnectionStream)
  tcp : Text → Nat → Except String (Except String ConnectionStream)
  setNodelay : ConnectionStream → Except String Unit

def dialError (message : String) : Error :=
  .operationalError CR_CONN_HOST_ERROR message

section Dialling

variable [Network] [Host]

def dialled (addr : Text) : Except String (Except String ConnectionStream) → Except Error ConnectionStream
  | .error e       => .error (dialError s!"Connection timeout: {e}")
  | .ok (.error e) =>
    .error (dialError s!"Can't connect to MySQL server on {String.ofList (Host.debug addr)} ({e})")
  | .ok (.ok st)   => .ok st

-- An IPv6 address stands in brackets.
def address (host : Text) (port : UInt16) : Text :=
  (if Network.isIpv6 host then '[' :: host ++ [']'] else host) ++ ':' :: (toString port).toList

def dial (options : ConnectOptions) : Except Error ConnectionStream :=
  if options.host.head? = some '/' then
    let path := options.host.trimEndMatches '/'
    dialled path (Network.unix path options.connectTimeout)
  else do
    let addr := address options.host options.port
    let stream ← dialled addr (Network.tcp addr options.connectTimeout)
    (Network.setNodelay stream).mapError fun e => dialError s!"Failed to set TCP_NODELAY: {e}"
    return stream

end Dialling

namespace Connection

variable [Libraries]

def queryIf : Option Text → Proc Error Connection Unit
  | none     => pure ()
  | some sql => do
    let _ ← query sql false

def postConnectSetup (options : ConnectOptions) : Proc Error Connection Unit := do
  onInner (MySQL.Connection.setCharacterSet options.charset options.collation)
  pumpWrite
  let _ ← readOkPacket
  let c ← get
  queryIf (options.sqlMode.map fun sqlMode => "SET sql_mode='".toList ++ c.inner.escapeString sqlMode ++ ['\''])
  queryIf options.initCommand
  queryIf (options.autocommit.map fun autocommit =>
    "SET AUTOCOMMIT = ".toList ++ (if autocommit then ['1'] else ['0']))

variable [Crypto] [Host] [Tls]

-- What is done over a new stream.
def setUp (options : ConnectOptions) : Proc Error Connection Unit := do
  pumpRead
  onInner MySQL.Connection.getServerInformation
  authenticate
  if options.compress ∧ (← get).inner.serverCapabilities &&& Client.COMPRESS ≠ 0 then
    modify fun c => c.setInner c.inner.enableCompression
  postConnectSetup options

def connect [Unicode] [Network] (options : FileOptions) : Except Error (Outcome Error Connection Unit) := do
  let options ← applyOptionFile options
  let options := options.toConnectOptions
  let inner ← MySQL.Connection.connect options
  let stream ← dial options
  return setUp options { inner, stream := some stream, transactionDirty := false }

end Connection
end Tokio
end MySQL
