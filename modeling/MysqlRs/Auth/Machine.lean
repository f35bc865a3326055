import MysqlRs.Auth.Plugins

namespace MySQL

open ClientError Client

inductive AuthState
  | needRead
  | send
  | success
  deriving DecidableEq

def CARGO_PKG_VERSION : Text := "0.0.0".toList

-- The process that the client runs in, the order in which a hash map is iterated over, and `{:?}` of a
-- string.
class Host where
  processId : Nat
  order : List (Text × Text) → List (Text × Text)
  order_perm : ∀ attrs, (order attrs).Perm attrs
  debug : Text → Text

def handshakeError (reason : String) : Error :=
  .operationalError CR_SERVER_HANDSHAKE_ERR s!"Malformed handshake packet: {reason}"

def authPluginError (message : String) : Error :=
  .operationalError CR_AUTH_PLUGIN_ERR message

-- `{:?}` of an authentication plugin.
def AuthPlugin.debug [Host] : AuthPlugin → String
  | mysqlNativePassword => "MysqlNativePassword"
  | cachingSha2Password => "CachingSha2Password"
  | sha256Password      => "Sha256Password"
  | mysqlClearPassword  => "MysqlClearPassword"
  | mysqlOldPassword    => "MysqlOldPassword"
  | clientEd25519       => "ClientEd25519"
  | dialog              => "Dialog"
  | other name          => s!"Other({String.ofList (Host.debug name)})"

-- `{:?}` of the first byte of a packet, if there is one.
def MysqlPacket.debugFirst (packet : MysqlPacket) : String :=
  match packet.data.head? with
  | none   => "None"
  | some b => s!"Some({b})"

namespace Connection

@[simps]
def setSalt (c : Connection) (salt : Bytes) : Connection :=
  { c with salt := salt }

@[simps]
def setAuthPluginName (c : Connection) (plugin : AuthPlugin) : Connection :=
  { c with authPluginName := plugin }

@[simps]
def setServerPublicKey (c : Connection) (key : Bytes) : Connection :=
  { c with serverPublicKey := some key }

@[simps]
def setAuthPhase (c : Connection) (phase : AuthPhase) : Connection :=
  { c with authPhase := phase }

@[simps]
def setServerStatus (c : Connection) (status : UInt16) : Connection :=
  { c with serverStatus := status }

-- Takes the greeting apart. What has been read of it stays when the rest is malformed.
def getServerInformation : Proc Error Connection Unit := do
  let packet ← readPacket
  match packet.data with
  | []              => Proc.throw (handshakeError "empty")
  | version :: data =>
    modify ({ · with protocolVersion := version })
    if data = [] then Proc.throw (handshakeError "missing server version")
    if 0 ∉ data then Proc.throw (handshakeError "server version is not null-terminated")
    modify ({ · with serverVersion := Text.fromUtf8Lossy (data.takeWhile (· ≠ 0)) })
    let data := (data.dropWhile (· ≠ 0)).drop 1
    if data.length < 4 then Proc.throw (handshakeError "missing thread id")
    modify ({ · with serverThreadId := UInt32.ofNat (LittleEndian.decode (data.take 4)) })
    let data := data.drop 4
    if data.length < 9 then Proc.throw (handshakeError "missing salt part 1")
    modify (·.setSalt (data.take 8))
    let data := data.drop 9
    if data.length < 2 then Proc.throw (handshakeError "missing capability flags")
    modify ({ · with serverCapabilities := UInt32.ofNat (LittleEndian.decode (data.take 2)) })
    let data := data.drop 2
    let data ←
      if 6 ≤ data.length then do
        let language := data.getD 0 0
        let status := UInt16.ofNat (LittleEndian.decode ((data.drop 1).take 2))
        let high := UInt32.ofNat (LittleEndian.decode ((data.drop 3).take 2))
        let saltLen := max ((data.getD 5 0).toNat - 9) 12
        modify fun c => {
          c with
          serverLanguage := language
          serverCharset := (Charset.byId language.toUInt16).map (·.name)
          serverStatus := status
          serverCapabilities := c.serverCapabilities ||| high <<< 16
        }
        let data := data.drop 6
        if data.length < 10 then Proc.throw (handshakeError "missing reserved bytes")
        let data := data.drop 10
        if saltLen ≤ data.length then
          modify fun c => c.setSalt (c.salt ++ data.take saltLen)
          pure (data.drop saltLen)
        else
          pure data
      else
        pure (data.drop 10)
    if data = [] then return
    let name := data.drop 1
    if (← get).serverCapabilities &&& PLUGIN_AUTH ≠ 0 ∧ name ≠ [] then
      modify (·.setAuthPluginName (AuthPlugin.fromBytes (name.takeWhile (· ≠ 0))))

def uint32 (n : UInt32) : Bytes :=
  LittleEndian.encode 4 n.toNat

-- What an SSL request and a handshake response begin with.
def handshakeHead (clientFlags : UInt32) (charset : Charset) : Bytes :=
  uint32 clientFlags ++ uint32 (UInt32.ofNat maxPacketLen) ++ [charset.id.toUInt8] ++
    List.replicate 23 0

def lenencBytes (bytes : Bytes) : Bytes :=
  lenencInt bytes.length ++ bytes

def charsetInfo (c : Connection) : Except Error Charset :=
  match Charset.byName c.options.charset with
  | some charset => .ok charset
  | none         => .error (unknownCharset c.options.charset)

section Credentials

variable [Host] (c : Connection)

def connectAttrs : Bytes :=
  let attrs : List (Text × Text) :=
    [("_client_name".toList, "mysql".toList), ("_client_version".toList, CARGO_PKG_VERSION),
      ("_pid".toList, (toString Host.processId).toList)] ++
    (c.options.programName.map ("program_name".toList, ·)).toList
  (Host.order attrs).flatMap fun (k, v) => lenencBytes k.asBytes ++ lenencBytes v.asBytes

def encodeAuthResponse (authresp : Bytes) : Except Error Bytes :=
  if c.serverCapabilities &&& PLUGIN_AUTH_LENENC_CLIENT_DATA ≠ 0 then .ok (lenencBytes authresp)
  else if c.serverCapabilities &&& SECURE_CONNECTION ≠ 0 then
    if 255 < authresp.length then
      .error (authPluginError s!"auth response too long for SECURE_CONNECTION: {authresp.length}")
    else .ok (UInt8.ofNat authresp.length :: authresp)
  else .ok (authresp ++ [0])

-- What follows the response to the greeting.
def authTail : Bytes :=
  (match c.options.database with
    | some db =>
      if c.serverCapabilities &&& CONNECT_WITH_DB ≠ 0 then db.asBytes ++ [0] else []
    | none    => []) ++
  (if c.serverCapabilities &&& PLUGIN_AUTH ≠ 0 then c.authPluginName.asBytes ++ [0] else []) ++
  (if c.serverCapabilities &&& CONNECT_ATTRS ≠ 0 then lenencBytes c.connectAttrs else [])

end Credentials

variable [Libraries] [Crypto] [Host]

def writeAuthPacket (clientFlags : UInt32) : Proc Error Connection Unit := do
  let c ← get
  let charset ← Proc.ofExcept c.charsetInfo
  let authresp := makeAuthResponse c.authPluginName c.options.password c.salt c.secure
  let encoded ← Proc.ofExcept (c.encodeAuthResponse authresp)
  writePacket (handshakeHead clientFlags charset ++ c.options.user.asBytes ++ [0] ++ encoded ++ c.authTail)

-- Whether the connection is to be upgraded to TLS.
def wantsTls (c : Connection) : Except Error Bool :=
  match c.options.sslMode with
  | .disabled  => .ok false
  | .preferred => .ok (c.serverCapabilities &&& SSL ≠ 0)
  | .required  =>
    if c.serverCapabilities &&& SSL = 0 then
      .error (.operationalError CR_SSL_CONNECTION_ERROR "SSL is required but the server doesn't support it")
    else .ok true

def requestAuthenticationStart : Proc Error Connection AuthState := do
  let c ← get
  if c.options.user = [] then
    Proc.throw (.programmingError CR_MALFORMED_PACKET "Did not specify a username")
  let charset ← Proc.ofExcept c.charsetInfo
  let doSsl ← Proc.ofExcept c.wantsTls
  if doSsl then
    writePacket (handshakeHead (c.clientFlag ||| SSL) charset)
    modify ({ · with needsTlsUpgrade := true })
    return .send
  else
    writeAuthPacket c.clientFlag
    modify (·.setAuthPhase .initial)
    return .needRead

-- Comes after the upgrade to TLS.
def requestAuthenticationSendCredentials : Proc Error Connection AuthState := do
  writeAuthPacket ((← get).clientFlag ||| SSL)
  modify (·.setAuthPhase .initial)
  return .needRead

-- Leaves a trailing NUL out.
def trimNul (salt : Bytes) : Bytes :=
  if salt.getLast? = some 0 then salt.dropLast else salt

-- Queues a packet and goes on in the given phase.
def sendAuthData (data : Bytes) (phase : AuthPhase) : Proc Error Connection AuthState := do
  writePacket data
  modify (·.setAuthPhase phase)
  return .send

-- The name of the plugin has been read off the packet already.
def processAuthSwitch (authPacket : MysqlPacket) : Proc Error Connection AuthState := do
  let salt := trimNul (authPacket.data.drop authPacket.position)
  let c ← get
  let password := c.options.password
  match c.authPluginName with
  | .mysqlNativePassword => sendAuthData (scrambleNativePassword password salt) .initial
  | .cachingSha2Password => sendAuthData (scrambleCachingSha2 password salt) .initial
  | .sha256Password      =>
    modify (·.setSalt salt)
    if c.secure then sendAuthData (password ++ [0]) .initial
    else if password = [] then sendAuthData [0] .initial
    else sendAuthData [1] .sha256Password
  | .mysqlClearPassword  => sendAuthData (password ++ [0]) .initial
  | plugin               =>
    Proc.throw (.operationalError CR_AUTH_PLUGIN_CANNOT_LOAD
      s!"Authentication plugin {plugin.debug} not configured")

def readFastResult : MysqlPacket.Reader UInt8 := do
  MysqlPacket.advance 1
  MysqlPacket.readUint8

def processCachingSha2Fast (authPacket : MysqlPacket) : Proc Error Connection AuthState := do
  if authPacket.isErrorPacket then Proc.throw authPacket.raiseForError
  if !authPacket.isExtraAuthData then
    Proc.throw (authPluginError
      s!"caching sha2: Unknown packet for fast auth: {authPacket.debugFirst}")
  let n ← authPacket.run readFastResult
  if n = 3 then
    Proc.ofExcept authPacket.checkError
    modify (·.setAuthPhase .cachingSha2FastSuccess)
    return .needRead
  else if n ≠ 4 then
    Proc.throw (authPluginError s!"caching sha2: Unknown result for fast auth: {n}")
  else if (← get).secure then
    sendAuthData ((← get).options.password ++ [0]) .initial
  else
    sendAuthData [2] .cachingSha2PublicKey

def processCachingSha2PublicKey (pkt : MysqlPacket) : Proc Error Connection AuthState := do
  if pkt.isErrorPacket then Proc.throw pkt.raiseForError
  if !pkt.isExtraAuthData then
    Proc.throw (authPluginError s!"caching sha2: Unknown packet for public key: {pkt.debugFirst}")
  let key := pkt.data.drop 1
  modify (·.setServerPublicKey key)
  let c ← get
  let data ← Proc.ofExcept (sha2RsaEncrypt c.options.password c.salt key)
  sendAuthData data .initial

def processSha256Continue (authPacket : MysqlPacket) : Proc Error Connection AuthState := do
  let c ← get
  let password := c.options.password
  if c.authPhase = .initial then
    modify (·.setSalt (trimNul (authPacket.data.drop 1)))
    if c.secure then sendAuthData (password ++ [0]) .initial
    else if password ≠ [] then sendAuthData [1] .sha256Password
    else sendAuthData [0] .initial
  else
    if authPacket.isErrorPacket then Proc.throw authPacket.raiseForError
    if authPacket.isExtraAuthData then
      modify (·.setServerPublicKey (authPacket.data.drop 1))
    if password = [] then sendAuthData [] .initial
    else
      match (← get).serverPublicKey with
      | none     => Proc.throw (authPluginError "Couldn't receive server's public key")
      | some key =>
        let data ← Proc.ofExcept (sha2RsaEncrypt password (← get).salt key)
        sendAuthData data .initial

def readPluginName : MysqlPacket.Reader (Option Bytes) := do
  let _ ← MysqlPacket.readUint8
  MysqlPacket.readString

def processAuthInitial (authPacket : MysqlPacket) : Proc Error Connection AuthState := do
  if authPacket.isAuthSwitchRequest then
    let (pluginName, authPacket) ← Proc.ofExcept (readPluginName.run authPacket)
    modify (·.setAuthPluginName (AuthPlugin.fromBytes (pluginName.getD [])))
    processAuthSwitch authPacket
  else if authPacket.isExtraAuthData then
    match (← get).authPluginName with
    | .cachingSha2Password => processCachingSha2Fast authPacket
    | .sha256Password      => processSha256Continue authPacket
    | plugin               =>
      Proc.throw (authPluginError s!"Received extra packet for auth method {plugin.debug}")
  else
    Proc.ofExcept authPacket.checkError
    return .success

def requestAuthenticationContinue : Proc Error Connection AuthState := do
  let authPacket ← readPacket
  match (← get).authPhase with
  | .initial                => processAuthInitial authPacket
  | .cachingSha2FastSuccess =>
    if !authPacket.isOkPacket then
      Proc.throw (authPluginError "caching sha2: expected OK packet after fast auth")
    let ok ← authPacket.run OkPacketWrapper.fromPacket
    modify (·.setServerStatus ok.serverStatus)
    modify (·.setAuthPhase .initial)
    return .success
  | .cachingSha2PublicKey   => processCachingSha2PublicKey authPacket
  | .sha256Password         => processSha256Continue authPacket

-- What does not depend on what the server says about itself.
structure Apart {δ : Type} (f : Connection → δ) : Prop where
  greeting : ∀ c version serverVersion id capabilities language charset status,
    f {
      c with
      protocolVersion := version
      serverVersion := serverVersion
      serverThreadId := id
      serverCapabilities := capabilities
      serverLanguage := language
      serverCharset := charset
      serverStatus := status
    } = f c
  salt     : ∀ c salt, f (c.setSalt salt) = f c
  plugin   : ∀ c plugin, f (c.setAuthPluginName plugin) = f c

omit [Libraries] [Crypto] [Host] in
-- The greeting is read, and then only what it says is changed.
theorem getServerInformation_apart : ∃ k : MysqlPacket → Proc Error Connection Unit,
    getServerInformation = readPacket >>= k ∧
      ∀ {δ : Type} {f : Connection → δ}, Apart f → ∀ packet, (k packet).Leaves f := by
  refine ⟨_, rfl, fun {_ f} h packet => ?_⟩
  cases packet.data
  case nil => exact .throw _
  case cons version data =>
    refine .bind (.modify fun c => h.greeting c _ _ _ _ _ _ _) fun _ => ?_
    refine .guard _ fun _ => .guard _ fun _ => .bind (.modify fun c => h.greeting c _ _ _ _ _ _ _) fun _ => ?_
    refine .guard _ fun _ => .bind (.modify fun c => h.greeting c _ _ _ _ _ _ _) fun _ => ?_
    refine .guard _ fun _ => .bind (.modify fun c => h.salt c _) fun _ => ?_
    refine .guard _ fun _ => .bind (.modify fun c => h.greeting c _ _ _ _ _ _ _) fun _ => ?_
    have name (data : Bytes) : Proc.Leaves f (do
        if data = [] then return
        let name := data.drop 1
        if (← get).serverCapabilities &&& PLUGIN_AUTH ≠ 0 ∧ name ≠ [] then
          modify (·.setAuthPluginName (AuthPlugin.fromBytes (name.takeWhile (· ≠ 0)))) :
        Proc Error Connection Unit) :=
      .ite (.pure ()) (.bind .get fun _ => .ite (.modify fun c => h.plugin c _) (.pure ()))
    refine .ite ?_ (.bind (.pure _) name)
    refine .bind (.modify fun c => h.greeting c _ _ _ _ _ _ _) fun _ => .guard _ fun _ => ?_
    exact .ite (.bind (.modify fun c => h.salt c _) fun _ => .bind (.pure _) name) (.bind (.pure _) name)

omit [Libraries] [Crypto] [Host] in
theorem Apart.getServerInformation {δ : Type} {f : Connection → δ} (h : Apart f) (hr : readPacket.Leaves f) :
    getServerInformation.Leaves f := by
  obtain ⟨k, hk, hf⟩ := getServerInformation_apart
  rw [hk]
  exact .bind hr (hf h)

-- In addition, what does not depend on how far the authentication is.
structure Detached {δ : Type} (f : Connection → δ) : Prop extends Apart f where
  stream : ∀ c s, f (c.setStream s) = f c
  key    : ∀ c key, f (c.setServerPublicKey key) = f c
  phase  : ∀ c phase, f (c.setAuthPhase phase) = f c

namespace Detached

variable {δ : Type} {f : Connection → δ} (h : Detached f)

include h

theorem writeAuthPacket (clientFlags : UInt32) : (writeAuthPacket clientFlags).Leaves f :=
  .bind .get fun _ => .bind (.ofExcept _) fun _ => .bind (.ofExcept _) fun _ => .zoom _ h.stream

theorem requestAuthenticationSendCredentials : requestAuthenticationSendCredentials.Leaves f :=
  .bind .get fun _ => .bind (h.writeAuthPacket _) fun _ => .bind (.modify fun c => h.phase c _) fun _ => .pure _

omit [Crypto] [Host] in
theorem sendAuthData (data : Bytes) (phase : AuthPhase) : (sendAuthData data phase).Leaves f :=
  .bind (.zoom _ h.stream) fun _ => .bind (.modify fun c => h.phase c _) fun _ => .pure _

theorem processAuthSwitch (packet : MysqlPacket) : (processAuthSwitch packet).Leaves f := by
  refine .bind .get fun c => ?_
  cases c.authPluginName
  case mysqlNativePassword => exact h.sendAuthData _ _
  case cachingSha2Password => exact h.sendAuthData _ _
  case mysqlClearPassword  => exact h.sendAuthData _ _
  case sha256Password =>
    refine .bind (.modify fun c => h.salt c _) fun _ => .ite (h.sendAuthData _ _) ?_
    exact .ite (h.sendAuthData _ _) (h.sendAuthData _ _)
  all_goals exact .throw _

omit [Crypto] [Host] in
theorem processCachingSha2Fast (packet : MysqlPacket) : (processCachingSha2Fast packet).Leaves f := by
  refine .guard _ fun _ => .guard _ fun _ => .bind (.ofExcept _) fun n => ?_
  refine .ite ?_ ?_
  · exact .bind (.ofExcept _) fun _ => .bind (.modify fun c => h.phase c _) fun _ => .pure _
  · refine .ite (.throw _) (.bind .get fun _ => ?_)
    exact .ite (.bind .get fun _ => h.sendAuthData _ _) (h.sendAuthData _ _)

omit [Host] in
theorem processCachingSha2PublicKey (packet : MysqlPacket) : (processCachingSha2PublicKey packet).Leaves f := by
  refine .guard _ fun _ => .guard _ fun _ => .bind (.modify fun c => h.key c _) fun _ => ?_
  exact .bind .get fun _ => .bind (.ofExcept _) fun _ => h.sendAuthData _ _

omit [Host] in
theorem processSha256Continue (packet : MysqlPacket) : (processSha256Continue packet).Leaves f := by
  refine .bind .get fun c => .ite ?_ (.guard _ fun _ => ?_)
  · refine .bind (.modify fun c => h.salt c _) fun _ => .ite (h.sendAuthData _ _) ?_
    exact .ite (h.sendAuthData _ _) (h.sendAuthData _ _)
  · have answer : Proc.Leaves f (do
        if c.options.password = [] then Connection.sendAuthData [] .initial
        else
          match (← get).serverPublicKey with
          | none     => Proc.throw (authPluginError "Couldn't receive server's public key")
          | some key =>
            let data ← Proc.ofExcept (sha2RsaEncrypt c.options.password (← get).salt key)
            Connection.sendAuthData data .initial) := by
      refine .ite (h.sendAuthData _ _) (.bind .get fun c => ?_)
      cases c.serverPublicKey
      case none     => exact .throw _
      case some key => exact .bind .get fun _ => .bind (.ofExcept _) fun _ => h.sendAuthData _ _
    exact .ite (.bind (.modify fun c => h.key c _) fun _ => answer) answer

theorem processAuthInitial (packet : MysqlPacket) : (processAuthInitial packet).Leaves f := by
  refine .ite ?_ (.ite ?_ ?_)
  · exact .bind (.ofExcept _) fun _ => .bind (.modify fun c => h.plugin c _) fun _ => h.processAuthSwitch _
  · refine .bind .get fun c => ?_
    cases c.authPluginName
    case cachingSha2Password => exact h.processCachingSha2Fast _
    case sha256Password      => exact h.processSha256Continue _
    all_goals exact .throw _
  · exact .bind (.ofExcept _) fun _ => .pure _

theorem requestAuthenticationContinue : requestAuthenticationContinue.Leaves f := by
  refine .bind (.zoom _ h.stream) fun packet => .bind .get fun c => ?_
  cases c.authPhase
  case initial                => exact h.processAuthInitial _
  case cachingSha2PublicKey   => exact h.processCachingSha2PublicKey _
  case sha256Password         => exact h.processSha256Continue _
  case cachingSha2FastSuccess =>
    refine .guard _ fun _ => .bind (.ofExcept _) fun _ => .bind (.modify fun c => h.greeting c _ _ _ _ _ _ _) fun _ => ?_
    exact .bind (.modify fun c => h.phase c _) fun _ => .pure _

end Detached
end Connection
end MySQL
