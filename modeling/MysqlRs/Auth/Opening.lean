import MysqlRs.Auth.Session

namespace MySQL

open Client
open PacketStream (plainPackets)

-- What is settled when the connection is made.
structure Settings where
  options : ConnectOptions
  secure : Bool
  clientFlag : UInt32
  serverPublicKey : Option Bytes
  needsTlsUpgrade : Bool
  compressed : Bool
  sendQueue : List Bytes

namespace Connection

@[simps]
def settings (c : Connection) : Settings where
  options := c.options
  secure := c.secure
  clientFlag := c.clientFlag
  serverPublicKey := c.serverPublicKey
  needsTlsUpgrade := c.needsTlsUpgrade
  compressed := c.packetStream.compressed
  sendQueue := c.packetStream.sendQueue

theorem readPacket_settings : readPacket.Leaves settings := by
  intro c
  cases hq : c.packetStream.recvQueue
  case nil       => rw [readPacket_nil hq, Outcome.state]
  case cons p ps =>
    rw [readPacket_cons hq]
    rfl

theorem apart_settings : Apart settings where
  greeting _ _ _ _ _ _ _ _ := rfl
  salt _ _                  := rfl
  plugin _ _                := rfl

theorem getServerInformation_settings : getServerInformation.Keeps settings :=
  (apart_settings.getServerInformation readPacket_settings).keeps

-- What a greeting leads to, whatever has come behind it.
def Greeted (options : ConnectOptions) (greeting : Bytes) (c : Connection) : Prop :=
  ∃ c₀ a, connect options = .ok c₀ ∧ a.payload = greeting ∧ getServerInformation (c₀.deliver a) = .ok () c

namespace Greeted

variable {options : ConnectOptions} {greeting : Bytes} {c : Connection}

theorem settings (h : Greeted options greeting c) :
    ∃ clientFlag, c.settings = {
      options, clientFlag
      secure := false
      serverPublicKey := options.serverPublicKey
      needsTlsUpgrade := false
      compressed := false
      sendQueue := []
    } := by
  have ⟨c₀, _, hc, _, hi⟩ := h
  rw [connect] at hc
  cases hk : checkOptions options
  case error    => exact nomatch hk ▸ hc
  case ok chars =>
    rw [hk] at hc
    obtain rfl := Except.ok.inj hc
    exact ⟨_, getServerInformation_settings hi⟩

theorem charset (h : Greeted options greeting c) :
    ∃ charset, Charset.byName options.charset = some charset := by
  have ⟨c₀, _, hc, _⟩ := h
  rw [connect, checkOptions] at hc
  split_ifs at hc
  case neg =>
    cases hb : Charset.byName options.charset
    case none         => exact nomatch hb ▸ hc
    case some charset => exact ⟨charset, rfl⟩
  all_goals exact nomatch hc

theorem options_eq (h : Greeted options greeting c) : c.options = options :=
  have ⟨_, h⟩ := h.settings
  congrArg Settings.options h

theorem secure_eq (h : Greeted options greeting c) : c.secure = false :=
  have ⟨_, h⟩ := h.settings
  congrArg Settings.secure h

theorem serverPublicKey_eq (h : Greeted options greeting c) :
    c.serverPublicKey = options.serverPublicKey :=
  have ⟨_, h⟩ := h.settings
  congrArg Settings.serverPublicKey h

theorem plain (h : Greeted options greeting c) : c.packetStream.compressed = false :=
  have ⟨_, h⟩ := h.settings
  congrArg Settings.compressed h

theorem unsent (h : Greeted options greeting c) : c.packetStream.sendQueue = [] :=
  have ⟨_, h⟩ := h.settings
  congrArg Settings.sendQueue h

theorem needsTlsUpgrade_eq (h : Greeted options greeting c) : c.needsTlsUpgrade = false :=
  have ⟨_, h⟩ := h.settings
  congrArg Settings.needsTlsUpgrade h

end Greeted

section Opening

variable [Crypto] [Host]

-- The response to the greeting that carries a credential.
def handshakeResponse (c : Connection) (clientFlags : UInt32) (credential : Credential) :
    Except Error Bytes := do
  let charset ← c.charsetInfo
  let data ← credential.data c.options.password
  let encoded ← c.encodeAuthResponse data
  return handshakeHead clientFlags charset ++ c.options.user.asBytes ++ [0] ++ encoded ++ c.authTail

-- What the response to the greeting is made of.
def firstCredential (c : Connection) : Credential :=
  c.authPluginName.response c.options.password c.salt c.secure

variable [Libraries] {c c' : Connection}

theorem writeAuthPacket_eq (clientFlags : UInt32) :
    writeAuthPacket clientFlags c =
      (Proc.ofExcept (c.handshakeResponse clientFlags c.firstCredential) >>= writePacket) c := by
  rw [writeAuthPacket, handshakeResponse, firstCredential]
  simp only [Proc.bind_apply, Proc.get_apply, Outcome.bind_ok]
  cases c.charsetInfo
  case error => rfl
  case ok    =>
    simp only [bind, Except.bind, AuthPlugin.response_data]
    simp only [Proc.ofExcept_ok, Proc.pure_apply, Outcome.bind_ok]
    cases c.encodeAuthResponse (makeAuthResponse c.authPluginName c.options.password c.salt c.secure) <;> rfl

theorem writeAuthPacket_plain (clientFlags : UInt32) (hp : c.packetStream.compressed = false) :
    writeAuthPacket clientFlags c =
      match c.handshakeResponse clientFlags c.firstCredential with
      | .ok payload => .ok () (c.sent payload c.authPhase)
      | .error e    => .error e c := by
  rw [writeAuthPacket_eq]
  cases c.handshakeResponse clientFlags c.firstCredential
  case error      => rfl
  case ok payload => exact writePacket_plain hp payload

-- The SSL request has been queued.
@[simps!]
def tlsRequested (c : Connection) (charset : Charset) : Connection :=
  { c.sent (handshakeHead (c.clientFlag ||| SSL) charset) c.authPhase with needsTlsUpgrade := true }

-- The ways in which authentication starts: it fails, or goes on with an SSL request or with credentials.
theorem requestAuthenticationStart_cases (hp : c.packetStream.compressed = false) :
    (∃ e, requestAuthenticationStart c = .error e c) ∨
    (c.wantsTls = .ok true ∧ ∃ charset, c.charsetInfo = .ok charset ∧
      requestAuthenticationStart c = .ok .send (c.tlsRequested charset)) ∨
    (c.wantsTls = .ok false ∧ ∃ payload,
      c.handshakeResponse c.clientFlag c.firstCredential = .ok payload ∧
        requestAuthenticationStart c = .ok .needRead (c.sent payload .initial)) := by
  rw [requestAuthenticationStart]
  simp only [Proc.bind_apply, Proc.get_apply, Outcome.bind_ok]
  split
  case isTrue  => exact .inl ⟨_, rfl⟩
  case isFalse =>
    cases hk : c.charsetInfo
    case error      => exact .inl ⟨_, rfl⟩
    case ok charset =>
      cases hw : c.wantsTls
      case error => exact .inl ⟨_, rfl⟩
      case ok doSsl =>
        simp only [Proc.ofExcept_ok, Proc.bind_apply, Proc.pure_apply, Outcome.bind_ok]
        cases doSsl
        case true =>
          simp only [if_true, Proc.bind_apply, writePacket_plain hp]
          exact .inr (.inl ⟨trivial, charset, rfl, rfl⟩)
        case false =>
          simp only [Bool.false_eq_true, if_false, Proc.bind_apply, writeAuthPacket_plain _ hp]
          cases hr : c.handshakeResponse c.clientFlag c.firstCredential
          case error      => exact .inl ⟨_, rfl⟩
          case ok payload => exact .inr (.inr ⟨trivial, payload, rfl, rfl⟩)

theorem requestAuthenticationSendCredentials_plain (hp : c.packetStream.compressed = false) :
    requestAuthenticationSendCredentials c =
      match c.handshakeResponse (c.clientFlag ||| SSL) c.firstCredential with
      | .ok payload => .ok .needRead (c.sent payload .initial)
      | .error e    => .error e c := by
  simp only [requestAuthenticationSendCredentials, Proc.bind_apply, Proc.get_apply, Outcome.bind_ok,
    writeAuthPacket_plain _ hp]
  cases c.handshakeResponse (c.clientFlag ||| SSL) c.firstCredential <;> rfl

-- The SSL request has been written, and the channel has been upgraded.
@[simps!]
def secured (c : Connection) : Connection :=
  { c with secure := true, packetStream := { c.packetStream with sendQueue := [] } }

-- The credentials have been queued, after an upgrade to TLS if `secure` says so.
inductive Began (c₀ c : Connection) : Bool → Prop
  | plain : requestAuthenticationStart c₀ = .ok .needRead c → Began c₀ c false
  | tls (c₁ : Connection) : requestAuthenticationStart c₀ = .ok .send c₁ →
    requestAuthenticationSendCredentials c₁.secured = .ok .needRead c → Began c₀ c true

-- The credential is what the plugin of the greeting makes of its salt, and the response that carries it is
-- the last packet that has been queued.
def Answers (c₀ c : Connection) (secure : Bool) (credential : Credential) : Prop :=
  credential = c₀.authPluginName.response c₀.options.password c₀.salt secure ∧
    ∃ clientFlags payload queue seq, c₀.handshakeResponse clientFlags credential = .ok payload ∧
      c.packetStream.sendQueue = queue ++ [(plainPackets seq payload).1]

-- What is known when the answer of the server to the credentials comes.
structure Opened (c₀ c : Connection) (secure : Bool) : Prop where
  options_eq : c.options = c₀.options
  secure_eq : c.secure = secure
  salt_eq : c.salt = c₀.salt
  authPluginName_eq : c.authPluginName = c₀.authPluginName
  serverPublicKey_eq : c.serverPublicKey = c₀.serverPublicKey
  authPhase_eq : c.authPhase = .initial
  plain : c.packetStream.compressed = false
  answers : Answers c₀ c secure (c₀.authPluginName.response c₀.options.password c₀.salt secure)

-- The response has been queued on the channel as it was, or as it is after the upgrade.
theorem Began.responded {secure : Bool} (h : Began c c' secure) (hp : c.packetStream.compressed = false) :
    ∃ c₁ payload, c' = c₁.sent payload .initial ∧
      c₁.handshakeResponse (c.clientFlag ||| if secure then SSL else 0) c₁.firstCredential = .ok payload ∧
      (secure = false ∧ c₁ = c ∨ ∃ charset, secure = true ∧ c₁ = (c.tlsRequested charset).secured) := by
  have hstart := requestAuthenticationStart_cases hp
  cases h
  case plain h =>
    rw [h] at hstart
    obtain ⟨_, he⟩ | ⟨_, _, _, he⟩ | ⟨_, payload, hr, he⟩ := hstart
    · exact nomatch he
    · exact nomatch he
    · obtain ⟨_, rfl⟩ := Outcome.ok.inj he
      refine ⟨c, payload, rfl, ?_, .inl ⟨rfl, rfl⟩⟩
      rwa [if_neg Bool.false_ne_true, UInt32.or_zero]
  case tls c₁ h₁ h =>
    rw [h₁] at hstart
    obtain ⟨_, he⟩ | ⟨_, charset, _, he⟩ | ⟨_, _, _, he⟩ := hstart
    · exact nomatch he
    · obtain ⟨_, rfl⟩ := Outcome.ok.inj he
      have hp₁ : (c.tlsRequested charset).secured.packetStream.compressed = false := hp
      rw [requestAuthenticationSendCredentials_plain hp₁] at h
      split at h
      case h_2 => exact nomatch h
      case h_1 payload hr =>
        obtain ⟨_, rfl⟩ := Outcome.ok.inj h
        exact ⟨(c.tlsRequested charset).secured, payload, rfl, hr, .inr ⟨charset, rfl, rfl⟩⟩
    · exact nomatch he

theorem Began.opened {secure : Bool} (h : Began c c' secure) (hs : c.secure = false)
    (hp : c.packetStream.compressed = false) : Opened c c' secure := by
  obtain ⟨c₁, payload, rfl, hr, ⟨rfl, rfl⟩ | ⟨charset, rfl, rfl⟩⟩ := h.responded hp
  · have hc : c₁.firstCredential = c₁.authPluginName.response c₁.options.password c₁.salt false := by
      rw [firstCredential, hs]
    exact {
      options_eq := rfl
      secure_eq := hs
      salt_eq := rfl
      authPluginName_eq := rfl
      serverPublicKey_eq := rfl
      authPhase_eq := rfl
      plain := hp
      answers := ⟨rfl, _, payload, _, _, hc ▸ hr, rfl⟩
    }
  · exact {
      options_eq := rfl
      secure_eq := rfl
      salt_eq := rfl
      authPluginName_eq := rfl
      serverPublicKey_eq := rfl
      authPhase_eq := rfl
      plain := hp
      answers := ⟨rfl, _, payload, _, _, hr, rfl⟩
    }

end Opening
end Connection

section Examples

open Connection

-- Keys are taken as they come, and encrypting keeps a message as it is. Runs that hash nothing are
-- evaluated with it.
@[reducible]
def Crypto.transparent : Crypto where
  sha1 _ := []
  sha256 _ := []
  sha512 _ := []
  spkiFromPem := some
  certificateFromPem _ := none
  certificateFromDer _ := .error "not available"
  oaep _ message := .ok message
  basepointMul _ := []

@[reducible]
def Host.initProcess : Host where
  processId := 1
  order := id
  order_perm _ := .refl _
  debug := id

def pinnedKey : Bytes := [75]

def plainOptions : ConnectOptions where
  user := ['u']
  password := [112]
  sslMode := .disabled
  serverPublicKey := some pinnedKey

def greetingSalt : Bytes := List.replicate 20 65

-- The greeting of a server that asks for sha256_password, and knows TLS.
def sha256Greeting : Bytes :=
  [10, 56, 0, 1, 0, 0, 0] ++ greetingSalt.take 8 ++ [0, 0, 0x88, 45, 2, 0, 8, 0, 21] ++
    List.replicate 10 0 ++ greetingSalt.drop 8 ++ [0] ++ Text.asBytes "sha256_password".toList ++ [0]

attribute [local instance] Libraries.utf8Only Crypto.transparent Host.initProcess

-- A connection that has just answered this greeting without TLS.
theorem sha256Session :
    ∃ c₀ c, Greeted plainOptions sha256Greeting c₀ ∧ Began c₀ c false ∧ c₀.salt = greetingSalt ∧
      c₀.authPluginName = .sha256Password := by
  refine ⟨_, _, ⟨_, .alone 1 _, rfl, rfl, rfl⟩, .plain rfl, ?_, ?_⟩
  · rfl
  · rfl

end Examples
end MySQL
