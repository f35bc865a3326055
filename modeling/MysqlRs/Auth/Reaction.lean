import MysqlRs.Auth.Machine

namespace MySQL

open ClientError

-- What a client can send to prove that it knows the password.
inductive Credential
  | empty
  | byte (b : UInt8)
  | clear
  | native (nonce : Bytes)
  | cachingSha2 (nonce : Bytes)
  | ed25519 (nonce : Bytes)
  | rsa (nonce key : Bytes)

def Credential.data [Crypto] (password : Bytes) : Credential → Except Error Bytes
  | empty             => .ok []
  | byte b            => .ok [b]
  | clear             => .ok (password ++ [0])
  | native nonce      => .ok (scrambleNativePassword password nonce)
  | cachingSha2 nonce => .ok (scrambleCachingSha2 password nonce)
  | ed25519 nonce     => .ok (ed25519Password password nonce)
  | rsa nonce key     => sha2RsaEncrypt password nonce key

-- What the client does about a packet.
inductive Reply
  | fail (e : Error)
  | success
  | wait
  | send (credential : Credential) (phase : AuthPhase)

-- The phase that the machine is in after the reply.
def Reply.phase (phase : AuthPhase) : Reply → AuthPhase
  | send _ phase => phase
  | _            => phase

namespace AuthPlugin

-- What the response to the greeting is made of.
def response (password salt : Bytes) (secure : Bool) : AuthPlugin → Credential
  | mysqlNativePassword => .native salt
  | cachingSha2Password => .cachingSha2 salt
  | sha256Password      => if secure then .clear else if password = [] then .byte 0 else .byte 1
  | mysqlClearPassword  => .clear
  | clientEd25519       => .ed25519 salt
  | _                   => .empty

theorem response_data [Crypto] (plugin : AuthPlugin) (password salt : Bytes) (secure : Bool) :
    (plugin.response password salt secure).data password =
      .ok (makeAuthResponse plugin password salt secure) := by
  cases plugin
  case sha256Password =>
    rw [response, makeAuthResponse]
    split_ifs <;> rfl
  case cachingSha2Password =>
    rw [makeAuthResponse]
    split_ifs with h
    · simp [response, Credential.data, scrambleCachingSha2, h]
    · rfl
  all_goals rfl

end AuthPlugin

namespace Connection

-- How the exchange of sha256_password begins.
def sha256Answer (c : Connection) : Reply :=
  if c.secure then .send .clear .initial
  else if c.options.password = [] then .send (.byte 0) .initial
  else .send (.byte 1) .sha256Password

section Reaction

variable [Host] (c : Connection) (packet : MysqlPacket)

def switchReply (nonce : Bytes) : Connection × Reply :=
  match c.authPluginName with
  | .mysqlNativePassword => (c, .send (.native nonce) .initial)
  | .cachingSha2Password => (c, .send (.cachingSha2 nonce) .initial)
  | .sha256Password      =>
    (c.setSalt nonce, c.sha256Answer)
  | .mysqlClearPassword  => (c, .send .clear .initial)
  | plugin               =>
    (c, .fail (.operationalError CR_AUTH_PLUGIN_CANNOT_LOAD
      s!"Authentication plugin {plugin.debug} not configured"))

def fastReply : Connection × Reply :=
  match readFastResult.run' packet with
  | .error e => (c, .fail e)
  | .ok n    =>
    if n = 3 then (c.setAuthPhase .cachingSha2FastSuccess, .wait)
    else if n ≠ 4 then
      (c, .fail (authPluginError s!"caching sha2: Unknown result for fast auth: {n}"))
    else if c.secure then (c, .send .clear .initial)
    else (c, .send (.byte 2) .cachingSha2PublicKey)

def initialReply : Connection × Reply :=
  if packet.isAuthSwitchRequest then
    match readPluginName.run packet with
    | .error e           => (c, .fail e)
    | .ok (name, packet) =>
      switchReply (c.setAuthPluginName (AuthPlugin.fromBytes (name.getD [])))
        (trimNul (packet.data.drop packet.position))
  else if packet.isExtraAuthData then
    match c.authPluginName with
    | .cachingSha2Password => fastReply c packet
    | .sha256Password      =>
      (c.setSalt (trimNul (packet.data.drop 1)), c.sha256Answer)
    | plugin               =>
      (c, .fail (authPluginError s!"Received extra packet for auth method {plugin.debug}"))
  else if packet.isErrorPacket then (c, .fail packet.raiseForError)
  else (c, .success)

def fastSuccessReply : Connection × Reply :=
  if packet.isOkPacket then
    match OkPacketWrapper.fromPacket.run' packet with
    | .error e => (c, .fail e)
    | .ok ok   => ((c.setServerStatus ok.serverStatus).setAuthPhase .initial, .success)
  else (c, .fail (authPluginError "caching sha2: expected OK packet after fast auth"))

def publicKeyReply : Connection × Reply :=
  if packet.isErrorPacket then (c, .fail packet.raiseForError)
  else if packet.isExtraAuthData then
    (c.setServerPublicKey (packet.data.drop 1),
      .send (.rsa c.salt (packet.data.drop 1)) .initial)
  else
    (c, .fail (authPluginError
      s!"caching sha2: Unknown packet for public key: {packet.debugFirst}"))

def sha256Reply : Connection × Reply :=
  if packet.isErrorPacket then (c, .fail packet.raiseForError)
  else
    let c :=
      if packet.isExtraAuthData then c.setServerPublicKey (packet.data.drop 1) else c
    if c.options.password = [] then (c, .send .empty .initial)
    else
      match c.serverPublicKey with
      | none     => (c, .fail (authPluginError "Couldn't receive server's public key"))
      | some key => (c, .send (.rsa c.salt key) .initial)

-- What comes of a packet, and what is remembered of it.
def reaction : Connection × Reply :=
  match c.authPhase with
  | .initial                => initialReply c packet
  | .cachingSha2FastSuccess => fastSuccessReply c packet
  | .cachingSha2PublicKey   => publicKeyReply c packet
  | .sha256Password         => sha256Reply c packet

-- No packet of the server changes these.
theorem reaction_kept :
    let c' := (reaction c packet).1
    c'.options = c.options ∧ c'.secure = c.secure ∧ c'.needsTlsUpgrade = c.needsTlsUpgrade ∧
      c'.packetStream = c.packetStream := by
  have switch (c : Connection) (nonce : Bytes) :
      let c' := (switchReply c nonce).1
      c'.options = c.options ∧ c'.secure = c.secure ∧ c'.needsTlsUpgrade = c.needsTlsUpgrade ∧
        c'.packetStream = c.packetStream := by
    rw [switchReply]
    cases c.authPluginName
    all_goals exact ⟨rfl, rfl, rfl, rfl⟩
  rw [reaction]
  cases c.authPhase
  case initial =>
    simp only [initialReply]
    split_ifs
    case pos =>
      cases readPluginName.run packet
      case error => exact ⟨rfl, rfl, rfl, rfl⟩
      case ok r  => exact switch _ _
    case pos =>
      cases c.authPluginName
      case cachingSha2Password =>
        simp only [fastReply]
        cases readFastResult.run' packet
        case error => exact ⟨rfl, rfl, rfl, rfl⟩
        case ok n  =>
          simp only
          split_ifs
          all_goals exact ⟨rfl, rfl, rfl, rfl⟩
      all_goals exact ⟨rfl, rfl, rfl, rfl⟩
    all_goals exact ⟨rfl, rfl, rfl, rfl⟩
  case cachingSha2FastSuccess =>
    simp only [fastSuccessReply]
    split_ifs
    · cases OkPacketWrapper.fromPacket.run' packet
      all_goals exact ⟨rfl, rfl, rfl, rfl⟩
    · exact ⟨rfl, rfl, rfl, rfl⟩
  case cachingSha2PublicKey =>
    simp only [publicKeyReply]
    split_ifs
    all_goals exact ⟨rfl, rfl, rfl, rfl⟩
  case sha256Password =>
    simp only [sha256Reply]
    split_ifs
    all_goals try exact ⟨rfl, rfl, rfl, rfl⟩
    all_goals split <;> exact ⟨rfl, rfl, rfl, rfl⟩

-- The reaction to a packet does not depend on what else is on its way.
theorem reaction_setStream (s : PacketStream) :
    reaction (c.setStream s) packet =
      ((reaction c packet).1.setStream s, (reaction c packet).2) := by
  have switch (c : Connection) (nonce : Bytes) :
      switchReply (c.setStream s) nonce =
        ((switchReply c nonce).1.setStream s, (switchReply c nonce).2) := by
    rw [switchReply, switchReply, setStream_authPluginName]
    cases c.authPluginName
    all_goals rfl
  rw [reaction, reaction, setStream_authPhase]
  cases c.authPhase
  case initial =>
    simp only [initialReply]
    split_ifs
    case pos =>
      cases readPluginName.run packet
      case error => rfl
      case ok r  => exact switch (c.setAuthPluginName _) _
    case pos =>
      rw [setStream_authPluginName]
      cases c.authPluginName
      case cachingSha2Password =>
        simp only [fastReply]
        cases readFastResult.run' packet
        case error => rfl
        case ok n  =>
          simp only [setStream_secure]
          split_ifs
          all_goals rfl
      all_goals rfl
    all_goals rfl
  case cachingSha2FastSuccess =>
    simp only [fastSuccessReply]
    split_ifs
    · cases OkPacketWrapper.fromPacket.run' packet
      all_goals rfl
    · rfl
  case cachingSha2PublicKey =>
    simp only [publicKeyReply]
    split_ifs
    all_goals rfl
  case sha256Password =>
    simp only [sha256Reply]
    by_cases he : packet.isErrorPacket
    case pos => simp only [he, if_true]
    case neg =>
      by_cases hx : packet.isExtraAuthData
      case pos =>
        simp only [he, hx, Bool.false_eq_true, if_false, if_true, setServerPublicKey_options,
          setStream_options, setServerPublicKey_serverPublicKey]
        split_ifs
        all_goals rfl
      case neg =>
        simp only [he, hx, Bool.false_eq_true, if_false, setStream_options, setStream_serverPublicKey]
        split_ifs
        · rfl
        · cases c.serverPublicKey
          all_goals rfl

end Reaction

variable [Libraries] [Crypto]

def perform : Connection × Reply → Outcome Error Connection AuthState
  | (c, .fail e)                => .error e c
  | (c, .success)               => .ok .success c
  | (c, .wait)                  => .ok .needRead c
  | (c, .send credential phase) =>
    match credential.data c.options.password with
    | .ok data => sendAuthData data phase c
    | .error e => .error e c

variable [Host] (c : Connection) (packet : MysqlPacket)

theorem processAuthSwitch_eq :
    processAuthSwitch packet c = perform (switchReply c (trimNul (packet.data.drop packet.position))) := by
  rw [processAuthSwitch, switchReply]
  simp only [Proc.bind_apply, Proc.get_apply, Outcome.bind_ok]
  cases c.authPluginName
  case sha256Password =>
    simp only [Proc.bind_apply, Proc.modify_apply, Outcome.bind_ok, sha256Answer]
    split_ifs <;> rfl
  all_goals rfl

omit [Host] in
theorem processCachingSha2Fast_eq (he : packet.isErrorPacket = false) (hx : packet.isExtraAuthData) :
    processCachingSha2Fast packet c = perform (fastReply c packet) := by
  rw [processCachingSha2Fast, fastReply, MysqlPacket.run]
  simp only [he, hx, Bool.not_true, Bool.false_eq_true, if_false]
  cases readFastResult.run' packet
  case error => rfl
  case ok n  =>
    simp only [Proc.ofExcept_ok, Proc.bind_apply, Proc.pure_apply, Outcome.bind_ok,
      MysqlPacket.checkError, he, Bool.false_eq_true, if_false]
    split_ifs
    case pos => rfl
    case pos => rfl
    all_goals
      simp only [Proc.bind_apply, Proc.get_apply, Outcome.bind_ok]
      split_ifs
      rfl

omit [Host] in
theorem processCachingSha2PublicKey_eq :
    processCachingSha2PublicKey packet c = perform (publicKeyReply c packet) := by
  rw [processCachingSha2PublicKey, publicKeyReply]
  by_cases he : packet.isErrorPacket
  case pos => simp only [he, if_true]; rfl
  case neg =>
    by_cases hx : packet.isExtraAuthData
    case neg => simp only [he, hx]; rfl
    case pos =>
      simp only [he, hx, if_true, perform, Credential.data, Bool.not_true, Bool.false_eq_true, if_false,
        Proc.bind_apply, Proc.modify_apply, Proc.get_apply, Outcome.bind_ok, setServerPublicKey_options,
        setServerPublicKey_salt]
      cases sha2RsaEncrypt c.options.password c.salt (packet.data.drop 1) <;> rfl

omit [Host] in
theorem processSha256Continue_eq_initial (h : c.authPhase = .initial) :
    processSha256Continue packet c =
      perform (c.setSalt (trimNul (packet.data.drop 1)), c.sha256Answer) := by
  simp only [processSha256Continue, Proc.bind_apply, Proc.get_apply, Outcome.bind_ok, h, if_true,
    Proc.modify_apply, ne_eq, ite_not, sha256Answer]
  split_ifs <;> rfl

omit [Host] in
theorem processSha256Continue_eq (h : c.authPhase ≠ .initial) :
    processSha256Continue packet c = perform (sha256Reply c packet) := by
  simp only [processSha256Continue, sha256Reply, Proc.bind_apply, Proc.get_apply, Outcome.bind_ok, h,
    if_false]
  by_cases he : packet.isErrorPacket
  case pos => simp only [he, if_true]; rfl
  case neg =>
    have send (c' : Connection) (hc : c'.options = c.options) :
        (if c.options.password = [] then sendAuthData [] .initial
          else do
            match (← get).serverPublicKey with
            | none     => Proc.throw (authPluginError "Couldn't receive server's public key")
            | some key =>
              let data ← Proc.ofExcept (sha2RsaEncrypt c.options.password (← get).salt key)
              sendAuthData data .initial : Proc Error Connection AuthState) c' =
        perform (if c'.options.password = [] then (c', .send .empty .initial)
          else
            match c'.serverPublicKey with
            | none     => (c', .fail (authPluginError "Couldn't receive server's public key"))
            | some key => (c', .send (.rsa c'.salt key) .initial)) := by
      rw [hc]
      split_ifs
      case pos => rfl
      case neg =>
        simp only [Proc.bind_apply, Proc.get_apply, Outcome.bind_ok]
        cases c'.serverPublicKey
        case none     => rfl
        case some key =>
          simp only [perform, Credential.data, hc, Proc.bind_apply, Proc.get_apply, Outcome.bind_ok]
          cases sha2RsaEncrypt c.options.password c'.salt key <;> rfl
    by_cases hx : packet.isExtraAuthData
    case pos => simp only [he, hx, if_true]; exact send _ rfl
    case neg => simp only [he, hx]; exact send c rfl

theorem processAuthInitial_eq (h : c.authPhase = .initial) :
    processAuthInitial packet c = perform (initialReply c packet) := by
  rw [processAuthInitial, initialReply]
  by_cases hs : packet.isAuthSwitchRequest
  case pos =>
    simp only [hs, if_true]
    cases readPluginName.run packet
    case error => rfl
    case ok r  => exact processAuthSwitch_eq _ _
  case neg =>
    by_cases hx : packet.isExtraAuthData
    case pos =>
      have he := packet.isErrorPacket_of_extra hx
      simp only [hs, hx, if_true, Bool.false_eq_true, if_false, Proc.bind_apply, Proc.get_apply,
        Outcome.bind_ok]
      cases c.authPluginName
      case cachingSha2Password => exact processCachingSha2Fast_eq c packet he hx
      case sha256Password      => exact processSha256Continue_eq_initial c packet h
      all_goals rfl
    case neg =>
      simp only [hs, hx, MysqlPacket.checkError, Bool.false_eq_true, if_false]
      split_ifs <;> rfl

-- The code does what the reaction says.
theorem requestAuthenticationContinue_eq {packets : List MysqlPacket}
    (h : c.packetStream.recvQueue = packet :: packets) :
    requestAuthenticationContinue c =
      perform (reaction (c.setStream { c.packetStream with recvQueue := packets }) packet) := by
  rw [requestAuthenticationContinue, Proc.bind_apply, readPacket_cons h, Outcome.bind_ok]
  generalize c.setStream { c.packetStream with recvQueue := packets } = c
  simp only [Proc.bind_apply, Proc.get_apply, Outcome.bind_ok, reaction]
  cases hp : c.authPhase
  case initial => exact processAuthInitial_eq c packet hp
  case cachingSha2PublicKey => exact processCachingSha2PublicKey_eq c packet
  case sha256Password => exact processSha256Continue_eq c packet (by rw [hp]; rintro ⟨⟩)
  case cachingSha2FastSuccess =>
    rw [fastSuccessReply, MysqlPacket.run]
    by_cases ho : packet.isOkPacket
    case neg => simp only [ho]; rfl
    case pos =>
      simp only [ho, if_true]
      cases OkPacketWrapper.fromPacket.run' packet <;> rfl

end Connection
end MySQL
