import MysqlRs.Auth.HandshakeResponse
import MysqlRs.Auth.Verification
import MysqlRs.Protocol.Completes
import MysqlRs.Protocol.Responses
import MysqlRs.Session.Arrivals

namespace MySQL

open Client

-- How an account is authenticated. The server may have a hash of the password in its cache.
inductive Scheme
  | native
  | cachingSha2 (cached : Bool)

def Scheme.plugin : Scheme → AuthPlugin
  | native        => .mysqlNativePassword
  | cachingSha2 _ => .cachingSha2Password

theorem Scheme.plugin_name (scheme : Scheme) : 0 ∉ scheme.plugin.asBytes ∧ 8 ≤ scheme.plugin.asBytes.length ∧
    AuthPlugin.fromBytes scheme.plugin.asBytes = scheme.plugin := by
  have native : 0 ∉ AuthPlugin.mysqlNativePassword.asBytes ∧ 8 ≤ AuthPlugin.mysqlNativePassword.asBytes.length ∧
      AuthPlugin.fromBytes AuthPlugin.mysqlNativePassword.asBytes = .mysqlNativePassword := by decide
  have cachingSha2 : 0 ∉ AuthPlugin.cachingSha2Password.asBytes ∧ 8 ≤ AuthPlugin.cachingSha2Password.asBytes.length ∧
      AuthPlugin.fromBytes AuthPlugin.cachingSha2Password.asBytes = .cachingSha2Password := by decide
  cases scheme
  case native      => exact native
  case cachingSha2 => exact cachingSha2

-- What proves that the client knows the password.
def Scheme.credential (nonce : Bytes) : Scheme → Credential
  | native        => .native nonce
  | cachingSha2 _ => .cachingSha2 nonce

def Scheme.scramble [Crypto] (password nonce : Bytes) : Scheme → Bytes
  | native        => scrambleNativePassword password nonce
  | cachingSha2 _ => scrambleCachingSha2 password nonce

theorem Scheme.credential_data [Crypto] (scheme : Scheme) (password nonce : Bytes) :
    (scheme.credential nonce).data password = .ok (scheme.scramble password nonce) := by
  cases scheme <;> rfl

theorem Scheme.makeAuthResponse_plugin [Crypto] (scheme : Scheme) (password salt : Bytes) (secure : Bool) :
    makeAuthResponse scheme.plugin password salt secure = scheme.scramble password salt := by
  cases scheme
  case native      => rfl
  case cachingSha2 =>
    rw [Scheme.plugin, makeAuthResponse, Scheme.scramble]
    split_ifs with h
    · rw [h, scrambleCachingSha2, if_pos rfl]
    · rfl

-- What is stored is the hash of the hash of the password, if there is a password.
structure Account where
  scheme : Scheme
  stored : Option Bytes

instance [Crypto] (nonce stored response : Bytes) : Decidable (NativeAccepts nonce stored response) :=
  inferInstanceAs (Decidable (_ = _))

instance [Crypto] (nonce stored response : Bytes) : Decidable (CachingSha2Accepts nonce stored response) :=
  inferInstanceAs (Decidable (_ = _))

theorem scrambleCachingSha2_ne_nil [Crypto] {password : Bytes} (h : ∀ m, (Crypto.sha256 m).length = 32)
    (hp : password ≠ []) (nonce : Bytes) : scrambleCachingSha2 password nonce ≠ [] := by
  intro hn
  have hl := congrArg List.length hn
  simp [scrambleCachingSha2, hp, myCrypt, h] at hl

namespace Account

variable [Crypto] (a : Account)

def hash (password : Bytes) : Bytes :=
  match a.scheme with
  | .native        => Crypto.sha1 (Crypto.sha1 password)
  | .cachingSha2 _ => Crypto.sha256 (Crypto.sha256 password)

def Has (password : Bytes) : Prop :=
  a.stored = if password = [] then none else some (a.hash password)

def accepts (nonce response : Bytes) : Bool :=
  match a.stored with
  | none        => response = []
  | some stored =>
    match a.scheme with
    | .native        => NativeAccepts nonce stored response
    | .cachingSha2 _ => CachingSha2Accepts nonce stored response

-- Whether a client with this password is let in. Where the hash of the password is not in the cache, or not the right
-- one, the password itself is asked for.
def grants (nonce password : Bytes) : Bool :=
  match a.scheme with
  | .native             => a.accepts nonce (a.scheme.scramble password nonce)
  | .cachingSha2 cached =>
    if password = [] then a.stored.isNone
    else cached && a.accepts nonce (a.scheme.scramble password nonce) || a.stored = some (a.hash password)

variable {a} {password nonce : Bytes}

theorem accepts_scramble (h₁ : ∀ m, (Crypto.sha1 m).length = 20) (h₂ : ∀ m, (Crypto.sha256 m).length = 32)
    (ha : a.Has password) (hn : nonce.length = SCRAMBLE_LENGTH) :
    a.accepts nonce (a.scheme.scramble password nonce) = true := by
  by_cases hp : password = []
  case pos =>
    rw [Has, if_pos hp] at ha
    cases hs : a.scheme <;> simp [accepts, ha, Scheme.scramble, scrambleNativePassword, scrambleCachingSha2, hp]
  case neg =>
    rw [Has, if_neg hp] at ha
    have hnative := scrambleNativePassword_accepted h₁ hp hn []
    rw [List.append_nil] at hnative
    rw [accepts, ha, hash]
    cases a.scheme
    case native      => exact decide_eq_true hnative
    case cachingSha2 => exact decide_eq_true (scrambleCachingSha2_accepted h₂ hp nonce)

-- Who knows the password is let in.
theorem grants_of_has (h₁ : ∀ m, (Crypto.sha1 m).length = 20) (h₂ : ∀ m, (Crypto.sha256 m).length = 32)
    (ha : a.Has password) (hn : nonce.length = SCRAMBLE_LENGTH) : a.grants nonce password = true := by
  have haccept := accepts_scramble h₁ h₂ ha hn
  rw [grants]
  cases hs : a.scheme
  case native      =>
    rw [hs] at haccept
    exact haccept
  case cachingSha2 =>
    by_cases hp : password = []
    case pos =>
      rw [Has, if_pos hp] at ha
      simp [hp, ha]
    case neg =>
      rw [Has, if_neg hp] at ha
      simp [hp, ha]

end Account

-- What a server expects of the client next.
inductive Turn
  | greeted
  | switched (a : Account)
  | full (a : Account)

-- A server, with the nonces of its greeting and of a request to switch to another plugin.
structure Authority where
  capabilities : UInt32
  salt : Bytes
  nonce : Bytes
  find : Bytes → Option Account
  welcome : Server.Ok
  refusal : Bytes

namespace Authority

variable [Crypto] (s : Authority)

def fastSuccess : Bytes := [1, 3]

def fullAuthentication : Bytes := [1, 4]

def switchRequest (a : Account) : Bytes :=
  0xFE :: (a.scheme.plugin.asBytes ++ 0 :: (s.nonce ++ [0]))

def verdict (accepted : Bool) : Bytes :=
  if accepted then s.welcome.payload else Server.errPayload s.refusal

-- What comes of a response to a nonce: the packets that are sent, and whether something is still expected.
def check (a : Account) (nonce response : Bytes) : List Bytes × Option Turn :=
  match a.scheme with
  | .native             => ([s.verdict (a.accepts nonce response)], none)
  | .cachingSha2 cached =>
    if response = [] then ([s.verdict a.stored.isNone], none)
    else if cached && a.accepts nonce response then ([fastSuccess, s.verdict true], none)
    else ([fullAuthentication], some (.full a))

def respond : Turn → Bytes → List Bytes × Option Turn
  | .greeted, payload     =>
    match HandshakeResponse.parse s.capabilities payload with
    | none        => ([s.verdict false], none)
    | some (r, _) =>
      match s.find r.user with
      | none   => ([s.verdict false], none)
      | some a =>
        if r.plugin = some a.scheme.plugin.asBytes then s.check a s.salt r.authResponse
        else ([s.switchRequest a], some (.switched a))
  | .switched a, response => s.check a s.nonce response
  | .full a, password     =>
    ([s.verdict (password.getLast? = some 0 ∧ a.stored = some (a.hash password.dropLast))], none)

-- What the server sends after each of the packets that it hears.
def serve : Turn → List Bytes → List (List Bytes)
  | _,    []            => []
  | turn, heard :: more =>
    (s.respond turn heard).1 ::
      match (s.respond turn heard).2 with
      | none      => []
      | some turn => serve turn more

-- The nonce that is scrambled in the end.
def nonceFor (a : Account) (c : Connection) : Bytes :=
  if c.authPluginName = a.scheme.plugin then s.salt else s.nonce

end Authority

namespace Connection

variable [Host]

-- A dialogue as the client sees it: what the server sends up to each packet of the client, the packets of the client,
-- and what it comes to. It does not depend on the packet stream.
inductive Talks [Crypto] : List (List Bytes) → List Bytes → Connection → Except Error Connection → Prop
  | success {p : Bytes} {c y : Connection} : ¬IsError p → reaction c (.new p) = (y, .success) →
    Talks [[p]] [] c (.ok y)
  | refused {p : Bytes} {c : Connection} : IsError p → Talks [[p]] [] c (.error (Error.raiseMysqlException p))
  | wait {p : Bytes} {ps : List Bytes} {gs : List (List Bytes)} {said : List Bytes} {c c' : Connection}
    {r : Except Error Connection} :
    ¬IsError p → reaction c (.new p) = (c', .wait) → Talks (ps :: gs) said c' r → Talks ((p :: ps) :: gs) said c r
  | send {p data : Bytes} {gs : List (List Bytes)} {said : List Bytes} {c c' : Connection} {credential : Credential}
    {phase : AuthPhase} {r : Except Error Connection} :
    ¬IsError p → reaction c (.new p) = (c', .send credential phase) →
    credential.data c'.options.password = .ok data → Talks gs said (c'.setAuthPhase phase) r →
    Talks ([p] :: gs) (data :: said) c r

section Reactions

variable {c : Connection} {d : Server.Ok}

open MysqlPacket

theorem reaction_welcome (h : c.authPhase = .initial) : reaction c (.new d.payload) = (c, .success) := by
  have hs : ¬(new d.payload).isAuthSwitchRequest := by simp [isAuthSwitchRequest, Server.Ok.payload]
  have hx : ¬(new d.payload).isExtraAuthData := by simp [isExtraAuthData, Server.Ok.payload]
  have he : ¬(new d.payload).isErrorPacket := d.not_error
  rw [reaction, h]
  exact (if_neg hs).trans ((if_neg hx).trans (if_neg he))

theorem reaction_welcomeFast (h : c.authPhase = .cachingSha2FastSuccess) (hd : d.payload.length ≤ usizeMax) :
    reaction c (.new d.payload) = ((c.setServerStatus d.status).setAuthPhase .initial, .success) := by
  have ⟨hr, _⟩ := MySQLResult.run_eq_ok.mp (congrFun (d.run (σ := Unit) hd) ())
  rw [reaction, h]
  simp only [fastSuccessReply, d.isOkPacket, if_true, hr]
  rfl

theorem reaction_fast (h : c.authPhase = .initial) (hn : c.authPluginName = .cachingSha2Password) (n : UInt8) :
    reaction c (.new [1, n]) = fastReply c (.new [1, n]) := by
  have hs : ¬(new [1, n]).isAuthSwitchRequest := by simp [isAuthSwitchRequest]
  have hx : (new [1, n]).isExtraAuthData := by simp [isExtraAuthData]
  rw [reaction, h]
  simp only [initialReply, if_neg hs, if_pos hx, hn]

theorem reaction_fastSuccess (h : c.authPhase = .initial) (hn : c.authPluginName = .cachingSha2Password) :
    reaction c (.new Authority.fastSuccess) = (c.setAuthPhase .cachingSha2FastSuccess, .wait) :=
  reaction_fast h hn 3

theorem reaction_fullAuthentication (h : c.authPhase = .initial) (hn : c.authPluginName = .cachingSha2Password)
    (hs : c.secure = true) : reaction c (.new Authority.fullAuthentication) = (c, .send .clear .initial) := by
  refine (reaction_fast h hn 4).trans ?_
  change (if c.secure then _ else _) = _
  rw [if_pos hs]

omit [Host] in
theorem switchRequest_ne_error (s : Authority) (a : Account) : ¬IsError (s.switchRequest a) := by
  simp [IsError, MysqlPacket.isErrorPacket, Authority.switchRequest]

theorem reaction_switch (s : Authority) (a : Account) (h : c.authPhase = .initial) :
    reaction c (.new (s.switchRequest a)) =
      (c.setAuthPluginName a.scheme.plugin, .send (a.scheme.credential s.nonce) .initial) := by
  have ⟨hz, hl, hn⟩ := a.scheme.plugin_name
  have hs : (new (s.switchRequest a)).isAuthSwitchRequest := by
    simp only [isAuthSwitchRequest, Authority.switchRequest, new_data, List.head?_cons, List.length_cons,
      List.length_append, decide_eq_true_eq, true_and]
    omega
  have hp : ∀ b ∈ a.scheme.plugin.asBytes, decide (b ≠ 0) := fun b hb => decide_eq_true fun h => hz (h ▸ hb)
  have ht : (s.switchRequest a).tail = a.scheme.plugin.asBytes ++ 0 :: (s.nonce ++ [0]) := rfl
  have hw : (a.scheme.plugin.asBytes ++ 0 :: (s.nonce ++ [0])).takeWhile (· ≠ 0) = a.scheme.plugin.asBytes := by
    rw [List.takeWhile_append_of_pos hp]
    simp
  have hm : 0 ∈ a.scheme.plugin.asBytes ++ 0 :: (s.nonce ++ [0]) := by simp
  have htrim : trimNul ((a.scheme.plugin.asBytes ++ 0 :: (s.nonce ++ [0])).drop (a.scheme.plugin.asBytes.length + 1)) =
      s.nonce := by
    simp [trimNul, ← List.drop_drop]
  rw [reaction, h]
  refine (initialReply_switch c hs).trans ?_
  rw [ht, switchName, if_pos hm, hw, switchNonce, if_pos hm, hw, hn, htrim, switchReply,
    setAuthPluginName_authPluginName]
  cases a.scheme
  all_goals rfl

end Reactions

section Admission

variable [Crypto] {s : Authority} {a : Account} {c : Connection} {nonce : Bytes}

omit [Host] in
theorem serve_done {turn : Turn} {heard : Bytes} {packets : List Bytes} (h : s.respond turn heard = (packets, none))
    (more : List Bytes) : s.serve turn (heard :: more) = [packets] := by
  rw [Authority.serve, h]

omit [Host] in
theorem serve_next {turn turn' : Turn} {heard : Bytes} {packets : List Bytes}
    (h : s.respond turn heard = (packets, some turn')) (more : List Bytes) :
    s.serve turn (heard :: more) = packets :: s.serve turn' more := by
  rw [Authority.serve, h]

-- The client need not encrypt its password.
def Attainable (a : Account) (nonce : Bytes) (c : Connection) : Prop :=
  ∀ cached, a.scheme = .cachingSha2 cached → c.secure = true ∨ c.options.password = [] ∨
    (cached && a.accepts nonce (a.scheme.scramble c.options.password nonce)) = true

-- How a dialogue ends, by what the server decides.
def Decided (s : Authority) (granted : Bool) (r : Except Error Connection) : Prop :=
  if granted then ∃ y, r = .ok y else r = .error (Error.raiseMysqlException (Server.errPayload s.refusal))

omit [Host] [Crypto] in
theorem verdict_not_error : ¬IsError (s.verdict true) :=
  s.welcome.not_error

theorem verdict_talks (hp : c.authPhase = .initial) (granted : Bool) :
    ∃ r, Talks [[s.verdict granted]] [] c r ∧ Decided s granted r := by
  cases granted
  case true  => exact ⟨_, .success verdict_not_error (reaction_welcome hp), c, rfl⟩
  case false => exact ⟨_, .refused (Server.isError_errPayload s.refusal), rfl⟩

-- What follows a scramble of the password, whatever it is that made the server expect it.
theorem check_talks (h₂ : ∀ m, (Crypto.sha256 m).length = 32) (hd : s.welcome.payload.length ≤ usizeMax)
    (hp : c.authPhase = .initial) (hn : c.authPluginName = a.scheme.plugin) (hf : Attainable a nonce c) (turn : Turn)
    (heard : Bytes)
    (ht : s.respond turn heard = s.check a nonce (a.scheme.scramble c.options.password nonce)) :
    ∃ said r, Talks (s.serve turn (heard :: said)) said c r ∧ Decided s (a.grants nonce c.options.password) r := by
  rw [Authority.check] at ht
  rw [Account.grants]
  cases hs : a.scheme
  case native =>
    rw [hs] at ht
    obtain ⟨r, hr, hdecided⟩ := verdict_talks (s := s) hp
      (a.accepts nonce (Scheme.native.scramble c.options.password nonce))
    exact ⟨[], r, by rw [serve_done ht]; exact hr, hdecided⟩
  case cachingSha2 cached =>
    have hf := hf cached hs
    rw [hs] at ht hn hf
    by_cases he : c.options.password = []
    case pos =>
      simp only [Scheme.scramble, scrambleCachingSha2, he, if_true] at ht ⊢
      obtain ⟨r, hr, hdecided⟩ := verdict_talks (s := s) hp a.stored.isNone
      exact ⟨[], r, by rw [serve_done ht]; exact hr, hdecided⟩
    case neg =>
      have hr : Scheme.scramble c.options.password nonce (.cachingSha2 cached) ≠ [] :=
        scrambleCachingSha2_ne_nil h₂ he nonce
      simp only [if_neg hr, he, if_false] at ht ⊢
      cases hfast : cached && a.accepts nonce (Scheme.scramble c.options.password nonce (.cachingSha2 cached))
      case true  =>
        rw [hfast, if_pos rfl] at ht
        have hw : Talks [[s.verdict true]] [] (c.setAuthPhase .cachingSha2FastSuccess) _ :=
          .success verdict_not_error (reaction_welcomeFast rfl hd)
        have hne : ¬IsError Authority.fastSuccess := by decide
        exact ⟨[], _, by rw [serve_done ht]; exact .wait hne (reaction_fastSuccess hp hn) hw, _, rfl⟩
      case false =>
        rw [hfast, if_neg Bool.false_ne_true] at ht
        have hsec : c.secure = true := by simpa [he, hfast] using hf
        have hlast : s.respond (.full a) (c.options.password ++ [0]) =
            ([s.verdict (a.stored = some (a.hash c.options.password))], none) := by
          simp [Authority.respond]
        have hne : ¬IsError Authority.fullAuthentication := by decide
        obtain ⟨r, hr, hdecided⟩ := verdict_talks (s := s) (c := c.setAuthPhase .initial) rfl
          (a.stored = some (a.hash c.options.password))
        refine ⟨[c.options.password ++ [0]], r, ?_, by rw [Bool.false_or]; exact hdecided⟩
        rw [serve_next ht, serve_done hlast]
        exact .send hne (reaction_fullAuthentication hp hn hsec) rfl hr

-- What the server knows is what it has told the client.
structure Knows (s : Authority) (a : Account) (c : Connection) : Prop where
  capabilities : s.capabilities = c.serverCapabilities
  salt         : s.salt = c.salt
  welcome      : s.welcome.payload.length ≤ usizeMax
  find         : s.find c.options.user.asBytes = some a

-- What the client says about itself can be told apart.
structure Speaks (c : Connection) : Prop where
  announces  : Announces c
  user       : 0 ∉ c.options.user.asBytes
  database   : ∀ db ∈ c.options.database, 0 ∉ db.asBytes
  response   : (makeAuthResponse c.authPluginName c.options.password c.salt c.secure).length ≤ usizeMax
  attrs      : c.connectAttrs.length ≤ usizeMax
  plugin     : c.serverCapabilities &&& PLUGIN_AUTH ≠ 0
  named      : AuthPlugin.fromBytes c.authPluginName.asBytes = c.authPluginName
  delimited  : c.serverCapabilities &&& PLUGIN_AUTH_LENENC_CLIENT_DATA ≠ 0 ∨
    c.serverCapabilities &&& SECURE_CONNECTION ≠ 0

-- The server reads off the response to its greeting who asks, and by which plugin.
theorem Speaks.parsed (h : c.Speaks) {flags : UInt32} {payload : Bytes}
    (hf : flags = c.clientFlag ||| if c.secure then SSL else 0)
    (hr : c.handshakeResponse flags c.firstCredential = .ok payload) :
    ∃ r, HandshakeResponse.parse c.serverCapabilities payload = some (r, []) ∧ r.user = c.options.user.asBytes ∧
      r.plugin = some c.authPluginName.asBytes ∧
      r.authResponse = makeAuthResponse c.authPluginName c.options.password c.salt c.secure := by
  have hparsed := handshakeResponse_parsed h.announces c.secure hf h.delimited h.user h.database h.response
    h.attrs hr
  exact ⟨_, hparsed.all, rfl, if_pos h.plugin, rfl⟩

-- The response is answered, or the server asks for another plugin. Either way it comes to what the server decides.
theorem Knows.decides (h₂ : ∀ m, (Crypto.sha256 m).length = 32) (h : Knows s a c) (hc : c.Speaks)
    (hf : Attainable a (s.nonceFor a c) c) {flags : UInt32} {payload : Bytes}
    (hflags : flags = c.clientFlag ||| if c.secure then SSL else 0)
    (hr : c.handshakeResponse flags c.firstCredential = .ok payload) :
    ∃ said r, Talks (s.serve .greeted (payload :: said)) said (c.setAuthPhase .initial) r ∧
      Decided s (a.grants (s.nonceFor a c) c.options.password) r := by
  have ⟨r, hparse, huser, hplugin, hresponse⟩ := hc.parsed hflags hr
  have hgreeted : s.respond .greeted payload =
      if r.plugin = some a.scheme.plugin.asBytes then s.check a s.salt r.authResponse
      else ([s.switchRequest a], some (.switched a)) := by
    rw [Authority.respond, h.capabilities, hparse]
    simp only [huser, h.find]
  rw [Authority.nonceFor] at hf ⊢
  by_cases hn : c.authPluginName = a.scheme.plugin
  case pos =>
    rw [if_pos hn] at hf ⊢
    refine check_talks (c := c.setAuthPhase .initial) h₂ h.welcome rfl hn hf _ _ ?_
    rw [hgreeted, if_pos (hn ▸ hplugin), hresponse, hn, ← h.salt]
    exact congrArg (s.check a s.salt) (a.scheme.makeAuthResponse_plugin _ _ _)
  case neg =>
    have hother : r.plugin ≠ some a.scheme.plugin.asBytes := by
      intro he
      refine hn ?_
      rw [← hc.named, Option.some.inj (hplugin.symm.trans he), a.scheme.plugin_name.2.2]
    rw [if_neg hn] at hf ⊢
    rw [if_neg hother] at hgreeted
    have hlater : s.respond (.switched a) (a.scheme.scramble c.options.password s.nonce) =
        s.check a s.nonce (a.scheme.scramble c.options.password s.nonce) := rfl
    obtain ⟨said, y, ht, hd⟩ := check_talks (c := (c.setAuthPluginName a.scheme.plugin).setAuthPhase .initial) h₂
      h.welcome rfl rfl hf _ _ hlater
    refine ⟨a.scheme.scramble c.options.password s.nonce :: said, y, ?_, hd⟩
    rw [serve_next hgreeted]
    exact .send (switchRequest_ne_error s a) (reaction_switch s a rfl) (a.scheme.credential_data _ _) ht

end Admission
end Connection
end MySQL
