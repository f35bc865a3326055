import MysqlRs.Auth.Reaction

namespace MySQL

open MysqlPacket
open PacketStream (plainPackets)

-- A packet that has come in, and what has come behind it: packets, the beginning of another, and the sequence
-- number that is due next.
structure Arrival where
  payload : Bytes
  recvBuffer : Bytes
  recvQueue : List MysqlPacket
  nextSeqId : UInt8

-- Nothing else has come.
def Arrival.alone (nextSeqId : UInt8) (payload : Bytes) : Arrival where
  payload := payload
  recvBuffer := []
  recvQueue := []
  nextSeqId := nextSeqId

-- What is left on the stream when the packet has been taken.
def PacketStream.past (s : PacketStream) (a : Arrival) : PacketStream :=
  { s with recvBuffer := a.recvBuffer, recvQueue := a.recvQueue, nextSeqId := a.nextSeqId }

namespace Connection

-- The name of a plugin and what follows it, behind the first byte of an auth switch request.
def switchName (rest : Bytes) : Bytes :=
  if 0 ∈ rest then rest.takeWhile (· ≠ 0) else []

def switchNonce (rest : Bytes) : Bytes :=
  trimNul (if 0 ∈ rest then rest.drop ((rest.takeWhile (· ≠ 0)).length + 1) else rest)

def deliver (c : Connection) (a : Arrival) : Connection :=
  c.setStream { c.packetStream.past a with recvQueue := .new a.payload :: a.recvQueue }

variable [Host] (c : Connection)

omit [Host] in
theorem readPluginName_run (b : UInt8) (rest : Bytes) :
    readPluginName.run (new (b :: rest)) = .ok
      (if 0 ∈ rest then
        (some (rest.takeWhile (· ≠ 0)), ⟨1 + (rest.takeWhile (· ≠ 0)).length + 1, b :: rest⟩)
      else (none, ⟨1, b :: rest⟩)) := by
  have hr : MysqlPacket.readUint8 (new (b :: rest)) = .ok (b, ⟨1, b :: rest⟩) := by
    have hu : ¬usizeMax < 1 := by decide
    have h1 : MysqlPacket.read 1 (new (b :: rest)) = .ok ([b], ⟨1, b :: rest⟩) := by
      simp [MysqlPacket.read, new, hu]
    have hb : UInt8.ofNat (LittleEndian.decode [b]) = b := by simp [LittleEndian.decode]
    simp only [readUint8, readUint, bind, StateT.bind, Except.bind, h1]
    exact congrArg (fun b => Except.ok (b, _)) hb
  have hs : readString ⟨1, b :: rest⟩ = .ok
      (if 0 ∈ rest then
        (some (rest.takeWhile (· ≠ 0)), ⟨1 + (rest.takeWhile (· ≠ 0)).length + 1, b :: rest⟩)
      else (none, ⟨1, b :: rest⟩)) := by
    rw [readString]
    simp only [List.drop_succ_cons, List.drop_zero]
    split_ifs <;> rfl
  rw [← hs, readPluginName]
  simp [StateT.run, bind, StateT.bind, hr, Except.bind]

theorem initialReply_switch {p : Bytes} (h : (new p).isAuthSwitchRequest) :
    initialReply c (new p) =
      switchReply (c.setAuthPluginName (AuthPlugin.fromBytes (switchName p.tail))) (switchNonce p.tail) := by
  obtain ⟨b, rest, rfl⟩ : ∃ b rest, p = b :: rest := by
    have ⟨hd, _⟩ := of_decide_eq_true h
    exact List.exists_cons_of_ne_nil fun hn => nomatch hn ▸ hd
  rw [initialReply, if_pos h, readPluginName_run, switchName, switchNonce, List.tail_cons]
  by_cases h0 : 0 ∈ rest
  case pos => simp [h0, Nat.add_comm 1, List.drop_succ_cons]
  case neg => simp [h0]

-- The transitions of the machine. A failure ends the run, and what it leaves does not matter.
inductive Reacts (c : Connection) (p : Bytes) : Connection × Reply → Prop
  | fail (c' : Connection) (e : Error) : Reacts c p (c', .fail e)
  | switchNative : c.authPhase = .initial → (new p).isAuthSwitchRequest →
    AuthPlugin.fromBytes (switchName p.tail) = .mysqlNativePassword →
    Reacts c p (c.setAuthPluginName .mysqlNativePassword, .send (.native (switchNonce p.tail)) .initial)
  | switchCachingSha2 : c.authPhase = .initial → (new p).isAuthSwitchRequest →
    AuthPlugin.fromBytes (switchName p.tail) = .cachingSha2Password →
    Reacts c p
      (c.setAuthPluginName .cachingSha2Password, .send (.cachingSha2 (switchNonce p.tail)) .initial)
  | switchSha256 : c.authPhase = .initial → (new p).isAuthSwitchRequest →
    AuthPlugin.fromBytes (switchName p.tail) = .sha256Password →
    Reacts c p
      ((c.setAuthPluginName .sha256Password).setSalt (switchNonce p.tail), c.sha256Answer)
  | switchClear : c.authPhase = .initial → (new p).isAuthSwitchRequest →
    AuthPlugin.fromBytes (switchName p.tail) = .mysqlClearPassword →
    Reacts c p (c.setAuthPluginName .mysqlClearPassword, .send .clear .initial)
  | fastDone : c.authPhase = .initial → (new p).isExtraAuthData →
    c.authPluginName = .cachingSha2Password → Reacts c p (c.setAuthPhase .cachingSha2FastSuccess, .wait)
  | fastSecure : c.authPhase = .initial → (new p).isExtraAuthData →
    c.authPluginName = .cachingSha2Password → c.secure → Reacts c p (c, .send .clear .initial)
  | fastRequest : c.authPhase = .initial → (new p).isExtraAuthData →
    c.authPluginName = .cachingSha2Password → ¬c.secure →
    Reacts c p (c, .send (.byte 2) .cachingSha2PublicKey)
  | sha256Start : c.authPhase = .initial → (new p).isExtraAuthData →
    c.authPluginName = .sha256Password → Reacts c p (c.setSalt (trimNul p.tail), c.sha256Answer)
  | unchecked : c.authPhase = .initial → ¬(new p).isAuthSwitchRequest → ¬(new p).isExtraAuthData →
    ¬(new p).isErrorPacket → Reacts c p (c, .success)
  | fastOk (status : UInt16) : c.authPhase = .cachingSha2FastSuccess → (new p).isOkPacket →
    Reacts c p ((c.setServerStatus status).setAuthPhase .initial, .success)
  | publicKey : c.authPhase = .cachingSha2PublicKey → (new p).isExtraAuthData →
    Reacts c p (c.setServerPublicKey p.tail, .send (.rsa c.salt p.tail) .initial)
  | sha256Empty (c' : Connection) : c.authPhase = .sha256Password → c.options.password = [] →
    c' = c ∨ c' = c.setServerPublicKey p.tail → Reacts c p (c', .send .empty .initial)
  | sha256Key : c.authPhase = .sha256Password → c.options.password ≠ [] → (new p).isExtraAuthData →
    Reacts c p (c.setServerPublicKey p.tail, .send (.rsa c.salt p.tail) .initial)
  | sha256Stored (key : Bytes) : c.authPhase = .sha256Password → c.options.password ≠ [] →
    ¬(new p).isExtraAuthData → ¬(new p).isErrorPacket → c.serverPublicKey = some key →
    Reacts c p (c, .send (.rsa c.salt key) .initial)

variable {c} {p : Bytes}

theorem reacts_switch (h : c.authPhase = .initial) (hs : (new p).isAuthSwitchRequest) :
    Reacts c p (switchReply (c.setAuthPluginName (AuthPlugin.fromBytes (switchName p.tail)))
      (switchNonce p.tail)) := by
  rw [switchReply]
  simp only [setAuthPluginName_authPluginName]
  cases hn : AuthPlugin.fromBytes (switchName p.tail)
  case mysqlNativePassword => exact .switchNative h hs hn
  case cachingSha2Password => exact .switchCachingSha2 h hs hn
  case sha256Password      => exact .switchSha256 h hs hn
  case mysqlClearPassword  => exact .switchClear h hs hn
  all_goals exact .fail _ _

omit [Host] in
theorem reacts_fast (h : c.authPhase = .initial) (hx : (new p).isExtraAuthData)
    (hn : c.authPluginName = .cachingSha2Password) : Reacts c p (fastReply c (new p)) := by
  rw [fastReply]
  cases readFastResult.run' (new p)
  case error => exact .fail _ _
  case ok n  =>
    simp only
    split_ifs with h₃ h₄ hs
    · exact .fastDone h hx hn
    · exact .fail _ _
    · exact .fastSecure h hx hn hs
    · exact .fastRequest h hx hn hs

theorem reacts_initial (h : c.authPhase = .initial) : Reacts c p (initialReply c (new p)) := by
  by_cases hs : (new p).isAuthSwitchRequest
  case pos => exact initialReply_switch c hs ▸ reacts_switch h hs
  case neg =>
    rw [initialReply, if_neg hs]
    by_cases hx : (new p).isExtraAuthData
    case pos =>
      rw [if_pos hx]
      cases hn : c.authPluginName
      case cachingSha2Password => exact reacts_fast h hx hn
      case sha256Password      => exact List.drop_one ▸ .sha256Start h hx hn
      all_goals exact .fail _ _
    case neg =>
      rw [if_neg hx]
      by_cases he : (new p).isErrorPacket
      case pos => exact if_pos he ▸ .fail _ _
      case neg => exact if_neg he ▸ .unchecked h hs hx he

omit [Host] in
theorem reacts_publicKey (h : c.authPhase = .cachingSha2PublicKey) :
    Reacts c p (publicKeyReply c (new p)) := by
  rw [publicKeyReply, new_data, List.drop_one]
  split_ifs with he hx
  · exact .fail _ _
  · exact .publicKey h hx
  · exact .fail _ _

omit [Host] in
theorem reacts_sha256 (h : c.authPhase = .sha256Password) : Reacts c p (sha256Reply c (new p)) := by
  rw [sha256Reply, new_data, List.drop_one]
  by_cases he : (new p).isErrorPacket
  case pos => exact if_pos he ▸ .fail _ _
  case neg =>
    rw [if_neg he]
    by_cases hx : (new p).isExtraAuthData
    case pos =>
      simp only [hx, if_true, setServerPublicKey_options, setServerPublicKey_serverPublicKey,
        setServerPublicKey_salt]
      split_ifs with hp
      · exact .sha256Empty _ h hp (.inr rfl)
      · exact .sha256Key h hp hx
    case neg =>
      simp only [hx, Bool.false_eq_true, if_false]
      split_ifs with hp
      · exact .sha256Empty _ h hp (.inl rfl)
      · cases hk : c.serverPublicKey
        case none     => exact .fail _ _
        case some key => exact .sha256Stored key h hp hx he hk

theorem reacts (c : Connection) (p : Bytes) : Reacts c p (reaction c (new p)) := by
  rw [reaction]
  cases h : c.authPhase
  case initial              => exact reacts_initial h
  case cachingSha2PublicKey => exact reacts_publicKey h
  case sha256Password       => exact reacts_sha256 h
  case cachingSha2FastSuccess =>
    rw [fastSuccessReply]
    by_cases ho : (new p).isOkPacket
    case neg => exact if_neg ho ▸ .fail _ _
    case pos =>
      rw [if_pos ho]
      cases OkPacketWrapper.fromPacket.run' (new p)
      case error => exact .fail _ _
      case ok    => exact .fastOk _ h ho

variable [Libraries] [Crypto]

-- The next packet of the server is handled.
def authStep (a : Arrival) : Proc Error Connection AuthState := fun c =>
  requestAuthenticationContinue (c.deliver a)

theorem authStep_eq (a : Arrival) :
    authStep a c = perform ((reaction c (new a.payload)).1.setStream (c.packetStream.past a),
      (reaction c (new a.payload)).2) := by
  have h := requestAuthenticationContinue_eq (c.deliver a) (new a.payload) rfl
  exact h.trans (congrArg perform (reaction_setStream c (new a.payload) (c.packetStream.past a)))

-- What is left when a packet of credentials has been queued.
@[simps!]
def sent (c : Connection) (data : Bytes) (phase : AuthPhase) : Connection :=
  (c.setStream {
    c.packetStream with
    sendQueue := c.packetStream.sendQueue ++ [(plainPackets c.packetStream.nextSeqId data).1]
    nextSeqId := (plainPackets c.packetStream.nextSeqId data).2
  }).setAuthPhase phase

omit [Host] [Crypto] in
theorem writePacket_plain {c : Connection} (h : c.packetStream.compressed = false) (data : Bytes) :
    writePacket data c = .ok () (c.sent data c.authPhase) := by
  simp only [writePacket, onStream_apply, PacketStream.writePacket, Proc.bind_apply, Proc.get_apply,
    Outcome.bind_ok, h, Bool.false_eq_true, if_false]
  rfl

omit [Host] [Crypto] in
theorem sendAuthData_plain {c : Connection} (h : c.packetStream.compressed = false) (data : Bytes)
    (phase : AuthPhase) : sendAuthData data phase c = .ok .send (c.sent data phase) := by
  rw [sendAuthData, Proc.bind_apply, writePacket_plain h]
  rfl

-- The ways in which a step goes on.
theorem authStep_ok {a : Arrival} {st : AuthState} {c c' : Connection} (h : authStep a c = .ok st c') :
    let x := reaction c (new a.payload)
    let c₁ := x.1.setStream (c.packetStream.past a)
    (x.2 = .success ∧ st = .success ∧ c' = c₁) ∨
    (x.2 = .wait ∧ st = .needRead ∧ c' = c₁) ∨
    ∃ credential phase data c₂, x.2 = .send credential phase ∧ st = .send ∧
      writePacket data c₁ = .ok () c₂ ∧ c' = c₂.setAuthPhase phase := by
  rw [authStep_eq] at h
  generalize reaction c (new a.payload) = x at h
  obtain ⟨c₁, r⟩ := x
  cases r
  case fail => cases h
  case success =>
    obtain ⟨rfl, rfl⟩ := Outcome.ok.inj h
    exact .inl ⟨rfl, rfl, rfl⟩
  case wait =>
    obtain ⟨rfl, rfl⟩ := Outcome.ok.inj h
    exact .inr (.inl ⟨rfl, rfl, rfl⟩)
  case send credential phase =>
    simp only [perform] at h
    split at h
    case h_2 => cases h
    case h_1 data _ =>
      obtain ⟨_, c₂, hw, h⟩ := Outcome.bind_eq_ok.mp h
      obtain ⟨rfl, rfl⟩ := Outcome.ok.inj h
      exact .inr (.inr ⟨credential, phase, data, c₂, rfl, rfl, hw, rfl⟩)

-- What a step leaves: all that the reaction remembers, and a phase.
theorem authStep_leaves {a : Arrival} {st : AuthState} {c c' : Connection}
    (hp : c.packetStream.compressed = false) (h : authStep a c = .ok st c') :
    ∃ c₁ r s, reaction c (new a.payload) = (c₁, r) ∧ (∀ e, r ≠ .fail e) ∧ s.compressed = false ∧
      c' = (c₁.setStream s).setAuthPhase (r.phase c₁.authPhase) := by
  have ho := authStep_ok h
  cases hx : reaction c (new a.payload)
  case mk c₁ r =>
    rw [hx] at ho
    have hp₁ : (c₁.setStream (c.packetStream.past a)).packetStream.compressed = false := hp
    obtain ⟨rfl, _, rfl⟩ | ⟨rfl, _, rfl⟩ | ⟨credential, phase, data, c₂, rfl, _, hw, rfl⟩ := ho
    · exact ⟨_, _, _, rfl, nofun, hp₁, rfl⟩
    · exact ⟨_, _, _, rfl, nofun, hp₁, rfl⟩
    · rw [writePacket_plain hp₁] at hw
      obtain ⟨_, rfl⟩ := Outcome.ok.inj hw
      exact ⟨_, _, ((c₁.setStream (c.packetStream.past a)).sent data phase).packetStream, rfl, nofun, hp₁, rfl⟩

-- The client proves that it knows the password with the given credential, or tries to.
def Sends (c : Connection) (p : Bytes) (credential : Credential) : Prop :=
  ∃ c' phase, reaction c (new p) = (c', .send credential phase)

omit [Libraries] [Crypto] in
theorem Sends.reacts {p : Bytes} {c : Connection} {credential : Credential} (h : Sends c p credential) :
    ∃ c' phase, Reacts c p (c', .send credential phase) := by
  have ⟨c', phase, h⟩ := h
  exact ⟨c', phase, h ▸ Connection.reacts c p⟩

-- What the credential is made into is what gets queued.
theorem authStep_of_sends {a : Arrival} {c c₁ : Connection} (credential : Credential) {phase : AuthPhase}
    {data : Bytes} (hp : c.packetStream.compressed = false)
    (hx : reaction c (new a.payload) = (c₁, .send credential phase))
    (hd : credential.data c.options.password = .ok data) :
    authStep a c = .ok .send ((c₁.setStream (c.packetStream.past a)).sent data phase) := by
  have ⟨ho, _⟩ := reaction_kept c (new a.payload)
  rw [hx] at ho
  rw [authStep_eq, hx, perform, setStream_options, ho, hd]
  exact sendAuthData_plain (c := c₁.setStream (c.packetStream.past a)) hp data phase

section EachStep

variable {γ : Type} (next : γ → Connection → Bytes → γ) (P Q : γ → Connection → Bytes → Prop)

-- In a run, `P` holds at every step. The run ends with success or with an error. `γ` is what an
-- observer keeps of the run.
def EachWith : List Arrival → γ → Connection → Prop
  | [],      _, _ => True
  | a :: as, g, c =>
    P g c a.payload ∧
      match authStep a c with
      | .ok .success _ => True
      | .ok _ c'       => EachWith as (next g c a.payload) c'
      | _              => True

def EachStep (P : Connection → Bytes → Prop) (as : List Arrival) (c : Connection) : Prop :=
  EachWith (fun _ _ _ => ()) (fun _ => P) as () c

theorem EachStep.head {P : Connection → Bytes → Prop} {a : Arrival} {as : List Arrival} {c : Connection}
    (h : EachStep P (a :: as) c) : P c a.payload :=
  h.left

variable {next P Q} {I : γ → Connection → Prop} {g : γ} {c : Connection} {as : List Arrival}

theorem EachWith.single {a : Arrival} (h : P g c a.payload) :
    EachWith next P [a] g c := by
  refine ⟨h, ?_⟩
  cases authStep a c
  case ok st _ => cases st <;> trivial
  all_goals trivial

theorem EachWith.cons {a : Arrival} {c' : Connection} (h : P g c a.payload)
    (hs : authStep a c = .ok .send c') (hrest : EachWith next P as (next g c a.payload) c') :
    EachWith next P (a :: as) g c := by
  refine ⟨h, ?_⟩
  rw [hs]
  exact hrest

theorem EachWith.rest {a : Arrival} {c' : Connection} (h : EachWith next P (a :: as) g c)
    (hs : authStep a c = .ok .send c') : EachWith next P as (next g c a.payload) c' := by
  have h := h.right
  rw [hs] at h
  exact h

-- `P` follows from `Q` where the invariant `I` holds, and `Q` keeps it.
theorem EachWith.imp (h : ∀ g c p, I g c → Q g c p → P g c p)
    (hI : ∀ g c a st c', I g c → Q g c a.payload → authStep a c = .ok st c' → I (next g c a.payload) c')
    (hc : I g c) (hq : EachWith next Q as g c) : EachWith next P as g c := by
  induction as generalizing g c
  case nil => trivial
  case cons a as ih =>
    have ⟨hq, hrest⟩ := hq
    refine ⟨h g c a.payload hc hq, ?_⟩
    cases hs : authStep a c
    case ok st c' =>
      rw [hs] at hrest
      have hi := hI g c a st c' hc hq hs
      cases st
      case success => trivial
      all_goals exact ih hi hrest
    all_goals trivial

-- `P` and `Q` are the same where the invariant `I` holds, and `Q` keeps it.
theorem EachWith.congr (h : ∀ g c p, I g c → (P g c p ↔ Q g c p))
    (hI : ∀ g c a st c', I g c → Q g c a.payload → authStep a c = .ok st c' → I (next g c a.payload) c')
    (hc : I g c) : EachWith next P as g c ↔ EachWith next Q as g c where
  mp  := imp (fun g c p hi hp => (h g c p hi).mp hp)
    (fun g c a st c' hi hp hs => hI g c a st c' hi ((h g c a.payload hi).mp hp) hs) hc
  mpr := imp (fun g c p hi hq => (h g c p hi).mpr hq) hI hc

end EachStep
end Connection
end MySQL
