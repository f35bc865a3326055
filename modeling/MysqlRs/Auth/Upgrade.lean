import MysqlRs.Auth.Opening
import MysqlRs.Tokio.Authenticate

namespace MySQL

open Client
open PacketStream (plainPackets)

namespace Connection

-- What decides on TLS, and what has been decided.
def mode (c : Connection) : ConnectOptions × Bool × Bool :=
  (c.options, c.secure, c.needsTlsUpgrade)

theorem detached_mode : Detached mode where
  greeting _ _ _ _ _ _ _ _ := rfl
  salt _ _                  := rfl
  plugin _ _                := rfl
  stream _ _                := rfl
  key _ _                   := rfl
  phase _ _                 := rfl

variable [Libraries] [Crypto] [Host]

theorem requestAuthenticationContinue_mode : requestAuthenticationContinue.Leaves mode :=
  detached_mode.requestAuthenticationContinue

theorem requestAuthenticationSendCredentials_mode : requestAuthenticationSendCredentials.Leaves mode :=
  detached_mode.requestAuthenticationSendCredentials

end Connection

namespace Tokio.Connection

open Staged
open MySQL.Connection (handshakeHead Greeted)

def mode (c : Connection) : ConnectOptions × Bool × Bool :=
  c.inner.mode

theorem lasting_mode : Lasting (·.mode) where
  stream _ _ := rfl
  closed _ _ := rfl

variable [Libraries] [Crypto] [Host] [Tls]

-- The stages in which it is settled whether there is TLS.
inductive Settled : Stage → Prop
  | credentials : Settled .credentials
  | write {state : AuthState} : Settled (.write (.loop state))
  | loop {state : AuthState} : Settled (.loop state)
  | received : Settled .received

theorem Settled.mode {k : Stage} (h : Settled k) : (authStage k).Leaves mode := by
  cases h
  case credentials =>
    exact .bind (leaves_onInner MySQL.Connection.requestAuthenticationSendCredentials_mode) fun _ => .pure _
  case write =>
    refine .bind .get fun c => ?_
    split
    · exact .bind (.modify fun _ => rfl) fun _ => .bind (lasting_mode.writeAll _) fun _ => .pure _
    · exact .bind lasting_mode.flush fun _ => .pure _
  case loop state =>
    cases state
    case needRead => exact .bind lasting_mode.pumpRead fun _ => .pure _
    case send     => exact .pure _
    case success  => exact .pure _
  case received =>
    exact .bind (leaves_onInner MySQL.Connection.requestAuthenticationContinue_mode) fun _ => .pure _

theorem Settled.step {k k' : Stage} {c c' : Connection} (h : Settled k) (hs : authStage k c = .ok k' c') :
    Settled k' := by
  cases h
  case credentials =>
    have ⟨_, _, _, hs⟩ := Outcome.bind_eq_ok.mp hs
    obtain ⟨rfl, _⟩ := Outcome.ok.inj hs
    exact .write
  case write =>
    cases hq : c.inner.packetStream.sendQueue
    case nil =>
      have ⟨_, _, _, hs⟩ := Outcome.bind_eq_ok.mp ((authStage_write_nil hq).symm.trans hs)
      obtain ⟨rfl, _⟩ := Outcome.ok.inj hs
      exact .loop
    case cons data queue =>
      have ⟨_, _, _, hs⟩ := Outcome.bind_eq_ok.mp ((authStage_write_cons hq).symm.trans hs)
      obtain ⟨rfl, _⟩ := Outcome.ok.inj hs
      exact .write
  case loop state =>
    cases state
    case needRead =>
      have ⟨_, _, _, hs⟩ := Outcome.bind_eq_ok.mp hs
      obtain ⟨rfl, _⟩ := Outcome.ok.inj hs
      exact .received
    case send =>
      obtain ⟨rfl, _⟩ := Outcome.ok.inj hs
      exact .write
    case success =>
      obtain ⟨rfl, _⟩ := Outcome.ok.inj hs
      exact .loop
  case received =>
    have ⟨_, _, _, hs⟩ := Outcome.bind_eq_ok.mp hs
    obtain ⟨rfl, _⟩ := Outcome.ok.inj hs
    exact .loop

-- Since `before` was written, nothing but `request` has been queued or written.
def OnlyRequest (before request : Bytes) (c : Connection) : Prop :=
  (c.inner.packetStream.sendQueue = [] ∧
    ∀ st ∈ c.stream, st.written = before ∨ st.written = before ++ request) ∨
  (c.inner.packetStream.sendQueue = [request] ∧ ∀ st ∈ c.stream, st.written = before)

-- Writing the request leaves nothing else behind, wherever it fails.
theorem OnlyRequest.write {before request : Bytes} {c : Connection} (h : OnlyRequest before request c)
    (next : Stage) : OnlyRequest before request (authStage (.write next) c).state := by
  obtain ⟨hq, hw⟩ | ⟨hq, hw⟩ := h
  · rw [authStage_write_nil hq, flush]
    split
    case h_1 => exact .inl ⟨hq, hw⟩
    case h_2 st hs =>
      have hw := hw st hs
      split
      case h_1 => exact .inl ⟨rfl, fun st' hs' => Option.some.inj (hs.symm.trans hs') ▸ hw⟩
      case h_2 => exact .inl ⟨hq, fun st' hs' => Option.some.inj hs' ▸ hw⟩
  · rw [authStage_write_cons hq, writeAll]
    split
    case h_1 hs => exact .inl ⟨rfl, fun st' hs' => absurd (hs.symm.trans hs') (by rintro ⟨⟩)⟩
    case h_2 st hs =>
      have hw := hw st hs
      split
      case h_1 => exact .inl ⟨rfl, fun st' hs' => .inl (Option.some.inj (hs.symm.trans hs') ▸ hw)⟩
      case h_2 => exact .inl ⟨rfl, fun st' hs' => .inr (Option.some.inj hs' ▸ congrArg (· ++ request) hw)⟩

-- Whatever comes of the upgrade, nothing is queued, and the channel is secure when it succeeds.
theorem OnlyRequest.upgrade {before request : Bytes} {c : Connection} (h : OnlyRequest before request c) :
    (∃ c', authStage .upgrade c = .ok .credentials c' ∧ c'.inner.secure) ∨
      ((∀ k' c', authStage .upgrade c ≠ .ok k' c') ∧
        OnlyRequest before request (authStage .upgrade c).state) := by
  have hw : OnlyRequest before request c.withoutStream :=
    h.imp (fun ⟨hq, _⟩ => ⟨hq, nofun⟩) fun ⟨hq, _⟩ => ⟨hq, nofun⟩
  have hstep : authStage .upgrade c = (upgradeToTls c).bind fun _ c => .ok .credentials c := rfl
  rw [hstep]
  obtain ⟨tls, hu⟩ | ⟨e, hu | hu⟩ | hu := upgradeToTls_cases c
  all_goals rw [hu]
  · exact .inl ⟨(c.withoutStream.setSocket tls).setSecure, rfl, rfl⟩
  · exact .inr ⟨fun _ _ h => (nomatch h), h⟩
  · exact .inr ⟨fun _ _ h => (nomatch h), hw⟩
  · exact .inr ⟨fun _ _ h => (nomatch h), hw⟩

section Guard

variable {before request : Bytes} {c₀ c c' : Connection} {k k' : Stage}

-- What holds at each stage. Either there will be TLS, and only the request for it has been made, or it is
-- settled that the channel is secure or need not be.
inductive Guard (before request : Bytes) (c₀ : Connection) : Stage → Connection → Prop
  | start : Guard before request c₀ .start c₀
  | asking {c : Connection} : OnlyRequest before request c →
    Guard before request c₀ (.write .upgrade) c
  | asked {c : Connection} : OnlyRequest before request c → Guard before request c₀ .upgrade c
  | settled {k : Stage} {c : Connection} : Settled k →
    c.inner.secure ∨ (c₀.inner.options.sslMode ≠ .required ∧ ¬c.inner.needsTlsUpgrade) →
    Guard before request c₀ k c

-- While the channel has to become secure but is not, there is nothing but the request.
def Guarded (before request : Bytes) (c₀ c : Connection) : Prop :=
  c.inner.secure = false → c₀.inner.options.sslMode = .required ∨ c.inner.needsTlsUpgrade →
    OnlyRequest before request c

-- How authentication starts on a fresh connection.
structure Fresh (before request : Bytes) (c₀ : Connection) : Prop where
  plain : c₀.inner.packetStream.compressed = false
  unsent : c₀.inner.packetStream.sendQueue = []
  undecided : c₀.inner.needsTlsUpgrade = false
  written : ∀ st ∈ c₀.stream, st.written = before
  request : ∀ charset, c₀.inner.charsetInfo = .ok charset →
    request = (plainPackets c₀.inner.packetStream.nextSeqId
      (handshakeHead (c₀.inner.clientFlag ||| SSL) charset)).1

omit [Libraries] [Crypto] [Host] [Tls] in
theorem Fresh.onlyRequest (h : Fresh before request c₀) : OnlyRequest before request c₀ :=
  .inl ⟨h.unsent, fun st hs => .inl (h.written st hs)⟩

theorem Fresh.start (h : Fresh before request c₀) :
    (∃ e, authStage .start c₀ = .error e c₀) ∨
      ∃ k c, authStage .start c₀ = .ok k c ∧ Guard before request c₀ k c := by
  obtain ⟨e, hs⟩ | ⟨_, charset, hc, hs⟩ | ⟨hw, payload, _, hs⟩ :=
    MySQL.Connection.requestAuthenticationStart_cases h.plain
  · exact .inl ⟨e, by rw [authStage, Proc.bind_apply, onInner_apply, hs]; rfl⟩
  · refine .inr ⟨_, _, by rw [authStage, Proc.bind_apply, onInner_apply, hs]; rfl, .asking ?_⟩
    refine .inr ⟨?_, h.written⟩
    rw [h.request charset hc]
    exact congrArg (· ++ _) h.unsent
  · have hk : authStage .start c₀ =
        .ok (.write (.loop .needRead)) (c₀.setInner (c₀.inner.sent payload .initial)) := by
      have hn : ¬(c₀.inner.sent payload .initial).needsTlsUpgrade := by simp [h.undecided]
      rw [authStage, Proc.bind_apply, onInner_apply, hs]
      simp only [Outcome.mapState_ok, Outcome.bind_ok, Proc.bind_apply, Proc.get_apply, setInner_inner, hn]
      rfl
    have hr : c₀.inner.options.sslMode ≠ .required := by
      intro hr
      simp only [MySQL.Connection.wantsTls, hr] at hw
      split_ifs at hw
      cases hw
    refine .inr ⟨_, _, hk, .settled .write (.inr ⟨hr, ?_⟩)⟩
    simp [h.undecided]

omit [Libraries] [Crypto] [Host] [Tls] in
theorem Guard.guarded (h : Guard before request c₀ k c) (hf : Fresh before request c₀) :
    Guarded before request c₀ c := by
  intro hs hn
  cases h
  case start     => exact hf.onlyRequest
  case asking h  => exact h
  case asked h   => exact h
  case settled h =>
    obtain hsec | ⟨hr, ht⟩ := h
    · exact nomatch hs.symm.trans hsec
    · obtain hn | hn := hn
      · exact absurd hn hr
      · exact absurd hn ht

theorem Guard.step (h : Guard before request c₀ k c) (hf : Fresh before request c₀)
    (hs : authStage k c = .ok k' c') :
    Guard before request c₀ k' c' := by
  cases h
  case start =>
    obtain ⟨_, he⟩ | ⟨_, _, he, hg⟩ := hf.start
    · exact nomatch he.symm.trans hs
    · obtain ⟨rfl, rfl⟩ := Outcome.ok.inj (he.symm.trans hs)
      exact hg
  case asking h =>
    have hw := h.write .upgrade
    rw [hs] at hw
    cases hq : c.inner.packetStream.sendQueue
    case nil =>
      have ⟨_, _, _, hk⟩ := Outcome.bind_eq_ok.mp ((authStage_write_nil hq).symm.trans hs)
      obtain ⟨rfl, _⟩ := Outcome.ok.inj hk
      exact .asked hw
    case cons =>
      have ⟨_, _, _, hk⟩ := Outcome.bind_eq_ok.mp ((authStage_write_cons hq).symm.trans hs)
      obtain ⟨rfl, _⟩ := Outcome.ok.inj hk
      exact .asking hw
  case asked h =>
    obtain ⟨_, hu, hsec⟩ | ⟨hu, _⟩ := h.upgrade
    · obtain ⟨rfl, rfl⟩ := Outcome.ok.inj (hu.symm.trans hs)
      exact .settled .credentials (.inl hsec)
    · exact absurd hs (hu _ _)
  case settled hk h =>
    have hm := hk.mode.keeps hs
    have hsec : c'.inner.secure = c.inner.secure := congrArg (·.2.1) hm
    have htls : c'.inner.needsTlsUpgrade = c.inner.needsTlsUpgrade := congrArg (·.2.2) hm
    exact .settled (hk.step hs) (by rwa [hsec, htls])

theorem Guard.stop (h : Guard before request c₀ k c) (hf : Fresh before request c₀)
    (hs : ∀ k' c', authStage k c ≠ .ok k' c') :
    Guarded before request c₀ (authStage k c).state := by
  cases h
  case start =>
    obtain ⟨_, he⟩ | ⟨_, _, he, _⟩ := hf.start
    · rw [he]
      exact fun _ _ => hf.onlyRequest
    · exact absurd he (hs _ _)
  case asking h => exact fun _ _ => h.write .upgrade
  case asked h  =>
    obtain ⟨_, hu, _⟩ | ⟨_, hu⟩ := h.upgrade
    · exact absurd hu (hs _ _)
    · exact fun _ _ => hu
  case settled hk h =>
    have hm := hk.mode c
    have hsec : (authStage k c).state.inner.secure = c.inner.secure := congrArg (·.2.1) hm
    have htls : (authStage k c).state.inner.needsTlsUpgrade = c.inner.needsTlsUpgrade := congrArg (·.2.2) hm
    exact Guard.guarded (.settled hk (by rwa [hsec, htls])) hf

theorem Fresh.guard (hf : Fresh before request c₀) (h : Reaches authStage .start c₀ k c) :
    Guard before request c₀ k c :=
  h.invariant (I := Guard before request c₀) .start fun hi hs => hi.step hf hs

theorem Fresh.guarded (hf : Fresh before request c₀) (h : Visits authStage .start c₀ c) :
    Guarded before request c₀ c :=
  h.invariant (I := Guard before request c₀) .start (fun hi hs => hi.step hf hs)
    (fun hi => hi.guarded hf) fun hi hs => hi.stop hf hs

omit [Libraries] [Crypto] [Host] [Tls] in
theorem handshakeHead_length (clientFlags : UInt32) (charset : Charset) :
    (handshakeHead clientFlags charset).length = 32 := by
  simp [handshakeHead, MySQL.Connection.uint32]

-- Whatever the server sends and whatever comes of the upgrade: where TLS is required or has been asked for,
-- nothing but the SSL request is queued or written before the channel is secure. And where it is required,
-- authentication does not succeed on a channel that is not secure.
theorem authenticate_guarded {options : ConnectOptions} {greeting : Bytes}
    (hg : Greeted options greeting c₀.inner) :
    ∃ charset, Charset.byName options.charset = some charset ∧
      let payload := handshakeHead (c₀.inner.clientFlag ||| SSL) charset
      let request := (plainPackets c₀.inner.packetStream.nextSeqId payload).1
      payload.length = 32 ∧
      Attains authStage .start c₀ (authenticate c₀) (fun _ => .loop .success) ∧
      (∀ c, Visits authStage .start c₀ c → Guarded c₀.written request c₀ c) ∧
      (∀ c, Reaches authStage .start c₀ (.loop .success) c → options.sslMode = .required → c.inner.secure) := by
  have ⟨charset, hb⟩ := hg.charset
  have hc : c₀.inner.charsetInfo = .ok charset := by
    rw [MySQL.Connection.charsetInfo, hg.options_eq, hb]
  have hf : Fresh c₀.written
      (plainPackets c₀.inner.packetStream.nextSeqId (handshakeHead (c₀.inner.clientFlag ||| SSL) charset)).1
      c₀ := {
    plain := hg.plain
    unsent := hg.unsent
    undecided := hg.needsTlsUpgrade_eq
    written := fun st hs => by rw [written, Option.mem_def.mp hs]; rfl
    request := fun charset' hc' => by rw [Except.ok.inj (hc.symm.trans hc')]
  }
  refine ⟨charset, hb, handshakeHead_length _ _, carryOut_authenticate c₀ .start,
    fun c hv => hf.guarded hv, fun c hr hreq => ?_⟩
  cases hf.guard hr
  case settled h => exact h.resolve_right fun ⟨hn, _⟩ => hn (hg.options_eq ▸ hreq)

end Guard
end Tokio.Connection

namespace Tokio.Connection

section Examples

open Staged
open MySQL.Connection (Greeted)

attribute [local instance] Libraries.utf8Only Crypto.transparent Host.initProcess

-- Handshakes do not fail, and bring nothing with them.
@[reducible]
def Tls.transparent : Tls where
  buildTlsConfig _ := .ok ()
  isIpAddr _ := false
  isDnsName _ := true
  handshake _ st := some (.ok st)

attribute [local instance] Tls.transparent

def requiredOptions : ConnectOptions where
  user := ['u']
  password := [112]
  sslMode := .required

theorem requiredSession_guarded :
    ∃ c₀ request, Greeted requiredOptions sha256Greeting c₀.inner ∧
      (∀ c, Visits authStage .start c₀ c → Guarded c₀.written request c₀ c) ∧
      (∀ c, Reaches authStage .start c₀ (.loop .success) c → c.inner.secure) := by
  have ⟨inner, hg⟩ : ∃ inner, Greeted requiredOptions sha256Greeting inner :=
    ⟨_, _, .alone 1 _, rfl, rfl, rfl⟩
  obtain ⟨c₀, hg⟩ : ∃ c₀ : Connection, Greeted requiredOptions sha256Greeting c₀.inner :=
    ⟨⟨inner, some ⟨[], [], [], none⟩, false⟩, hg⟩
  have ⟨_, _, _, _, hv, hr⟩ := authenticate_guarded hg
  exact ⟨c₀, _, hg, hv, fun c h => hr c h rfl⟩

end Examples
end Tokio.Connection
end MySQL
