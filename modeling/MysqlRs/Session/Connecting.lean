import MysqlRs.Auth.Login

namespace MySQL

open Client Command PacketStream

namespace Connection

-- What does not come from the greeting.
def own (c : Connection) : Connection :=
  { c with
    protocolVersion := 0
    serverVersion := []
    serverThreadId := 0
    serverCapabilities := 0
    serverLanguage := 0
    serverCharset := none
    serverStatus := 0
    salt := []
    authPluginName := .dialog }

theorem apart_own : Apart own where
  greeting _ _ _ _ _ _ _ _ := rfl
  salt _ _                  := rfl
  plugin _ _                := rfl

-- The greeting is taken from the queue, and leaves the rest alone.
theorem getServerInformation_own {c x : Connection} {p : MysqlPacket} {ps : List MysqlPacket}
    (hq : c.packetStream.recvQueue = p :: ps) (h : getServerInformation c = .ok () x) :
    x.own = (c.setStream { c.packetStream with recvQueue := ps }).own := by
  obtain ⟨k, hk, hf⟩ := getServerInformation_apart
  rw [hk, Proc.bind_apply, readPacket_cons hq, Outcome.bind_ok] at h
  exact (hf apart_own p).keeps h

end Connection

namespace Tokio.Connection

open MySQL.Connection (Attainable Knows Talks)

variable [Libraries] [Crypto] [Host] [Tls] {options : ConnectOptions} {charset : Charset} {greeting : Bytes}
  {pieces : List Bytes} {answers : List (List ReadEvent)} {inner x : MySQL.Connection} {c c' : Connection}
  {s : MySQL.Authority} {a : MySQL.Account}

omit [Libraries] [Crypto] [Host] [Tls] in
theorem greeted_unbegun (hi : MySQL.Connection.connect options = .ok inner)
    (hg : MySQL.Connection.getServerInformation (inner.setStream (inner.packetStream.took greeting)) = .ok () x)
    (answers : List (List ReadEvent)) :
    (greeted x answers).Unbegun ∧ x.result = none ∧ x.packetStream.maxAllowedPacket = options.maxAllowedPacket := by
  have hown := MySQL.Connection.getServerInformation_own rfl hg
  rw [MySQL.Connection.connect] at hi
  cases hk : MySQL.Connection.checkOptions options
  case error e =>
    rw [hk] at hi
    cases hi
  case ok charset =>
    rw [hk] at hi
    obtain rfl := Except.ok.inj hi
    have hs : x.packetStream = _ := congrArg (·.packetStream) hown
    refine ⟨⟨⟨congrArg (·.closed) hown, ?_, _, rfl, rfl⟩, ⟨?_, ?_, ?_, ?_⟩, congrArg (·.needsTlsUpgrade) hown,
      congrArg (·.secure) hown⟩, congrArg (·.result) hown, by rw [hs]; rfl⟩
    all_goals
      rw [greeted, hs]
      rfl

omit [Libraries] [Crypto] [Host] [Tls] in
theorem fresh_stream (hi : MySQL.Connection.connect options = .ok inner) :
    inner.packetStream = .new options.maxAllowedPacket := by
  rw [MySQL.Connection.connect] at hi
  cases hk : MySQL.Connection.checkOptions options
  case error e =>
    rw [hk] at hi
    cases hi
  case ok charset =>
    rw [hk] at hi
    obtain rfl := Except.ok.inj hi
    rfl

-- First the greeting is read.
theorem setUp_greeted (hi : MySQL.Connection.connect options = .ok inner)
    (hp : Cut options.maxAllowedPacket 0 [greeting] pieces) (he : ¬IsError greeting)
    (hg : MySQL.Connection.getServerInformation (inner.setStream (inner.packetStream.took greeting)) = .ok () x) :
    setUp options ⟨inner, some ⟨pieces.map .ok, answers, [], none⟩, false⟩ =
      (authenticate (greeted x answers)).bind fun _ c =>
        postConnectSetup options
          (if options.compress ∧ c.inner.serverCapabilities &&& COMPRESS ≠ 0 then c.setInner c.inner.enableCompression
          else c) := by
  have hs := fresh_stream hi
  have hidle : Idle inner.packetStream := by
    rw [hs]
    exact ⟨rfl, rfl, rfl, rfl⟩
  have hcut : Cut inner.packetStream.maxAllowedPacket inner.packetStream.nextSeqId [greeting] pieces := by
    rw [hs]
    exact hp
  have hread := pumpRead_single [] answers [] false hp.nonempty hidle.queue (idle_expecting hidle hcut)
    (by simpa [hidle.buffer] using hp.clean) he
  rw [List.append_nil] at hread
  rw [setUp, Proc.bind_apply, hread, Outcome.bind_ok, Proc.bind_apply, onInner_apply]
  simp only [hg, Outcome.mapState_ok, Outcome.bind_ok, Proc.bind_apply]
  refine congrArg _ (funext fun _ => funext fun c => ?_)
  rw [Proc.bind_apply, Proc.get_apply, Outcome.bind_ok]
  split_ifs
  · rfl
  · rfl

-- A client whose password the server accepts is set up: it sends its response to the greeting, what it is asked for
-- after that, and the statements of the setup, and can then be used. It fails if a statement of the setup does.
theorem setUp_outcome (h₂ : ∀ m, (Crypto.sha256 m).length = 32) (hi : MySQL.Connection.connect options = .ok inner)
    (hp : Cut options.maxAllowedPacket 0 [greeting] pieces) (he : ¬IsError greeting)
    (hg : MySQL.Connection.getServerInformation (inner.setStream (inner.packetStream.took greeting)) = .ok () x)
    (h : Presents (greeted x answers) c c') (hk : Knows s a c.inner) (hs : c.inner.Speaks)
    (hf : Attainable a (s.nonceFor a c.inner) c.inner)
    (hgrants : a.grants (s.nonceFor a c.inner) c.inner.options.password = true)
    (hcompress : ¬(options.compress ∧ c.inner.serverCapabilities &&& COMPRESS ≠ 0)) (hn : Nameable options charset) :
    ∃ (payload : Bytes) (said : List Bytes) (y : MySQL.Connection), Presented (greeted x answers) c c' payload ∧
      Talks (s.serve .greeted (payload :: said)) said (c.inner.setAuthPhase .initial) (.ok y) ∧
      ∀ (scripts rest : List (List ReadEvent)) (written : Bytes) (z : Exchange) (zs : List Exchange),
        c.stream = some ⟨[], scripts ++ ((z :: zs).map (·.pieces.map .ok) ++ rest), written, none⟩ →
        Scripted options.maxAllowedPacket (plainPackets c.inner.packetStream.nextSeqId payload).2
          (s.serve .greeted (payload :: said)) said scripts →
        (∀ w ∈ z :: zs, w.Orderly options.maxAllowedPacket) →
        (z :: zs).map (·.sql) = namesQuery options :: setupQueries options y →
        ((∃ d, z.response = .ok d) ∨ ∃ body, z.response = .err body) →
        match (z :: zs).findSome? (·.response.fault) with
        | none   => ∃ c₁, setUp options ⟨inner, some ⟨pieces.map .ok, answers, [], none⟩, false⟩ = .ok () c₁ ∧
          c₁.Ready ∧ c₁.answers = rest ∧ c₁.written = written ++ spoken c.inner.packetStream.nextSeqId
            ([] :: s.serve .greeted (payload :: said)) (payload :: said) ++ queryPackets ((z :: zs).map (·.sql))
        | some e => ∃ c₁, setUp options ⟨inner, some ⟨pieces.map .ok, answers, [], none⟩, false⟩ = .error e c₁ := by
  obtain ⟨hu, hresult, hmax⟩ := greeted_unbegun hi hg answers
  obtain ⟨payload, said, r, hpres, hd, ht, hstand, hends⟩ := h.ends h₂ hk hs hf hu
  rw [hgrants, MySQL.Connection.Decided, if_pos rfl] at hd
  obtain ⟨y, rfl⟩ := hd
  have hmax : c.inner.packetStream.maxAllowedPacket = options.maxAllowedPacket := hpres.max.trans hmax
  have hstand := hstand y rfl
  refine ⟨payload, said, y, hpres, ht, fun scripts rest written z zs hst ha ho hq hr => ?_⟩
  obtain ⟨seq, hauth⟩ := (hends scripts _ written hst (by rw [hmax]; exact ha)).left y rfl
  have hcaps : y.serverCapabilities = c.inner.serverCapabilities := congrArg (·.serverCapabilities) hstand
  have hclosed : y.closed = false := (congrArg (·.closed) hstand).trans (hpres.open_.trans hu.open_)
  have hnone : y.result = none := (congrArg (·.result) hstand).trans (hpres.result.trans hresult)
  generalize written ++ spoken c.inner.packetStream.nextSeqId
    ([] :: s.serve .greeted (payload :: said)) (payload :: said) = written' at hauth ⊢
  have hready : Ready ⟨y.setStream { c.inner.packetStream with nextSeqId := seq },
      some ⟨[], (z :: zs).map (·.pieces.map .ok) ++ rest, written', none⟩, c.transactionDirty⟩ := {
    open_    := hclosed
    sent     := hpres.sent
    stream   := ⟨_, rfl, rfl⟩
    idle     := idle_seq hpres.idle seq
    incoming := rfl
    result   := by
      intro r hr
      rw [MySQL.Connection.setStream_result, hnone] at hr
      cases hr
  }
  rw [← hmax] at ho
  have hsetup := hready.postConnectSetup_outcome hn (rfl : _ = (z :: zs).map (·.pieces.map .ok) ++ rest) ho hq hr
  rw [setUp_greeted hi hp he hg, hauth, Outcome.bind_ok,
    if_neg (by rw [MySQL.Connection.setStream_serverCapabilities, hcaps]; exact hcompress)]
  generalize postConnectSetup options _ = o at hsetup
  cases hfault : (z :: zs).findSome? (·.response.fault)
  case some e =>
    rw [hfault] at hsetup
    exact hsetup
  case none   =>
    rw [hfault] at hsetup
    obtain ⟨c₁, hc₁, hx⟩ := hsetup
    refine ⟨c₁, hc₁, hx.ready, hx.answers.trans (List.drop_left' ?_), ?_⟩
    · rw [List.length_map]
      exact (List.length_map _).symm.trans (congrArg List.length hq)
    · rw [hx.written, hq]
      rfl

end Tokio.Connection

section Examples

open Server Tokio Tokio.Connection

attribute [local instance] Libraries.utf8Only Crypto.recorded Host.initProcess Tls.transparent

def loginExchanges : List Exchange :=
  ["SET NAMES utf8mb4".toList, "SET AUTOCOMMIT = 0".toList].map fun sql => .inTwo sql (.ok done) 1

theorem login_setUp :
    ∃ c, setUp loginOptions ⟨loginInner, some ⟨[.ok (framed 0 [loginGreeting])],
      loginReads :: loginExchanges.map (·.pieces.map .ok), [], none⟩, false⟩ = .ok () c ∧ c.Ready := by
  have hne : framed 0 [loginGreeting] ≠ [] := by
    rw [← List.length_pos_iff, framed_length]
    decide
  have hcut : Cut loginOptions.maxAllowedPacket 0 [loginGreeting] [framed 0 [loginGreeting]] :=
    .of_short (by simpa using hne.symm) List.flatten_singleton (by decide) (by decide) (by decide)
  have hn : Nameable loginOptions ⟨45, "utf8mb4", true⟩ := ⟨rfl, fun c hc => (by cases hc)⟩
  have ho : ∀ w ∈ loginExchanges, w.Orderly loginOptions.maxAllowedPacket := by
    intro w hw
    obtain ⟨sql, _, rfl⟩ := List.mem_map.mp hw
    exact Exchange.inTwo_orderly 1 (by decide) (by decide) (by decide) (by decide)
  obtain ⟨c', h⟩ := login_presents (loginReads :: loginExchanges.map (·.pieces.map .ok))
  obtain ⟨payload, said, y, hp, ht, hrun⟩ := setUp_outcome (s := loginAuthority) (a := loginAccount)
    recordedSha256_length (rfl : Connection.connect loginOptions = .ok loginInner) hcut (by decide) rfl h login_knows
    login_speaks login_attainable (login_grants _) (by rintro ⟨⟨⟩, _⟩) hn
  have hrun := hrun [loginReads] [] [] _ _ rfl (login_scripted hp.carries ⟨_, ht⟩) ho rfl (.inl ⟨done, rfl⟩)
  obtain ⟨c, hc, hr, _⟩ := hrun
  exact ⟨c, hc, hr⟩

end Examples
end MySQL
