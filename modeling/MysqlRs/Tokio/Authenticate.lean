import MysqlRs.Auth.Machine
import MysqlRs.Library.Stages
import MysqlRs.Tokio.Operations

namespace MySQL.Tokio

open ClientError

-- The TLS library and what it is configured with: whether there is a configuration, which names it takes for
-- addresses or host names, and what a handshake over a stream comes to (nothing, as long as the peer does
-- not go on).
class Tls where
  buildTlsConfig : ConnectOptions → Except Error Unit
  isIpAddr : Text → Bool
  isDnsName : Text → Bool
  handshake : ConnectOptions → ConnectionStream → Option (Except String ConnectionStream)

def stripBrackets (host : Text) : Text :=
  match host with
  | '[' :: rest => if rest.getLast? = some ']' then rest.dropLast else host
  | host        => host

def serverNameFromHost [Tls] (host : Text) : Except Error Unit :=
  let host := stripBrackets host
  if Tls.isIpAddr host || Tls.isDnsName host then .ok ()
  else .error (.operationalError CR_SSL_CONNECTION_ERROR "Invalid server hostname for TLS")

namespace Connection

-- The stream has been taken out.
@[simps]
def withoutStream (c : Connection) : Connection :=
  { c with stream := none }

@[simps!]
def setSecure (c : Connection) : Connection :=
  c.setInner { c.inner with secure := true }

-- Where the host is a path, the stream is a Unix domain socket.
def upgradeToTls [Tls] : Proc Error Connection Unit := do
  let options := (← get).inner.options
  Proc.ofExcept (Tls.buildTlsConfig options)
  Proc.ofExcept (serverNameFromHost options.host)
  match (← get).stream with
  | none    => Proc.throw (.interfaceError CR_NULL_POINTER "No stream to upgrade")
  | some st =>
    modify withoutStream
    if (← get).inner.secure then
      Proc.throw (.interfaceError CR_SSL_CONNECTION_ERROR "Already TLS")
    else if options.host.head? = some '/' then
      Proc.throw (.interfaceError CR_SSL_CONNECTION_ERROR
        "TLS upgrade is not supported on Unix domain sockets")
    else
      match Tls.handshake options st with
      | none             => fun c => .pending c
      | some (.error e)  =>
        Proc.throw (.operationalError CR_SSL_CONNECTION_ERROR s!"TLS handshake failed: {e}")
      | some (.ok tls)   => modify fun c => (c.setSocket tls).setSecure

-- What comes of an upgrade. The stream is gone unless it succeeds or has not even begun.
theorem upgradeToTls_cases [Tls] (c : Connection) :
    (∃ tls, upgradeToTls c = .ok () (c.withoutStream.setSocket tls).setSecure) ∨
    (∃ e, upgradeToTls c = .error e c ∨ upgradeToTls c = .error e c.withoutStream) ∨
    upgradeToTls c = .pending c.withoutStream := by
  rw [upgradeToTls]
  simp only [Proc.bind_apply, Proc.get_apply, Outcome.bind_ok]
  cases Tls.buildTlsConfig c.inner.options
  case error e => exact .inr (.inl ⟨e, .inl rfl⟩)
  case ok =>
    simp only [Proc.ofExcept_ok, Proc.bind_apply, Proc.pure_apply, Outcome.bind_ok]
    cases serverNameFromHost c.inner.options.host
    case error e => exact .inr (.inl ⟨e, .inl rfl⟩)
    case ok =>
      simp only [Proc.ofExcept_ok, Proc.bind_apply, Proc.pure_apply, Proc.get_apply, Outcome.bind_ok]
      cases hs : c.stream
      case none    => exact .inr (.inl ⟨_, .inl rfl⟩)
      case some st =>
        simp only [Proc.bind_apply, Proc.modify_apply, Proc.get_apply, Outcome.bind_ok]
        split_ifs
        · exact .inr (.inl ⟨_, .inr rfl⟩)
        · exact .inr (.inl ⟨_, .inr rfl⟩)
        · cases Tls.handshake c.inner.options st
          case none        => exact .inr (.inr rfl)
          case some result =>
            cases result
            case error => exact .inr (.inl ⟨_, .inr rfl⟩)
            case ok    => exact .inl ⟨_, rfl⟩

variable [Libraries] [Crypto] [Host]

omit [Crypto] [Host] [Libraries] in
theorem keeps_reads {α : Type} (x : Proc Error MySQL.Connection α) : (onInner x).Keeps reads :=
  .zoom (g := fun _ => ()) (fun _ _ _ _ => rfl) fun _ _ _ => rfl

-- How many rounds there are at most: each of them reads, but for writing in between.
def rounds (state : AuthState) (c : Connection) : Nat ×ₗ Nat :=
  toLex (c.reads, if state = .send then 1 else 0)

def authLoop (state : AuthState) : Proc Error Connection Unit := fun c =>
  match state with
  | .needRead =>
    match _h : (pumpRead >>= fun _ => onInner MySQL.Connection.requestAuthenticationContinue) c with
    | .ok state c => authLoop state c
    | .error e c  => .error e c
    | .pending c  => .pending c
  | .send     =>
    match _h : pumpWrite c with
    | .ok () c   => authLoop .needRead c
    | .error e c => .error e c
    | .pending c => .pending c
  | .success  => .ok () c
termination_by c => rounds state c
decreasing_by
  · have ⟨_, _, hr, hs⟩ := Outcome.bind_eq_ok.mp _h
    exact Prod.Lex.toLex_lt_toLex.mpr (.inl (keeps_reads _ hs ▸ pumpRead_lt hr))
  · have hr := congrArg (fun r => (ofLex r).1) (keeps_pumpWrite _h)
    exact Prod.Lex.toLex_lt_toLex.mpr (.inr ⟨hr, Nat.zero_lt_one⟩)

theorem authLoop_needRead :
    authLoop .needRead = pumpRead >>= fun _ =>
      onInner MySQL.Connection.requestAuthenticationContinue >>= authLoop := by
  funext c
  have hb := Outcome.bind_assoc (pumpRead c)
    (fun _ => onInner MySQL.Connection.requestAuthenticationContinue) authLoop
  rw [authLoop, Proc.bind_apply]
  refine Eq.trans ?_ hb
  rw [← Proc.bind_apply]
  split <;> rename_i h <;> rw [h] <;> rfl

theorem authLoop_send : authLoop .send = pumpWrite >>= fun _ => authLoop .needRead := by
  funext c
  rw [authLoop, Proc.bind_apply]
  split <;> rename_i h <;> rw [h] <;> rfl

theorem authLoop_success (c : Connection) : authLoop .success c = .ok () c := by
  rw [authLoop]

variable [Tls]

def authenticate : Proc Error Connection Unit := do
  let state ← onInner MySQL.Connection.requestAuthenticationStart
  if (← get).inner.needsTlsUpgrade then
    pumpWrite
    upgradeToTls
    let state ← onInner MySQL.Connection.requestAuthenticationSendCredentials
    pumpWrite
    authLoop state
  else
    pumpWrite
    authLoop state

-- Where `authenticate` can be interrupted or fail.
inductive Stage
  | start
  | write (next : Stage)
  | upgrade
  | credentials
  | loop (state : AuthState)
  | received

-- One step of `authenticate`. Writing takes one packet off the queue at a time.
def authStage : Staged Error Connection Stage
  | .start          => do
    let state ← onInner MySQL.Connection.requestAuthenticationStart
    if (← get).inner.needsTlsUpgrade then return .write .upgrade
    else return .write (.loop state)
  | .write next     => do
    match (← get).inner.packetStream.sendQueue with
    | data :: queue =>
      modify (·.setSendQueue queue)
      writeAll data
      return .write next
    | []            =>
      flush
      return next
  | .upgrade        => do
    upgradeToTls
    return .credentials
  | .credentials    => do
    let state ← onInner MySQL.Connection.requestAuthenticationSendCredentials
    return .write (.loop state)
  | .loop .needRead => do
    pumpRead
    return .received
  | .loop .send     => return .write (.loop .needRead)
  | .loop .success  => return .loop .success
  | .received       => do
    let state ← onInner MySQL.Connection.requestAuthenticationContinue
    return .loop state

section Stages

variable {k₀ : Stage} {c₀ : Connection}

open Staged

omit [Libraries] [Crypto] [Host] [Tls] in
theorem writeAll_ok {data : Bytes} {c c' : Connection} (h : writeAll data c = .ok () c') :
    ∃ st, c.stream = some st ∧ c' = c.setSocket { st with written := st.written ++ data } := by
  rw [writeAll] at h
  split at h
  case h_1       => cases h
  case h_2 st hs =>
    split at h
    case h_1 => cases h
    case h_2 => exact ⟨st, hs, (Outcome.ok.inj h).right.symm⟩

theorem authStage_write_cons {next : Stage} {c : Connection} {data : Bytes} {queue : List Bytes}
    (h : c.inner.packetStream.sendQueue = data :: queue) :
    authStage (.write next) c =
      (writeAll data (c.setSendQueue queue)).bind fun _ c => .ok (.write next) c := by
  simp only [authStage, Proc.bind_apply, Proc.get_apply, Outcome.bind_ok, h]
  rfl

theorem authStage_write_nil {next : Stage} {c : Connection}
    (h : c.inner.packetStream.sendQueue = []) :
    authStage (.write next) c = (flush c).bind fun _ c => .ok next c := by
  simp only [authStage, Proc.bind_apply, Proc.get_apply, Outcome.bind_ok, h]
  rfl

theorem carryOut_pumpWrite (next : Stage) :
    CarryOut authStage k₀ c₀ pumpWrite (.write next) fun _ => next := by
  intro c hc
  rw [pumpWrite, Proc.bind_apply, Proc.get_apply, Outcome.bind_ok]
  generalize hq : c.inner.packetStream.sendQueue = queue
  induction queue generalizing c
  case nil => exact .of_step hc (authStage_write_nil hq)
  case cons data queue ih =>
    have hs : Attains authStage k₀ c₀ (writeAll data (c.setSendQueue queue)) fun _ => .write next :=
      .of_step hc (authStage_write_cons hq)
    rw [writeQueue]
    simp only [Proc.bind_apply, Proc.modify_apply, Outcome.bind_ok, Outcome.bind_assoc]
    refine hs.bind fun _ c' hw hc' => ih c' hc' ?_
    obtain ⟨_, _, hc'⟩ := writeAll_ok hw
    exact hc' ▸ rfl

theorem carryOut_round :
    CarryOut authStage k₀ c₀ (pumpRead >>= fun _ => onInner MySQL.Connection.requestAuthenticationContinue)
      (.loop .needRead) .loop :=
  have read : CarryOut authStage k₀ c₀ pumpRead (.loop .needRead) fun _ => .received :=
    .of_step fun _ => rfl
  read.bind fun _ => .of_step fun _ => rfl

theorem carryOut_authLoop (state : AuthState) :
    CarryOut authStage k₀ c₀ (authLoop state) (.loop state) fun _ => .loop .success := by
  intro c hc
  fun_induction authLoop state c
  case case1 h ih => exact ih ((carryOut_round _ hc).left _ _ h)
  case case2 h =>
    have ha := carryOut_round _ hc
    rw [h] at ha
    exact .error ha.right
  case case3 h =>
    have ha := carryOut_round _ hc
    rw [h] at ha
    exact .pending ha.right
  case case4 c _ h ih =>
    have hw : authStage (.loop .send) c = .ok (.write (.loop .needRead)) c := rfl
    exact ih ((carryOut_pumpWrite (.loop .needRead) _ (hc.step hw)).left _ _ h)
  case case5 c _ _ h =>
    have hw : authStage (.loop .send) c = .ok (.write (.loop .needRead)) c := rfl
    have ha := carryOut_pumpWrite (.loop .needRead) _ (hc.step hw)
    rw [h] at ha
    exact .error ha.right
  case case6 c _ h =>
    have hw : authStage (.loop .send) c = .ok (.write (.loop .needRead)) c := rfl
    have ha := carryOut_pumpWrite (.loop .needRead) _ (hc.step hw)
    rw [h] at ha
    exact .pending ha.right
  case case7 =>
    refine ⟨fun _ c' h => ?_, .at hc⟩
    obtain ⟨_, rfl⟩ := Outcome.ok.inj h
    exact hc

theorem carryOut_tls :
    CarryOut authStage k₀ c₀ (do
        pumpWrite
        upgradeToTls
        let state ← onInner MySQL.Connection.requestAuthenticationSendCredentials
        pumpWrite
        authLoop state)
      (.write .upgrade) fun _ => .loop .success := by
  have upgrade : CarryOut authStage k₀ c₀ upgradeToTls .upgrade fun _ => .credentials :=
    .of_step fun _ => rfl
  have credentials : CarryOut authStage k₀ c₀
      (onInner MySQL.Connection.requestAuthenticationSendCredentials) .credentials
      fun state => .write (.loop state) := .of_step fun _ => rfl
  refine (carryOut_pumpWrite .upgrade).bind fun _ => upgrade.bind fun _ => credentials.bind fun state => ?_
  exact (carryOut_pumpWrite (.loop state)).bind fun _ => carryOut_authLoop state

-- The steps are what `authenticate` does.
theorem carryOut_authenticate :
    CarryOut authStage k₀ c₀ authenticate .start fun _ => .loop .success := by
  intro c hc
  have hv := Visits.stop hc
  have hstep : authStage .start c =
      (onInner MySQL.Connection.requestAuthenticationStart c).bind fun state c =>
        .ok (.write (if c.inner.needsTlsUpgrade then .upgrade else .loop state)) c := by
    rw [authStage, Proc.bind_apply]
    refine congrArg _ (funext fun state => funext fun c => ?_)
    rw [Proc.bind_apply, Proc.get_apply, Outcome.bind_ok]
    split_ifs <;> rfl
  rw [authenticate, Proc.bind_apply]
  cases hx : onInner MySQL.Connection.requestAuthenticationStart c
  case ok state c₁ =>
    rw [hx, Outcome.bind_ok] at hstep
    have hc₁ := hc.step hstep
    rw [Outcome.bind_ok, Proc.bind_apply, Proc.get_apply, Outcome.bind_ok]
    by_cases hn : c₁.inner.needsTlsUpgrade
    case pos =>
      rw [if_pos hn] at hc₁
      rw [if_pos hn]
      exact carryOut_tls c₁ hc₁
    case neg =>
      rw [if_neg hn] at hc₁
      rw [if_neg hn]
      exact (carryOut_pumpWrite (.loop state)).bind (fun _ => carryOut_authLoop state) c₁ hc₁
  case error e c₁ =>
    rw [hstep, hx] at hv
    exact .error hv
  case pending c₁ =>
    rw [hstep, hx] at hv
    exact .pending hv

-- What is left to do at a stage.
def rest : Stage → Proc Error Connection Unit
  | .start       => authenticate
  | .write next  => pumpWrite >>= fun _ => rest next
  | .upgrade     => upgradeToTls >>= fun _ => do
    let state ← onInner MySQL.Connection.requestAuthenticationSendCredentials
    pumpWrite
    authLoop state
  | .credentials => do
    let state ← onInner MySQL.Connection.requestAuthenticationSendCredentials
    pumpWrite
    authLoop state
  | .loop state  => authLoop state
  | .received    => onInner MySQL.Connection.requestAuthenticationContinue >>= authLoop

theorem rest_write (next : Stage) (c : Connection) :
    rest (.write next) c = (authStage (.write next) c).bind rest := by
  rw [rest, pumpWrite, Proc.bind_apply, Proc.bind_apply, Proc.get_apply, Outcome.bind_ok]
  cases hq : c.inner.packetStream.sendQueue
  case nil =>
    rw [authStage_write_nil hq, Outcome.bind_assoc]
    rfl
  case cons data queue =>
    rw [authStage_write_cons hq, writeQueue]
    simp only [Proc.bind_apply, Proc.modify_apply, Outcome.bind_ok, Outcome.bind_assoc]
    cases hw : writeAll data (c.setSendQueue queue)
    case ok c' =>
      obtain ⟨_, _, hc'⟩ := writeAll_ok hw
      have hq' : c'.inner.packetStream.sendQueue = queue := hc' ▸ rfl
      simp only [Outcome.bind_ok, rest, pumpWrite, Proc.bind_apply, Proc.get_apply, hq',
        Outcome.bind_assoc]
    all_goals rfl

theorem rest_step (k : Stage) (c : Connection) : rest k c = (authStage k c).bind rest := by
  cases k
  case write next => exact rest_write next c
  case start      =>
    rw [rest, authenticate, authStage, Proc.bind_apply, Proc.bind_apply, Outcome.bind_assoc]
    refine congrArg _ (funext fun state => funext fun c => ?_)
    rw [Proc.bind_apply, Proc.bind_apply, Proc.get_apply, Outcome.bind_ok, Outcome.bind_ok]
    split_ifs <;> rfl
  case loop state =>
    cases state
    case needRead =>
      rw [rest, authLoop_needRead]
      simp only [authStage, Proc.bind_apply, Outcome.bind_assoc]
      rfl
    case send     => rw [rest, authLoop_send]; rfl
    case success  => rfl
  all_goals
    simp only [rest, authStage, Proc.bind_apply, Outcome.bind_assoc]
    rfl

-- However far it has got, doing the rest is what has been begun.
theorem rest_of_reaches {k : Stage} {c : Connection} (h : Reaches authStage k₀ c₀ k c) :
    rest k₀ c₀ = rest k c := by
  induction h
  case start      => rfl
  case step hs ih => rw [ih, rest_step, hs, Outcome.bind_ok]

end Stages
end Connection
end MySQL.Tokio
