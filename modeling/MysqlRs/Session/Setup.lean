import MysqlRs.Session.CaughtUp
import MysqlRs.Tokio.Connect
import MysqlRs.Tokio.Status

namespace MySQL

open Command PacketStream

-- The error that a response comes to.
def Server.Response.fault : Server.Response → Option Error
  | .ok _ | .set _                 => none
  | .err body | .aborted _ _ body => some (Error.raiseMysqlException (Server.errPayload body))

namespace Tokio

open Server

-- What is asked for the character set.
def namesQuery (options : ConnectOptions) : Text :=
  match options.collation with
  | some c => "SET NAMES ".toList ++ options.charset ++ " COLLATE ".toList ++ c
  | none   => "SET NAMES ".toList ++ options.charset

-- The other statements of the setup. They depend on how the connection escapes a string.
def setupQueries (options : ConnectOptions) (i : MySQL.Connection) : List Text :=
  (options.sqlMode.map fun mode => "SET sql_mode='".toList ++ i.escapeString mode ++ ['\'']).toList ++
    options.initCommand.toList ++
    (options.autocommit.map fun on => "SET AUTOCOMMIT = ".toList ++ (if on then ['1'] else ['0'])).toList

-- The packets of queries, one after another.
def queryPackets (sqls : List Text) : Bytes :=
  sqls.flatMap fun sql => (plainPackets 0 (COM_QUERY :: sql.asBytes)).1

-- The options whose character set can be asked for.
structure Nameable (options : ConnectOptions) (charset : Charset) : Prop where
  charset   : Charset.byName options.charset = some charset
  collation : ∀ c ∈ options.collation, c.all fun ch => ch.isAlphanum || ch = '_'

namespace Connection

variable [Libraries]

def setNames (options : ConnectOptions) : Proc Error Connection Unit := do
  onInner (MySQL.Connection.setCharacterSet options.charset options.collation)
  pumpWrite
  let _ ← readOkPacket

def queryEach : List Text → Proc Error Connection Unit
  | []          => pure ()
  | sql :: sqls => do
    let _ ← query sql false
    queryEach sqls

theorem queryEach_append (sqls sqls' : List Text) (c : Connection) :
    queryEach (sqls ++ sqls') c = (queryEach sqls c).bind fun _ => queryEach sqls' := by
  induction sqls generalizing c
  case nil            => rfl
  case cons sql _ ih =>
    rw [List.cons_append, queryEach, queryEach, Proc.bind_apply, Proc.bind_apply, Outcome.bind_assoc]
    exact congrArg _ (funext fun _ => funext fun c => ih c)

theorem queryIf_eq (sql : Option Text) : queryIf sql = queryEach sql.toList := by
  cases sql
  case none     => rfl
  case some sql => rfl

-- The setup asks for the character set, and then makes its queries.
theorem postConnectSetup_eq (options : ConnectOptions) (c : Connection) :
    postConnectSetup options c = (setNames options c).bind fun _ c =>
      queryEach (setupQueries options c.inner) c := by
  simp only [postConnectSetup, setNames, setupQueries, queryIf_eq, queryEach_append, Proc.bind_apply,
    Proc.pure_apply, Outcome.bind_assoc, Outcome.bind_ok]
  rfl

omit [Libraries] in
theorem errorAlone_of_fault {r : Response} (h : r.fault = none) (pieces : List Bytes) :
    ErrorAlone r.payloads pieces := by
  cases r
  case ok d  => exact errorAlone_of_none (List.forall_mem_singleton.mpr d.not_error)
  case set s => exact errorAlone_of_none s.not_error
  all_goals cases h

-- Whether a query succeeds is up to the response.
theorem received_outcome {i : MySQL.Connection} {r : Response} {o : Outcome Error Connection Int64}
    (h : Received i r o) :
    match r.fault with
    | none   => ∃ n, o = .ok n o.state
    | some e => o = .error e o.state := by
  cases r
  case ok | set =>
    obtain ⟨c, rfl, _⟩ := h
    exact ⟨_, rfl⟩
  case err | aborted =>
    obtain ⟨c, rfl⟩ := h
    rfl

-- What queries leave: nothing is outstanding, their answers are used up, and they have been written.
structure Executed (c c' : Connection) (sqls : List Text) : Prop where
  ready   : c'.Ready
  alike   : Alike c'.inner c.inner
  answers : c'.answers = c.answers.drop sqls.length
  written : c'.written = c.written ++ queryPackets sqls

-- The connection that asks for its character set.
def named (c : Connection) (options : ConnectOptions) (charset : Charset) : Connection :=
  c.setInner {
    c.inner with
    encoding := charset.encoding
    options := { c.inner.options with charset := options.charset, collation := options.collation }
  }

variable {c c' : Connection} {options : ConnectOptions} {charset : Charset} {d : Ok} {pieces : List Bytes}
  {command : UInt8} {sql : Bytes}

omit [Libraries] in
theorem Executed.refl (h : c.Ready) : Executed c c [] :=
  ⟨h, ⟨rfl, rfl, rfl, rfl⟩, rfl, (List.append_nil _).symm⟩

omit [Libraries] in
theorem Executed.trans {c₁ c₂ c₃ : Connection} {sqls sqls' : List Text} (h : Executed c₁ c₂ sqls)
    (h' : Executed c₂ c₃ sqls') : Executed c₁ c₃ (sqls ++ sqls') where
  ready   := h'.ready
  alike   := h'.alike.trans h.alike
  answers := by rw [h'.answers, h.answers, List.drop_drop, List.length_append]
  written := by
    rw [h'.written, h.written, List.append_assoc, queryPackets, queryPackets, queryPackets, List.flatMap_append]

omit [Libraries] in
theorem afterCommand_written (c : Connection) (command : UInt8) (sql : Bytes) :
    (c.afterCommand command sql).written = c.written ++ (plainPackets 0 (command :: sql)).1 :=
  rfl

-- The OK packet that answers a command is all that there is to read.
theorem Ready.readOkPacket_ok (h : c.Ready) (ha : c.answers.head? = some (pieces.map .ok))
    (hp : Cut c.inner.packetStream.maxAllowedPacket (answerSeq command sql) [d.payload] pieces) :
    ∃ c' a, readOkPacket (c.afterCommand command sql) = .ok d.wrapper c' ∧
      Awaiting (c.afterCommand command sql).outline c' a ∧ a.all = [] := by
  have hall : (Arrivals.mk [] (batches [d.payload] 0 pieces)).all = [d.payload] := by
    rw [Arrivals.all, hp.batches_flatten]
    rfl
  obtain ⟨a, hsup⟩ := Arrivals.supplies_take (hall.symm ▸ List.forall_mem_singleton.mpr d.not_error :
    ∀ p ∈ (Arrivals.mk [] (batches [d.payload] 0 pieces)).all, ¬IsError p) 1
  have hrest := Arrivals.supplies_all hsup
  rw [hall] at hsup hrest
  obtain ⟨⟩ | ⟨hn, ⟨⟩⟩ := hsup
  obtain ⟨_, c', hr, rfl, hw⟩ := (hn ▸ awaiting_simulates _ (h.awaiting ha hp)).of_ok
  have hd : (MysqlPacket.new d.payload).run OkPacketWrapper.fromPacket = (pure d.wrapper : Proc Error Connection _) :=
    d.run (hp.small _ List.mem_cons_self)
  change readPacket _ = _ at hr
  refine ⟨c', a, ?_, hw, (List.cons.inj hrest).right.symm⟩
  simp only [readOkPacket, Proc.bind_apply, hr, Outcome.bind_ok, d.isOkPacket, Bool.not_true, Bool.false_eq_true,
    if_false, hd, Proc.pure_apply]

-- An error packet that answers a command is raised.
theorem Ready.readOkPacket_err (h : c.Ready) {body : Bytes} (ha : c.answers.head? = some (pieces.map .ok))
    (hp : Cut c.inner.packetStream.maxAllowedPacket (answerSeq command sql) [errPayload body] pieces) :
    ∃ c', readOkPacket (c.afterCommand command sql) = .error (Error.raiseMysqlException (errPayload body)) c' := by
  have hb : (batches [errPayload body] 0 pieces).flatten = [] ++ [errPayload body] := hp.batches_flatten
  obtain ⟨bs₁, before, bs₂, h₁, h₂, _⟩ := Arrivals.exists_last hb
  obtain ⟨hes, rfl⟩ := List.append_eq_nil_iff.mp h₂
  have hn : Arrivals.source.next ⟨[], bs₁ ++ ([] ++ [errPayload body]) :: bs₂⟩ = _ :=
    Arrivals.next_error hes (List.forall_mem_nil _) (isError_errPayload body)
  have hr := awaiting_simulates _ (h.awaiting ha hp)
  rw [h₁, hn] at hr
  obtain ⟨c', hr, _⟩ := hr.of_error
  change readPacket _ = _ at hr
  exact ⟨c', by rw [readOkPacket, Proc.bind_apply, hr, Outcome.bind_error]⟩

-- What has been written does not change while a response is read.
theorem Ready.query_written (h : c.Ready) {x : Exchange} (hx : x.Orderly c.inner.packetStream.maxAllowedPacket)
    (ha : c.answers.head? = some (x.pieces.map .ok)) {n : Int64} (hq : Connection.query x.sql false c = .ok n c') :
    c'.written = c.written ++ queryPackets [x.sql] := by
  have hw := h.awaiting ha hx.cut
  have hl : ∀ p ∈ (Arrivals.mk [] (batches x.response.payloads 0 x.pieces)).all.head?,
      (MysqlPacket.new p).isLoadLocalPacket = false := by
    rw [Arrivals.all, hx.cut.batches_flatten]
    exact fun p hp => x.response.not_loadLocal hp
  rw [h.query, hw.readQueryResult_eq hl] at hq
  obtain ⟨_, c₁, hf, hq⟩ := Outcome.bind_eq_ok.mp hq
  obtain ⟨_, rfl⟩ := Outcome.ok.inj hq
  have hr := hw.feedLocal {}
  rw [hf] at hr
  generalize Arrivals.source.feedLocal _ _ _ = o at hr
  obtain ⟨_, ho⟩ := hr
  rw [written_setInner, written_of_outline ho.left, ← written_of_outline rfl, afterCommand_written, queryPackets,
    List.flatMap_singleton]

omit [Libraries] in
theorem Ready.named (h : c.Ready) (options : ConnectOptions) (charset : Charset) : (c.named options charset).Ready :=
  ⟨⟨h.open_, h.sent, h.stream⟩, ⟨h.idle, h.incoming⟩, h.result⟩

theorem Ready.setNames (h : c.Ready) (hn : Nameable options charset) :
    Connection.setNames options c =
      (readOkPacket ((c.named options charset).afterCommand COM_QUERY (namesQuery options).asBytes)).bind fun _ =>
        pure () := by
  have hs := (h.named options charset).send COM_QUERY (namesQuery options).asBytes
  -- The options are changed after the command has been queued. That comes to the same.
  have encoded : (c.setInner { c.inner with encoding := charset.encoding }).Ready :=
    ⟨⟨h.open_, h.sent, h.stream⟩, ⟨h.idle, h.incoming⟩, h.result⟩
  have hset : onInner (MySQL.Connection.setCharacterSet options.charset options.collation) c =
      onInner (MySQL.Connection.executeCommand COM_QUERY (namesQuery options).asBytes) (c.named options charset) := by
    have h₁ := encoded.executeCommand COM_QUERY (namesQuery options).asBytes
    rw [onInner_apply, onInner_apply, (h.named options charset).executeCommand]
    rw [setInner_inner] at h₁
    simp only [MySQL.Connection.setCharacterSet, hn.charset, Proc.bind_apply, Proc.modify_apply, Outcome.bind_ok]
    have hk := hn.collation
    rw [namesQuery] at h₁ ⊢
    cases hc : options.collation
    case none =>
      rw [hc] at h₁
      simp only [Proc.bind_apply, Outcome.bind_ok, h₁, Connection.named, hc]
      rfl
    case some k =>
      rw [hc] at h₁
      simp only [hk k hc, Bool.not_true, Bool.false_eq_true, if_false, Proc.bind_apply, Outcome.bind_ok, h₁,
        Connection.named, hc]
      rfl
  rw [Connection.send, Proc.bind_apply] at hs
  rw [Connection.setNames, Proc.bind_apply, hset]
  obtain ⟨_, c₁, hx, hw⟩ := Outcome.bind_eq_ok.mp hs
  rw [hx, Outcome.bind_ok, Proc.bind_apply, hw, Outcome.bind_ok, Proc.bind_apply]

-- Queries are made until one is answered by an error.
theorem Ready.queryEach_outcome {xs : List Exchange} {rest : List (List ReadEvent)} (h : c.Ready)
    (ha : c.answers = xs.map (·.pieces.map .ok) ++ rest)
    (hx : ∀ x ∈ xs, x.Orderly c.inner.packetStream.maxAllowedPacket) :
    match xs.findSome? (·.response.fault) with
    | none   => ∃ c', queryEach (xs.map (·.sql)) c = .ok () c' ∧ Executed c c' (xs.map (·.sql))
    | some e => ∃ c', queryEach (xs.map (·.sql)) c = .error e c' := by
  induction xs generalizing c
  case nil          => exact ⟨c, rfl, .refl h⟩
  case cons x xs ih =>
    have ⟨hx, hxs⟩ := List.forall_mem_cons.mp hx
    have ha' : c.answers.head? = some (x.pieces.map .ok) := by rw [ha]; rfl
    have ⟨hr, _, hf⟩ := query_received h hx ha'
    have ho := received_outcome hr
    rw [List.findSome?_cons, List.map_cons, queryEach, Proc.bind_apply]
    cases he : x.response.fault
    case some e =>
      rw [he] at ho
      exact ⟨_, by rw [ho, Outcome.bind_error]⟩
    case none =>
      rw [he] at ho
      obtain ⟨n, ho⟩ := ho
      have follows := hf (errorAlone_of_fault he x.pieces)
      have hone : Executed c (Connection.query x.sql false c).state [x.sql] := {
        ready   := follows.ready
        alike   := follows.alike
        answers := follows.answers.trans List.drop_one.symm
        written := h.query_written hx ha' ho
      }
      have hrest := ih hone.ready (by rw [follows.answers, ha]; rfl) (by rwa [follows.alike.max])
      rw [ho, Outcome.bind_ok]
      simp only
      cases hs : xs.findSome? (·.response.fault)
      case some e =>
        rw [hs] at hrest
        exact hrest
      case none =>
        rw [hs] at hrest
        obtain ⟨c', hc, hx⟩ := hrest
        exact ⟨c', hc, hone.trans hx⟩

omit [Libraries] in
theorem setupQueries_congr {i j : MySQL.Connection} (h : i.serverStatus = j.serverStatus) :
    setupQueries options i = setupQueries options j := by
  simp only [setupQueries, MySQL.Connection.escapeString, h]

-- The setup makes its statements one after another, until one of them is answered by an error.
theorem Ready.postConnectSetup_outcome {x : Exchange} {xs : List Exchange} {rest : List (List ReadEvent)} (h : c.Ready)
    (hn : Nameable options charset) (ha : c.answers = (x :: xs).map (·.pieces.map .ok) ++ rest)
    (hx : ∀ y ∈ x :: xs, y.Orderly c.inner.packetStream.maxAllowedPacket)
    (hq : (x :: xs).map (·.sql) = namesQuery options :: setupQueries options c.inner)
    (hr : (∃ d, x.response = .ok d) ∨ ∃ body, x.response = .err body) :
    match (x :: xs).findSome? (·.response.fault) with
    | none   => ∃ c', postConnectSetup options c = .ok () c' ∧
      Executed (c.named options charset) c' (namesQuery options :: setupQueries options c.inner)
    | some e => ∃ c', postConnectSetup options c = .error e c' := by
  have ⟨hx, hxs⟩ := List.forall_mem_cons.mp hx
  obtain ⟨sql, r, pieces⟩ := x
  obtain ⟨rfl, hqs⟩ := List.cons.inj hq
  have hr₀ := h.named options charset
  have ha₀ : (c.named options charset).answers.head? = some (pieces.map .ok) := congrArg List.head? ha
  rw [postConnectSetup_eq, h.setNames hn]
  obtain ⟨d, hd⟩ | ⟨body, hd⟩ := hr
  · obtain rfl : r = .ok d := hd
    obtain ⟨c₁, a, hok, hw, hall⟩ := hr₀.readOkPacket_ok ha₀ hx.cut
    have follows := Follows.of_awaiting hr₀ hw hall
    have hone : Executed (c.named options charset) c₁ [namesQuery options] := {
      ready   := follows.ready
      alike   := follows.alike
      answers := follows.answers.trans List.drop_one.symm
      written := by
        rw [written_of_outline hw.left, ← written_of_outline rfl, afterCommand_written, queryPackets,
          List.flatMap_singleton]
    }
    have hs : setupQueries options c₁.inner = setupQueries options c.inner :=
      setupQueries_congr (congrArg (·.inner.serverStatus) hw.left)
    have ha₁ : c₁.answers = xs.map (·.pieces.map .ok) ++ rest := by
      rw [follows.answers]
      exact congrArg List.tail ha
    have hout := hone.ready.queryEach_outcome ha₁
      (by rwa [follows.alike.max])
    rw [hok]
    simp only [Outcome.bind_ok, Proc.pure_apply, hs, ← hqs]
    change match xs.findSome? (·.response.fault) with | none => _ | some e => _
    cases hf : xs.findSome? (·.response.fault)
    case some e =>
      rw [hf] at hout
      exact hout
    case none =>
      rw [hf] at hout
      obtain ⟨c', hc, hx⟩ := hout
      exact ⟨c', hc, hone.trans hx⟩
  · obtain rfl : r = .err body := hd
    obtain ⟨c₁, herr⟩ := hr₀.readOkPacket_err ha₀ hx.cut
    exact ⟨c₁, by rw [herr]; rfl⟩

end Connection
end Tokio
end MySQL
