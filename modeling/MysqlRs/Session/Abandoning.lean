import MysqlRs.Library.Frame
import MysqlRs.Session.CaughtUp

namespace MySQL.Tokio.Connection

open Command

-- The peer sends something more.
def later (rest : List ReadEvent) (c : Connection) : Connection :=
  { c with stream := c.stream.map fun st => { st with incoming := st.incoming ++ rest } }

variable {c c' : Connection} {rest : List ReadEvent}

theorem later_stream {st : ConnectionStream} (h : c.stream = some st) :
    (c.later rest).stream = some { st with incoming := st.incoming ++ rest } := by
  rw [later, h]
  rfl

theorem later_isSome : (c.later rest).stream.isSome = c.stream.isSome :=
  Option.isSome_map

theorem later_incoming (h : c.stream.isSome) : (c.later rest).incoming = c.incoming ++ rest := by
  have ⟨st, hs⟩ := Option.isSome_iff_exists.mp h
  simp [incoming, later_stream hs, hs]

variable [Libraries]

theorem pumpRead_none (hs : c.stream = none) :
    pumpRead c = .error (lostConnection " (No stream available)") c.abandoned := by
  rw [pumpRead]
  split
  case h_1    => rfl
  case h_2 hs' => exact nomatch hs.symm.trans hs'

-- A read that fails, or that is the end of the stream.
theorem pumpRead_lost {st : ConnectionStream} {event : ReadEvent} {events : List ReadEvent} (hs : c.stream = some st)
    (hi : st.incoming = event :: events) (he : ∀ data, event = .ok data → data = []) :
    pumpRead c = .error (lostConnection (match event with | .error e => s!" ({e})" | .ok _ => "")) c.abandoned := by
  rw [pumpRead]
  split
  case h_1 hs' => exact nomatch hs.symm.trans hs'
  case h_2 hs' =>
    obtain rfl := Option.some.inj (hs.symm.trans hs')
    cases event
    case error e => split <;> simp_all
    case ok data =>
      obtain rfl := he data rfl
      split <;> simp_all

-- Reading does not look at what comes later, unless it waits for that.
theorem pumpRead_frames (rest : List ReadEvent) : pumpRead.Frames (later rest) := by
  intro c
  fun_induction pumpRead c
  case case1 c hs =>
    right
    rw [pumpRead_none (by rw [later, hs]; rfl)]
    simp [later, abandoned]
  case case2 => exact .inl ⟨_, rfl⟩
  case case3 c st hs e events hi =>
    have hi' : st.incoming ++ rest = .error e :: (events ++ rest) := congrArg (· ++ rest) hi
    have hl := pumpRead_lost (later_stream hs) hi' (by rintro _ ⟨⟩)
    right
    rw [hl]
    simp [later, abandoned]
  case case4 c st hs events hi =>
    have hi' : st.incoming ++ rest = .ok [] :: (events ++ rest) := congrArg (· ++ rest) hi
    have hl := pumpRead_lost (later_stream hs) hi' (by rintro _ ⟨⟩; rfl)
    right
    rw [hl]
    simp [later, abandoned]
  case case5 c st hs data events hd hi n i hf c₁ hn =>
    have hi' : st.incoming ++ rest = .ok data :: (events ++ rest) := congrArg (· ++ rest) hi
    have hl := pumpRead_data (later_stream hs) hi' hd
    have hf' : (c.later rest).inner.feedBytes data = .ok n i := hf
    right
    rw [hl, hf']
    simp only [hn, if_true]
    rfl
  case case6 c st hs data events hd hi n i hf c₁ hn ih =>
    have hi' : st.incoming ++ rest = .ok data :: (events ++ rest) := congrArg (· ++ rest) hi
    have hl := pumpRead_data (later_stream hs) hi' hd
    have hf' : (c.later rest).inner.feedBytes data = .ok n i := hf
    rw [hl, hf']
    simp only [hn, if_false]
    exact ih
  case case7 c st hs data events hd hi e i hf =>
    have hi' : st.incoming ++ rest = .ok data :: (events ++ rest) := congrArg (· ++ rest) hi
    have hl := pumpRead_data (later_stream hs) hi' hd
    have hf' : (c.later rest).inner.feedBytes data = .error e i := hf
    right
    rw [hl, hf']
    rfl
  case case8 => exact .inl ⟨_, rfl⟩

theorem readPacket_frames (rest : List ReadEvent) : readPacket.Frames (later rest) := by
  intro c
  -- What is queued is taken first; with an empty queue it is up to the next read.
  have empty {c : Connection} {o : Outcome Error MySQL.Connection MysqlPacket} (h : c.inner.readPacket = o)
      (ho : ∀ p i, o ≠ .ok p i) : c.inner.packetStream.recvQueue = [] ∧ o = .error .needMoreData c.inner := by
    cases hq : c.inner.packetStream.recvQueue
    case nil       => exact ⟨rfl, h.symm.trans (MySQL.Connection.readPacket_nil hq)⟩
    case cons p ps => exact absurd (h.symm.trans (MySQL.Connection.readPacket_cons hq)) (ho _ _)
  have reads {c : Connection} (hq : c.inner.packetStream.recvQueue = []) {o : Outcome Error Connection Unit}
      (hp : pumpRead c = o) (hn : ∀ c', o ≠ .pending c') :
      readPacket (c.later rest) = (o.mapState (later rest)).bind fun _ => readPacket := by
    have hf := (pumpRead_frames rest c).resolve_left (by rintro ⟨c', h⟩; exact hn c' (hp.symm.trans h))
    rw [readPacket_of_empty (c := c.later rest) hq, hf, hp]
  fun_induction readPacket c
  case case1 c p i hi =>
    obtain ⟨ps, hq, hi'⟩ := MySQL.Connection.readPacket_ok hi
    right
    rw [readPacket_of_queue (c := c.later rest) hq, hi']
    rfl
  case case2 c i hi c₁ hp ih =>
    obtain ⟨hq, _⟩ := empty hi (by rintro _ _ ⟨⟩)
    rw [reads hq hp (by rintro _ ⟨⟩)]
    exact ih
  case case3 c i hi e c₁ hp =>
    obtain ⟨hq, _⟩ := empty hi (by rintro _ _ ⟨⟩)
    right
    rw [reads hq hp (by rintro _ ⟨⟩)]
    rfl
  case case4 => exact .inl ⟨_, rfl⟩
  case case5 c e i hne hi =>
    obtain ⟨_, he⟩ := empty hi (by rintro _ _ ⟨⟩)
    obtain ⟨rfl, _⟩ := Outcome.error.inj he
    exact absurd rfl hne
  case case6 => exact .inl ⟨_, rfl⟩

-- What a connection is asked for when it is returned to a pool.
def standing (c : Connection) : Bool × Bool × Bool :=
  (c.inner.closed, c.stream.isSome, c.asks)

theorem pumpRead_dirty : pumpRead.Leaves (·.transactionDirty) := by
  intro c
  fun_induction pumpRead c
  case case6 ih => exact ih
  all_goals rfl

theorem readPacket_dirty : readPacket.Leaves (·.transactionDirty) := by
  have pump {c : Connection} {o : Outcome Error Connection Unit} (h : pumpRead c = o) :
      o.state.transactionDirty = c.transactionDirty :=
    h ▸ pumpRead_dirty c
  intro c
  fun_induction readPacket c
  case case2 hp ih => exact ih.trans (pump hp)
  case case3 hp    => exact pump hp
  case case4 hp    => exact pump hp
  all_goals rfl

-- As long as no error comes up, reading does not change it.
theorem readPacket_standing (h : ∀ e c', readPacket c ≠ .error e c') : standing (readPacket c).state = standing c := by
  have hf := (readPacket_footing c).resolve_left (by rintro ⟨e, c', he, _⟩; exact h e c' he)
  have hs : (readPacket c).state.inner.serverStatus = c.inner.serverStatus := lasting_status.readPacket c
  have hd : (readPacket c).state.transactionDirty = c.transactionDirty := readPacket_dirty c
  simp only [footing, Prod.mk.injEq] at hf
  simp only [standing, asks, inTransaction, MySQL.Connection.inTransaction, hf, hs, hd]

theorem readPacket_of_later {p : MysqlPacket} (hp : readPacket c = .ok p c') :
    readPacket (c.later rest) = .ok p (c'.later rest) := by
  have hf := (readPacket_frames rest c).resolve_left (by rintro ⟨_, h⟩; cases hp.symm.trans h)
  rwa [hp] at hf

section ReadQueryResult

variable {u : Bool} (hl : ∀ p c', readPacket c = .ok p c' → p.isLoadLocalPacket = false)

include hl

-- Without a request for a file, reading a result does not look at what comes later either.
theorem readQueryResult_frames (rest : List ReadEvent) :
    (∃ c', readQueryResult u c = .pending c') ∨
      readQueryResult u (c.later rest) = (readQueryResult u c).mapState (later rest) := by
  obtain ⟨c', hp⟩ | hr := readPacket_frames rest c
  case inl => exact .inl ⟨c', by simp [readQueryResult, readFirstPacket, hp]⟩
  case inr =>
    have hl' (p : MysqlPacket) (c' : Connection) (hp : readPacket (c.later rest) = .ok p c') :
        p.isLoadLocalPacket = false := by
      rw [hr] at hp
      cases hc : readPacket c
      case ok q c₁ =>
        rw [hc] at hp
        obtain ⟨rfl, _⟩ := Outcome.ok.inj hp
        exact hl q c₁ hc
      all_goals
        rw [hc] at hp
        cases hp
    have hn : packets.next.Frames (later rest) := readPacket_frames rest
    rw [readQueryResult_eq u hl, readQueryResult_eq u hl']
    have hs (p : MysqlPacket) (c : Connection) : feedStep p (later rest c) = feedStep p c := rfl
    obtain ⟨c', hp⟩ | hf := hn.feedLocal hs { unbufferedActive := u } c
    · exact .inl ⟨c', by rw [hp]; rfl⟩
    · rw [hf]
      right
      cases packets.feedLocal feedStep { unbufferedActive := u } c
      all_goals rfl

-- Nor does it touch anything else while it waits.
theorem readQueryResult_rests (h : readQueryResult u c = .pending c') : standing c' = standing c := by
  rw [readQueryResult_eq u hl] at h
  obtain hf | ⟨_, _, _, hx⟩ := Outcome.bind_eq_pending.mp h
  case inr => cases hx
  case inl =>
    refine Proc.Rests.feedLocal (f := standing) ?_ ?_ feedStep _ hf
    case refine_1 =>
      intro c p c' hp
      have hs := readPacket_standing (c := c) (by rintro _ _ he; cases hp.symm.trans he)
      rwa [show readPacket c = _ from hp] at hs
    case refine_2 =>
      intro c c' hp
      have hs := readPacket_standing (c := c) (by rintro _ _ he; cases hp.symm.trans he)
      rwa [show readPacket c = _ from hp] at hs

end ReadQueryResult

omit [Libraries] in
theorem Live.isSome (h : c.Live) : c.stream.isSome := by
  have ⟨st, hs, _⟩ := h.stream
  rw [hs]
  rfl

-- Only these reads of the answer to the next command come before something else is done.
def answering (got : List ReadEvent) (c : Connection) : Connection :=
  { c with stream := c.stream.map fun st => { st with answers := got :: st.answers.tail } }

-- The future of an operation is dropped at an await point, when these reads of the answer to its command have come
-- in. The rest of the answer comes later.
structure Abandons (op : Operation) (got rest : List ReadEvent) (c c' : Connection) : Prop where
  intro ::
  waits : ∃ p, op.run (c.answering got) = .pending p ∧ c' = p.later rest

theorem Abandons.of_query {sql : Text} {u : Bool} {got : List ReadEvent}
    (h : Connection.query sql u (c.answering got) = .pending c') :
    Abandons (.query sql u) got rest c (c'.later rest) :=
  ⟨⟨c', by simp [Operation.run, h], rfl⟩⟩

omit [Libraries] in
theorem Ready.answering (h : c.Ready) (got : List ReadEvent) : (c.answering got).Ready := by
  have ⟨st, hs, hb⟩ := h.stream
  have hi : st.incoming = [] := by simpa [incoming, hs] using h.incoming
  exact {
    open_    := h.open_
    sent     := h.sent
    stream   := ⟨{ st with answers := got :: st.answers.tail }, by rw [Connection.answering, hs]; rfl, hb⟩
    idle     := h.idle
    incoming := by simp [incoming, Connection.answering, hs, hi]
    result   := h.result
  }

omit [Libraries] in
theorem answering_answers (h : c.stream.isSome) (got : List ReadEvent) :
    (c.answering got).answers = got :: c.answers.tail := by
  have ⟨st, hs⟩ := Option.isSome_iff_exists.mp h
  simp [Connection.answering, answers, hs]

omit [Libraries] in
-- A command that has been sent, with an answer that comes in two parts.
theorem Ready.afterCommand_later (h : c.Ready) {got rest : List ReadEvent} (ha : c.answers.head? = some (got ++ rest))
    (command : UInt8) (sql : Bytes) :
    ((c.answering got).afterCommand command sql).later rest = c.afterCommand command sql := by
  have ⟨st, hs, hb⟩ := h.stream
  have ha' : st.answers.head? = some (got ++ rest) := by simpa [answers, hs] using ha
  simp only [later, afterCommand, Connection.answering, answers, hs]
  simp [setSocket, setInner, List.headD_eq_head?_getD, ha']

-- A command that is sent while the answer to another one is outstanding. The answers come one after the other.
theorem Ready.send_later (h : c.Ready) (late : List ReadEvent) (command : UInt8) (sql : Bytes) :
    Connection.send command sql (c.later late) =
      .ok () (((c.answering late).afterCommand command sql).later (c.answers.headD [])) := by
  have ⟨st, hs, hb⟩ := h.stream
  have hi : st.incoming = [] := by simpa [incoming, hs] using h.incoming
  have hx : MySQL.Connection.executeCommand command sql (c.later late).inner = _ := h.executeCommand command sql
  simp only [Connection.send, Proc.bind_apply, onInner_apply, hx, Outcome.mapState_ok, Outcome.bind_ok]
  have hst (i : MySQL.Connection) : ((c.later late).setInner i).stream = some { st with incoming := late } := by
    simp [setInner, later, hs, hi]
  rw [pumpWrite_ok (hst _) hb]
  simp [flushed, later, Connection.answering, afterCommand, answers, hs, hi, hb, h.sent]
  rfl

omit [Libraries] in
-- A command has been sent, and nothing of its answer has come in yet.
theorem Ready.unanswered (h : c.Ready) (ha : c.answers.headD [] = []) (command : UInt8) (sql : Bytes) :
    (c.afterCommand command sql).Ready where
  open_    := h.open_
  sent     := h.sent
  stream   := ⟨_, rfl, rfl⟩
  idle     := ⟨h.idle.plain, h.idle.inflated, h.idle.buffer, h.idle.queue⟩
  incoming := ha
  result   := by rintro _ ⟨⟩

-- Then it is waited for.
theorem Ready.readQueryResult_waits (h : c.Ready) (u : Bool) : readQueryResult u c = .pending c := by
  have ⟨st, hs, _⟩ := h.stream
  have hi : st.incoming = [] := by simpa [incoming, hs] using h.incoming
  simp [readQueryResult, readFirstPacket, readPacket_of_empty h.idle.queue, pumpRead_nil hs hi]

section Received

variable {conn : MySQL.Connection} {r : Server.Response}

theorem not_received_pending : ¬Received conn r (.pending c) := by
  rw [Received]
  split
  case h_1 => rintro ⟨_, ⟨⟩, _⟩
  case h_2 => rintro ⟨_, ⟨⟩⟩

theorem received_later {o : Outcome Error Connection Int64} (h : Received conn r o) (rest : List ReadEvent) :
    Received conn r (o.mapState (later rest)) := by
  simp only [Received] at h ⊢
  generalize r.content conn = content at h ⊢
  cases content
  case ok result =>
    obtain ⟨c, rfl, hc⟩ := h
    exact ⟨c.later rest, rfl, hc⟩
  case error e =>
    obtain ⟨c, rfl⟩ := h
    exact ⟨c.later rest, rfl⟩

-- A query is given the response that is outstanding, whatever the server sends in answer to the query itself.
theorem Ready.query_later (h : c.Ready) {sql : Text} {pieces : List Bytes}
    (hx : (Exchange.mk sql r pieces).Orderly c.inner.packetStream.maxAllowedPacket) :
    Received c.inner r (Connection.query sql false (c.later (pieces.map .ok))) := by
  -- The connection is what one would be whose next answer is that response.
  have told := h.answering (pieces.map .ok)
  have ha : (c.answering (pieces.map .ok)).answers.head? = some (pieces.map .ok) := by
    rw [answering_answers h.isSome]
    rfl
  have hr := (query_received told hx ha).left
  rw [told.query] at hr
  have hl (p : MysqlPacket) (c' : Connection)
      (hp : readPacket ((c.answering (pieces.map .ok)).afterCommand COM_QUERY sql.asBytes) = .ok p c') :
      p.isLoadLocalPacket = false := by
    refine (told.awaiting ha hx.cut).not_loadLocal ?_ hp
    rw [Arrivals.all, List.nil_append, hx.cut.batches_flatten]
    exact fun _ => r.not_loadLocal
  have hu : (c.later (pieces.map .ok)).unbufferedActive = false := unbufferedActive_of_finished h.result
  have hq : Connection.query sql false (c.later (pieces.map .ok)) = readQueryResult false
      (((c.answering (pieces.map .ok)).afterCommand COM_QUERY sql.asBytes).later (c.answers.headD [])) := by
    rw [query_eq, finishUnbufferedQuery_of_inactive hu, Outcome.bind_ok, h.send_later, Outcome.bind_ok]
  obtain ⟨c', hp⟩ | hf := readQueryResult_frames (u := false) hl (c.answers.headD [])
  case inl =>
    rw [hp] at hr
    exact absurd hr not_received_pending
  case inr =>
    rw [hq, hf]
    exact received_later hr _

end Received

section Query

variable {x y : Exchange} (h : c.Ready) (hx : x.Orderly c.inner.packetStream.maxAllowedPacket)

include h hx

-- Wherever a query is abandoned after its command has been written and before its response has been read to the end,
-- the connection is open and has something outstanding.
theorem Ready.abandoned (ha : c.answers.head? = some (x.pieces.map .ok))
    (he : ErrorAlone x.response.payloads x.pieces) {got late : List Bytes} (hp : x.pieces = got ++ late)
    (hr : late ≠ []) :
    ∃ c', Abandons (.query x.sql false) (got.map .ok) (late.map .ok) c c' ∧ c'.isOpen ∧ c'.asks = c.asks ∧
      ¬c'.CaughtUp := by
  have ready := h.answering (got.map .ok)
  have ha' : c.answers.head? = some (got.map .ok ++ late.map .ok) := by rw [ha, hp, List.map_append]
  have hlater := h.afterCommand_later ha' COM_QUERY x.sql.asBytes
  have left {d : Connection} (hd : d.stream.isSome) : (d.later (late.map .ok)).incoming ≠ [] := by
    rw [later_incoming hd]
    exact List.append_ne_nil_of_right_ne_nil _ (by simpa using hr)
  -- What comes first is known from the run that is not abandoned.
  have hw := h.awaiting ha hx.cut
  have hl (p : MysqlPacket) (c' : Connection)
      (hp : readPacket ((c.answering (got.map .ok)).afterCommand COM_QUERY x.sql.asBytes) = .ok p c') :
      p.isLoadLocalPacket = false := by
    have hp' : readPacket (later (late.map .ok) _) = _ := readPacket_of_later hp
    rw [hlater] at hp'
    refine hw.not_loadLocal ?_ hp'
    rw [Arrivals.all, List.nil_append, hx.cut.batches_flatten]
    exact fun _ => x.response.not_loadLocal
  obtain ⟨p, hq⟩ | hf := readQueryResult_frames (u := false) hl (late.map .ok)
  case inr =>
    -- Otherwise the whole query would have left something.
    have hn := (query_received h hx ha).right.right he
    rw [h.query, ← hlater, hf] at hn
    rw [Outcome.mapState_state] at hn
    obtain ⟨st, hs, _⟩ := hn.ready.stream
    have hd := congrArg Option.isSome hs
    rw [later_isSome] at hd
    exact absurd hn.ready.incoming (left hd)
  case inl =>
    have hs := readQueryResult_rests hl hq
    simp only [standing, Prod.mk.injEq] at hs
    obtain ⟨hc, hst, has⟩ := hs
    rw [← ready.query x.sql false] at hq
    have ho : p.isOpen = true := congrArg (!·) (hc.trans h.open_)
    exact ⟨_, .of_query hq, ho, has, fun hcu => left hst hcu.incoming⟩

-- The query that comes next, whatever it is, is given the response to the one that has been abandoned, also if its
-- own response is there already.
theorem Ready.misled (hs : answerSeq COM_QUERY x.sql.asBytes = answerSeq COM_QUERY y.sql.asBytes) :
    ∃ c', Abandons (.query x.sql false) [] (x.pieces.map .ok) c c' ∧ c'.isOpen ∧ c'.asks = c.asks ∧
      Received c.inner x.response (Connection.query y.sql false c') := by
  have hans := answering_answers h.isSome []
  -- The connection waits for the first response.
  have first := h.answering []
  have hwait := first.query x.sql false
  have second := first.unanswered (by rw [hans]; rfl) COM_QUERY x.sql.asBytes
  rw [second.readQueryResult_waits false] at hwait
  have hy : (Exchange.mk y.sql x.response x.pieces).Orderly c.inner.packetStream.maxAllowedPacket :=
    ⟨hx.single, hs ▸ hx.cut⟩
  have hr := second.query_later hy
  have halike : Alike ((c.answering []).afterCommand COM_QUERY x.sql.asBytes).inner c.inner := ⟨rfl, rfl, rfl, rfl⟩
  rw [halike.received] at hr
  exact ⟨_, .of_query hwait, congrArg (!·) second.open_, rfl, hr⟩

end Query

end MySQL.Tokio.Connection
