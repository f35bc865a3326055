import MysqlRs.Protocol.Responses
import MysqlRs.Session.Awaiting

namespace MySQL

open PacketStream

-- The payloads `ps`, framed from sequence number `seq` on and cut into reads. No read ends inside a
-- payload that had to be split, and only the last payload may be an error packet.
structure Cut (max : UInt64) (seq : UInt8) (ps pieces : List Bytes) : Prop where
  nonempty : [] ∉ pieces
  bytes    : pieces.flatten = framed seq ps
  fits     : ∀ p ∈ ps, p.length ≤ max.toNat
  clean    : ∀ k, CleanCut ps (pieces.take k).flatten.length
  errors   : ErrorLast ps

-- Short payloads can be cut anywhere.
theorem Cut.of_short {max : UInt64} {seq : UInt8} {ps pieces : List Bytes} (hn : [] ∉ pieces)
    (hb : pieces.flatten = framed seq ps) (hs : ∀ p ∈ ps, p.length < maxPacketLen)
    (hf : ∀ p ∈ ps, p.length ≤ max.toNat) (he : ErrorLast ps) : Cut max seq ps pieces where
  nonempty := hn
  bytes    := hb
  fits     := hf
  clean _  := cleanCut_of_short hs _
  errors   := he

-- So can payloads that come in one read.
theorem Cut.whole {max : UInt64} {seq : UInt8} {ps : List Bytes} (hn : ps ≠ []) (hf : ∀ p ∈ ps, p.length ≤ max.toNat)
    (he : ErrorLast ps) : Cut max seq ps [framed seq ps] where
  nonempty h := hn (framed_eq_nil (List.mem_singleton.mp h).symm)
  bytes    := List.flatten_singleton
  fits     := hf
  clean k  := by
    cases k
    case zero   => exact cleanCut_zero ps
    case succ k => simpa using cleanCut_framedLen ps
  errors   := he

theorem Cut.small {max : UInt64} {seq : UInt8} {ps pieces : List Bytes} (h : Cut max seq ps pieces) :
    ∀ p ∈ ps, p.length ≤ usizeMax := fun p hp =>
  Nat.le_trans (h.fits p hp) (Nat.le_sub_one_of_lt max.toNat_lt)

theorem Cut.batches_flatten {max : UInt64} {seq : UInt8} {ps pieces : List Bytes}
    (h : Cut max seq ps pieces) : (batches ps 0 pieces).flatten = ps :=
  MySQL.batches_flatten (arrived_zero ps) (by rw [h.bytes, framed_length, Nat.zero_add])

theorem batches_whole (seq : UInt8) (ps : List Bytes) : batches ps 0 [framed seq ps] = [ps] := by
  simp [batches, arrived_framedLen]

-- The sequence number of the answer to a command.
def answerSeq (command : UInt8) (sql : Bytes) : UInt8 :=
  (plainPackets 0 (command :: sql)).2

-- A result that has been read to its end, and is the last one.
def MySQLResult.Finished (r : MySQLResult) : Prop :=
  r.unbufferedActive = false ∧ r.hasNext = false

-- The settings by which a response is read.
structure Tokio.Alike (i j : MySQL.Connection) : Prop where
  encoding   : i.encoding = j.encoding
  useUnicode : i.useUnicode = j.useUnicode
  converters : i.fieldConverters = j.fieldConverters
  max        : i.packetStream.maxAllowedPacket = j.packetStream.maxAllowedPacket

theorem Tokio.Alike.trans {i j k : MySQL.Connection} (h₁ : Alike i j) (h₂ : Alike j k) : Alike i k :=
  ⟨h₁.encoding.trans h₂.encoding, h₁.useUnicode.trans h₂.useUnicode,
    h₁.converters.trans h₂.converters, h₁.max.trans h₂.max⟩

theorem Tokio.Alike.decode [Libraries] {i j : MySQL.Connection} (h : Alike i j)
    (r : Server.ResultSet) : r.decode i = r.decode j := by
  funext row
  simp [Server.ResultSet.decode, Server.ResultSet.converters, Server.ResultSet.fields, MySQLResult.buildConverter,
    h.encoding, h.useUnicode, h.converters]

namespace Server

def done : Ok := ⟨1, 0, 2, 0, []⟩

def oneRow : ResultSet where
  columns    := [⟨[], [], [], [], [49], [], 63, 1, 8, 0, 0⟩]
  columnsEof := ⟨0, 2⟩
  rows       := [[some [49]]]
  rowsEof    := ⟨0, 2⟩
  nonempty   := by decide
  small      := by decide
  widths     := by decide

end Server

def select : Text := "SELECT 1".toList

namespace Tokio.Connection

-- A connection that can be written to and has nothing to be written.
structure Live (c : Connection) : Prop where
  open_  : c.inner.closed = false
  sent   : c.inner.packetStream.sendQueue = []
  stream : ∃ st, c.stream = some st ∧ st.broken = none

-- A connection on which a command can be sent at once.
structure Ready (c : Connection) : Prop extends Live c, Clear c where
  result : ∀ r ∈ c.inner.result, r.Finished

-- The connection when a command has been sent.
def afterCommand (c : Connection) (command : UInt8) (sql : Bytes) : Connection :=
  (c.setInner {
    c.inner with
    result := none
    packetStream := {
      c.inner.packetStream with
      nextSeqId := answerSeq command sql
      nextCompressedSeqId := 0
    }
  }).setSocket {
    incoming := c.answers.headD []
    answers  := c.answers.tail
    written  := (c.stream.map (·.written)).getD [] ++ (plainPackets 0 (command :: sql)).1
    broken   := none
  }

variable {c o : Connection} {a : Arrivals} {command : UInt8} {sql : Bytes} {ps pieces : List Bytes}

-- A connection over a new stream, with default options.
def established (answers : List (List ReadEvent)) : Connection where
  inner := .fresh {} ⟨45, "utf8mb4", true⟩
  stream := some ⟨[], answers, [], none⟩
  transactionDirty := false

theorem established_ready (answers : List (List ReadEvent)) : (established answers).Ready where
  open_    := rfl
  sent     := rfl
  stream   := ⟨_, rfl, rfl⟩
  idle     := ⟨rfl, rfl, rfl, rfl⟩
  incoming := rfl
  result   := fun _ h => nomatch h

theorem Live.of_outline (h : o.Live) (hc : c.outline = o) : c.Live := by
  subst hc
  have ⟨st, hs, hb⟩ := h.stream
  simp only [outline, Option.map_eq_some_iff] at hs
  obtain ⟨st, hs, rfl⟩ := hs
  exact ⟨h.open_, h.sent, st, hs, hb⟩

theorem Live.outline (h : c.Live) : c.outline.Live := by
  have ⟨st, hs, hb⟩ := h.stream
  exact ⟨h.open_, h.sent, { st with incoming := [] }, by simp [Connection.outline, hs], hb⟩

theorem answers_of_outline (h : c.outline = o) : c.answers = o.answers := by
  subst h
  cases hs : c.stream <;> simp [answers, outline, hs]

theorem Awaiting.of_cut {queue : List Bytes} {st : ConnectionStream}
    (hi : Idle { c.inner.packetStream with recvQueue := [] })
    (hq : c.inner.packetStream.recvQueue = queue.map .new) (hs : c.stream = some st)
    (hin : st.incoming = pieces.map .ok)
    (hp : Cut c.inner.packetStream.maxAllowedPacket c.inner.packetStream.nextSeqId ps pieces) :
    Awaiting c.outline c ⟨queue, batches ps 0 pieces⟩ := by
  have hb : c.inner.packetStream.recvBuffer = [] := hi.buffer
  refine ⟨rfl, ps, pieces, ⟨⟨st, hs, hin⟩, hp.nonempty, hq, ?_, ?_, hp.errors⟩, by rw [hb]; rfl⟩
  · refine ⟨hi.plain, hi.inflated, by rw [hb, List.nil_append, hp.bytes], hp.fits, ?_⟩
    rw [hb]
    cases ps
    case nil       => rfl
    case cons p ps => exact Nat.lt_of_lt_of_le (Nat.succ_pos 3) (Nat.le_add_right 4 _)
  · intro k
    rw [hb, List.length_nil, Nat.zero_add]
    exact hp.clean k

theorem Awaiting.of_clear (hl : c.Live) (hc : c.Clear) : Awaiting c.outline c ⟨[], []⟩ := by
  obtain ⟨st, hs, _⟩ := hl.stream
  have hi : st.incoming = [].map .ok := by simpa [incoming, hs] using hc.incoming
  have hp : Cut c.inner.packetStream.maxAllowedPacket c.inner.packetStream.nextSeqId [] [] :=
    .of_short (by simp) rfl (by rintro _ ⟨⟩) (by rintro _ ⟨⟩) (by rintro _ ⟨⟩)
  have hq : c.inner.packetStream.recvQueue = [].map MysqlPacket.new := hc.idle.queue
  exact .of_cut ⟨hc.idle.plain, hc.idle.inflated, hc.idle.buffer, rfl⟩ hq hs hi hp

-- The answer to a command that has been sent is waited for.
theorem Ready.awaiting (h : c.Ready) (ha : c.answers.head? = some (pieces.map .ok))
    (hp : Cut c.inner.packetStream.maxAllowedPacket (answerSeq command sql) ps pieces) :
    Awaiting (c.afterCommand command sql).outline (c.afterCommand command sql)
      ⟨[], batches ps 0 pieces⟩ :=
  .of_cut ⟨h.idle.plain, h.idle.inflated, h.idle.buffer, rfl⟩ h.idle.queue rfl
    (by simp [List.headD_eq_head?_getD, ha]) hp

theorem Ready.of_awaiting (hl : o.Live) (hr : ∀ r ∈ o.inner.result, r.Finished)
    (h : Awaiting o c a) (ha : a.all = []) : c.Ready := by
  refine { hl.of_outline h.left, h.clear ha with result := ?_ }
  obtain ⟨rfl, _⟩ := h
  exact hr

theorem Ready.afterCommand_live (h : c.Ready) (command : UInt8) (sql : Bytes) :
    (c.afterCommand command sql).outline.Live :=
  ⟨h.open_, h.sent, _, rfl, rfl⟩

variable [Libraries]

-- Sends a command.
def send (command : UInt8) (sql : Bytes) : Proc Error Connection Unit := do
  onInner (MySQL.Connection.executeCommand command sql)
  pumpWrite

theorem query_eq (sql : Text) (u : Bool) (c : Connection) :
    query sql u c = (finishUnbufferedQuery c).bind fun _ c =>
      (send Command.COM_QUERY sql.asBytes c).bind fun _ => readQueryResult u := by
  simp only [query, send, Proc.bind_apply, Outcome.bind_assoc]
  rfl

-- Nothing is left to be drained.
theorem drainPending_of_finished {i : MySQL.Connection} (h : ∀ r ∈ i.result, r.Finished) :
    MySQL.Connection.drainPending i = .ok () { i with result := none } := by
  cases hr : i.result
  case none =>
    have hn : i = { i with result := none } := by rw [← hr]
    rw [hn]
    rfl
  case some r =>
    have ⟨hu, hn⟩ := h r hr
    simp [MySQL.Connection.drainPending, MySQL.Connection.finishUnbufferedQuery,
      MySQL.Connection.drainResults, hr, hu, hn]

omit [Libraries] in
theorem unbufferedActive_of_finished (h : ∀ r ∈ c.inner.result, r.Finished) : c.unbufferedActive = false := by
  cases hr : c.inner.result
  case none   => simp [unbufferedActive, hr]
  case some r => simp [unbufferedActive, hr, (h r hr).left]

theorem Ready.executeCommand (h : c.Ready) (command : UInt8) (sql : Bytes) :
    MySQL.Connection.executeCommand command sql c.inner = .ok () {
      c.inner with
      result := none
      packetStream := {
        c.inner.packetStream with
        nextSeqId := answerSeq command sql
        nextCompressedSeqId := 0
        sendQueue := [(plainPackets 0 (command :: sql)).1]
      }
    } := by
  simp only [MySQL.Connection.executeCommand, Proc.bind_apply, Proc.get_apply, Outcome.bind_ok,
    h.open_, Bool.false_eq_true, if_false, drainPending_of_finished h.result]
  simp [MySQL.Connection.writeCommand, MySQL.Connection.writePacket, PacketStream.writePacket,
    resetSeqId, buildPlainPackets, h.idle.plain, h.sent, answerSeq]
  rfl

theorem Ready.send (h : c.Ready) (command : UInt8) (sql : Bytes) :
    send command sql c = .ok () (c.afterCommand command sql) := by
  have ⟨st, hs, hb⟩ := h.stream
  have hi : st.incoming = [] := by simpa [incoming, hs] using h.incoming
  simp only [Connection.send, Proc.bind_apply, onInner_apply, h.executeCommand, Outcome.mapState_ok,
    Outcome.bind_ok]
  simp [pumpWrite, writeQueue, writeAll, flush, hs, hb, hi, afterCommand, answers, h.sent]
  rfl

theorem Ready.query (h : c.Ready) (sql : Text) (u : Bool) :
    query sql u c = readQueryResult u (c.afterCommand Command.COM_QUERY sql.asBytes) := by
  rw [query_eq, finishUnbufferedQuery]
  simp [unbufferedActive_of_finished h.result, h.send]

theorem readQueryResult_eq (u : Bool)
    (h : ∀ p c', readPacket c = .ok p c' → p.isLoadLocalPacket = false) :
    readQueryResult u c = (packets.feedLocal feedStep { unbufferedActive := u } c).bind
      fun (n, r) c => .ok n (c.setInner (c.inner.setResult r)) := by
  simp only [readQueryResult, readFirstPacket, Proc.bind_apply]
  cases hp : readPacket c
  case ok p c' =>
    rw [packets.feedLocal_ok hp]
    simp only [Outcome.bind_ok, h p c' hp, Bool.false_eq_true, if_false, Proc.bind_apply,
      Proc.get_apply, Proc.onLocal]
    cases feedStep p c' { unbufferedActive := u }
    case ok n r => cases n <;> rfl
    all_goals rfl
  case error => rw [Source.feedLocal, packets.feed_next_error hp]; rfl
  case pending => rw [Source.feedLocal, packets.feed_next_pending hp]; rfl

-- A file that is asked for is sent before the result is read.
theorem readQueryResult_loadLocal {u : Bool} {p : MysqlPacket} {c₁ : Connection} (hp : readPacket c = .ok p c₁)
    (hl : p.isLoadLocalPacket = true) :
    readQueryResult u c = (sendLoadLocalFile p c₁).bind fun _ c =>
      (packets.feedLocal feedStep { unbufferedActive := u } c).bind
        fun (n, r) c => .ok n (c.setInner (c.inner.setResult r)) := by
  simp only [readQueryResult, readFirstPacket, Proc.bind_apply, hp, Outcome.bind_ok, hl, if_true]
  cases sendLoadLocalFile p c₁ <;> rfl

theorem Awaiting.feedLocal (h : Awaiting o c a) (t : MySQLResult) :
    Outcome.Rel (· = ·) (Awaiting o) (packets.feedLocal feedStep t c)
      (Arrivals.source.feedLocal (fun p _ => Server.step o.inner p) t a) := by
  refine (awaiting_simulates o).feedLocal ?_ h
  rintro p c _ ⟨rfl, _⟩
  rfl

section ReadQueryResult

variable {u : Bool} (h : Awaiting o c a)
  (hl : ∀ p ∈ a.all.head?, (MysqlPacket.new p).isLoadLocalPacket = false)

include h hl

-- What comes first is no request for a file.
theorem Awaiting.not_loadLocal {p : MysqlPacket} {c' : Connection} (hp : readPacket c = .ok p c') :
    p.isLoadLocalPacket = false := by
  have hr := awaiting_simulates o h
  change Outcome.Rel _ _ (readPacket c) _ at hr
  rw [hp] at hr
  generalize hn : Arrivals.source.next a = x at hr
  obtain ⟨rfl, _⟩ := hr
  refine hl _ ?_
  rw [Arrivals.nextPacket_all hn]
  rfl

theorem Awaiting.readQueryResult_eq :
    readQueryResult u c = (packets.feedLocal feedStep { unbufferedActive := u } c).bind
      fun (n, r) c => .ok n (c.setInner (c.inner.setResult r)) :=
  Connection.readQueryResult_eq u fun _ _ => h.not_loadLocal hl

theorem Awaiting.readQueryResult_ok {n : Int64} {r : MySQLResult} {a' : Arrivals}
    (hf : Arrivals.source.feedLocal (fun p _ => Server.step o.inner p) { unbufferedActive := u } a =
      .ok (n, r) a') :
    ∃ c', readQueryResult u c = .ok n c' ∧ Awaiting (o.setInner (o.inner.setResult r)) c' a' := by
  have ⟨_, c', hc, hn, ha⟩ := (hf ▸ h.feedLocal _).of_ok
  subst hn
  refine ⟨_, by rw [h.readQueryResult_eq hl, hc]; rfl, ?_⟩
  obtain ⟨rfl, ps, pieces, hr, hb⟩ := ha
  exact ⟨rfl, ps, pieces, ⟨hr.stream, hr.nonempty, hr.queued, hr.expecting, hr.clean, hr.errors⟩, hb⟩

theorem Awaiting.readQueryResult_error {e : Error} {a' : Arrivals}
    (hf : Arrivals.source.feedLocal (fun p _ => Server.step o.inner p) { unbufferedActive := u } a =
      .error e a') :
    ∃ c', readQueryResult u c = .error e c' ∧ Awaiting o c' a' := by
  have ⟨c', hc, ha⟩ := (hf ▸ h.feedLocal _).of_error
  exact ⟨c', by rw [h.readQueryResult_eq hl, hc]; rfl, ha⟩

end ReadQueryResult

section OnResult

variable {α : Type} {step : MysqlPacket → Proc Error MySQLResult (Option α)} {a' : Arrivals}
  {t : MySQLResult} (h : Awaiting o c a)

include h

theorem Awaiting.feed (step : MysqlPacket → Proc Error MySQLResult (Option α)) (t : MySQLResult) :
    Outcome.Rel (· = ·) (fun x y => x.1 = y.1 ∧ Awaiting o x.2 y.2)
      (packets.feed (fun p _ => step p) (t, c))
      (Arrivals.source.feed (fun p _ => step (.new p)) (t, a)) :=
  (awaiting_simulates o).feed (fun _ _ _ _ => rfl) h

omit [Libraries] in
theorem Awaiting.store (r : MySQLResult) :
    Awaiting (o.setInner { o.inner with result := some r })
      (c.setInner { c.inner with result := some r }) a := by
  obtain ⟨rfl, ps, pieces, hr, hb⟩ := h
  exact ⟨rfl, ps, pieces, ⟨hr.stream, hr.nonempty, hr.queued, hr.expecting, hr.clean, hr.errors⟩, hb⟩

theorem Awaiting.onResult_ok {x : α}
    (hf : Arrivals.source.feed (fun p _ => step (.new p)) (o.inner.result.getD {}, a) = .ok x (t, a')) :
    ∃ c', onResult step c = .ok x c' ∧
      Awaiting (o.setInner { o.inner with result := some t }) c' a' := by
  have hr : c.inner.result = o.inner.result := congrArg (·.inner.result) h.left
  have hw := h.feed step (c.inner.result.getD {})
  rw [hr, hf, ← hr] at hw
  have ⟨x', ⟨t', c'⟩, hc, hx, ht, hw'⟩ := hw.of_ok
  cases hx
  cases ht
  exact ⟨_, by rw [onResult, Source.feedWithin, hc]; rfl, hw'.store _⟩

theorem Awaiting.onResult_error {e : Error}
    (hf : Arrivals.source.feed (fun p _ => step (.new p)) (o.inner.result.getD {}, a) =
      .error e (t, a')) :
    ∃ c', onResult step c = .error e c' ∧
      Awaiting (o.setInner { o.inner with result := some t }) c' a' := by
  have hr : c.inner.result = o.inner.result := congrArg (·.inner.result) h.left
  have hw := h.feed step (c.inner.result.getD {})
  rw [hr, hf, ← hr] at hw
  have ⟨⟨t', c'⟩, hc, ht, hw'⟩ := hw.of_error
  cases ht
  exact ⟨_, by rw [onResult, Source.feedWithin, hc]; rfl, hw'.store _⟩

theorem Awaiting.onResult_pending
    (hf : Arrivals.source.feed (fun p _ => step (.new p)) (o.inner.result.getD {}, a) = .pending (t, a')) :
    ∃ c', onResult step c = .pending c' ∧ Awaiting (o.setInner { o.inner with result := some t }) c' a' := by
  have hr : c.inner.result = o.inner.result := congrArg (·.inner.result) h.left
  have hw := h.feed step (c.inner.result.getD {})
  rw [hr, hf, ← hr] at hw
  have ⟨⟨t', c'⟩, hc, ht, hw'⟩ := hw.of_pending
  cases ht
  exact ⟨_, by rw [onResult, Source.feedWithin, hc]; rfl, hw'.store _⟩

end OnResult
end Tokio.Connection
end MySQL
