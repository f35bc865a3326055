import MysqlRs.Session.Draining

namespace MySQL.Tokio

open Command Server

-- The operations that send a command.
inductive Operation
  | query (sql : Text) (unbuffered : Bool)
  | ping
  | selectDb (db : Text)
  | commit
  | rollback

namespace Operation

def command : Operation → UInt8
  | query .. | commit | rollback => COM_QUERY
  | ping                         => COM_PING
  | selectDb _                   => COM_INIT_DB

def payload : Operation → Bytes
  | query sql _ => sql.asBytes
  | ping        => []
  | selectDb db => db.asBytes
  | commit      => Text.asBytes "COMMIT".toList
  | rollback    => Text.asBytes "ROLLBACK".toList

-- The number of packets that the operation waits for before it looks at what has come in already.
def awaits (w : Owed) : Operation → Nat
  | query ..                                => (Part.bodyPayloads w.body).length
  | ping | selectDb _ | commit | rollback => 0

variable [Libraries]

def run : Operation → Proc Error Connection Unit
  | query sql u => do
    let _ ← Connection.query sql u
  | ping        => Connection.ping
  | selectDb db => Connection.selectDb db
  | commit      => Connection.commit
  | rollback    => Connection.rollback

-- What comes before the command has been written, and what comes after.
def start (op : Operation) : Proc Error Connection Unit := do
  match op with
  | query .. => Connection.finishUnbufferedQuery
  | _        => pure ()
  Connection.send op.command op.payload

def reply : Operation → Proc Error Connection Unit
  | query _ u => do
    let _ ← Connection.readQueryResult u
  | _         => do
    let _ ← Connection.readOkPacket

theorem run_eq (op : Operation) (c : Connection) : op.run c = (op.start c).bind fun _ => op.reply := by
  cases op
  case query sql u =>
    simp only [run, start, reply, Proc.bind_apply, Connection.query_eq, Outcome.bind_assoc]
    rfl
  all_goals
    simp only [run, start, reply, Proc.bind_apply, Connection.ping, Connection.selectDb,
      Connection.commit, Connection.rollback, Connection.simpleCommand, Connection.send,
      Outcome.bind_assoc]
    rfl

-- The command is only sent when nothing is owed any more, and then the operation does what it does on a
-- connection that owes nothing. Or else it fails, nothing is sent and the current result stays recorded.
def Careful (op : Operation) (c : Connection) : Prop :=
  (∃ c', c'.Ready ∧ Connection.Kept c c' ∧
    op.start c = .ok () (c'.afterCommand op.command op.payload) ∧
    op.run c = op.reply (c'.afterCommand op.command op.payload)) ∨
  ∃ e c', op.run c = .error e c' ∧ c'.written = c.written ∧ c'.inner.result = c.inner.result

end Operation

namespace Connection

variable [Libraries] {c : Connection} {w : Owed} {a : Arrivals}

omit [Libraries] in
theorem Reads.withQueue (h : c.Reads w a) : c.inner.withQueue a.queue = c.inner := by
  rw [MySQL.Connection.withQueue, ← h.awaiting.queued]
  rfl

theorem executeCommand_of_drained {i i' : MySQL.Connection} (hd : i.drainPending = .ok () i')
    (hi : i.closed = false) (hi' : i'.closed = false) (hr : i'.result = none) (command : UInt8)
    (sql : Bytes) : i.executeCommand command sql = i'.executeCommand command sql := by
  have hd' : i'.drainPending = .ok () i' := by simp [MySQL.Connection.drainPending, hr]
  simp [MySQL.Connection.executeCommand, hi, hi', hd, hd']

theorem Owes.send_all (h : c.Owes w a) (he : w.error = none) (ha : a.coming.flatten = [])
    (command : UInt8) (sql : Bytes) :
    ∃ c', c'.Ready ∧ Kept c c' ∧ send command sql c = .ok () (c'.afterCommand command sql) := by
  have hq : a.queue = w.payloads := by rw [← h.all, Arrivals.all, ha, List.append_nil]
  obtain ⟨m, s, hd⟩ := MySQL.Connection.drainPending_all (he ▸ h.chained) he h.small h.recorded
  rw [← hq, h.withQueue] at hd
  obtain ⟨hidle, hin⟩ := h.awaiting.arrived ha
  have hr : (c.setInner ((c.inner.settle m s).withQueue [])).Ready :=
    { h.live with
      idle     := ⟨hidle.plain, hidle.inflated, hidle.buffer, rfl⟩
      incoming := hin
      result   := by rintro _ ⟨⟩ }
  have hx := executeCommand_of_drained hd h.live.open_ h.live.open_ rfl command sql
  refine ⟨_, hr, ⟨fun _ => hr.toLive, ⟨rfl, rfl, rfl, rfl⟩, rfl, rfl⟩, ?_⟩
  rw [← hr.send]
  simp only [send, Proc.bind_apply, onInner_apply, hx]
  rfl

theorem Owes.send_short (h : c.Owes w a) (ha : a.coming.flatten ≠ [])
    (command : UInt8) (sql : Bytes) :
    ∃ c', send command sql c = .error .needMoreData c' ∧ c'.inner.result = none := by
  have hq : a.queue = w.payloads.take a.queue.length := by rw [← h.all, Arrivals.all, List.take_left]
  have hj : a.queue.length < w.payloads.length := by
    rw [← h.all, Arrivals.all, List.length_append]
    have := List.length_pos_iff.mpr ha
    omega
  obtain ⟨c', hd, hr⟩ := MySQL.Connection.drainPending_short h.chained h.small h.recorded hj
  rw [← hq, h.withQueue] at hd
  refine ⟨c.setInner c', ?_, hr⟩
  simp [send, MySQL.Connection.executeCommand, h.live.open_, hd]

omit [Libraries] in
theorem Owes.not_error (h : c.Owes w a) (he : w.error = none) : ∀ p ∈ a.all, ¬IsError p := by
  have hr := h.recorded
  rw [h.all, Owed.payloads, Owed.later, he, List.forall_mem_append, List.forall_mem_append]
  refine ⟨?_, Owed.parts_not_error w.parts, by rintro _ ⟨⟩⟩
  rw [Owed.Recorded] at hr
  cases hb : w.body
  case none => rintro _ ⟨⟩
  case some b =>
    rw [hb] at hr
    obtain ⟨r, _, hr⟩ := hr
    exact hr.not_error

-- The rest of the current result is skipped, and only the later results are owed.
theorem Owes.skip (h : c.Owes w a) (he : w.error = none) :
    ∃ c' a', finishUnbufferedQuery c = .ok () c' ∧ Owes c' { w with body := none } a' ∧ Kept c c' ∧
      Arrivals.source.Supplies a (Part.bodyPayloads w.body) a' := by
  cases hb : w.body
  case none =>
    have hw : { w with body := none } = w := by rw [← hb]
    exact ⟨c, a, finishUnbufferedQuery_of_inactive (h.inactive hb), hw.symm ▸ h, .refl c, .nil a⟩
  case some b =>
    have hr := h.recorded
    rw [Owed.Recorded, hb] at hr
    obtain ⟨r, _, hr⟩ := hr
    obtain ⟨e, heof⟩ := MySQL.Connection.eof_of_streaming hr he
    have hall : a.all.take b.payloads.length = b.payloads := by
      rw [h.all, Owed.payloads, hb]
      exact List.take_left
    obtain ⟨a', hs⟩ := Arrivals.supplies_take (h.not_error he) b.payloads.length
    rw [hall] at hs
    obtain ⟨c', hq, ho, hk⟩ := h.finish hb heof hs
    exact ⟨c', a', hq, ho, hk, hs⟩

-- What the start of an operation comes down to, when the packets it waits for have been taken.
theorem Owes.start (h : c.Owes w a) (he : w.error = none) (op : Operation) :
    ∃ c₁ w₁ a₁ is, op.start c = send op.command op.payload c₁ ∧ Owes c₁ w₁ a₁ ∧ w₁.error = none ∧
      Kept c c₁ ∧ Arrivals.source.Supplies a is a₁ ∧ is.length = op.awaits w := by
  cases op
  case query sql u =>
    have ⟨c₁, a₁, hq, ho, hk, hs⟩ := h.skip he
    exact ⟨c₁, _, a₁, _, by simp [Operation.start, hq], ho, he, hk, hs, rfl⟩
  all_goals exact ⟨c, w, a, [], rfl, h, he, .refl c, .nil a, rfl⟩

variable (h : c.Owes w a) (he : w.error = none) (op : Operation)

include h he

theorem Owes.careful (ha : ∀ k, op.awaits w ≤ a.arrivedBy k → a.all.length ≤ a.arrivedBy k) :
    op.Careful c := by
  have ⟨c₁, w₁, a₁, is, hstart, h₁, he₁, hk₁, hs, hl⟩ := h.start he op
  rw [← hl, ← Arrivals.supplies_queued hs] at ha
  have ⟨c', hc', hk', hsend⟩ := h₁.send_all he₁ ha op.command op.payload
  have hst := hstart.trans hsend
  exact .inl ⟨c', hc', hk₁.trans hk', hst, by rw [op.run_eq, hst]; rfl⟩

theorem Owes.arrived_of_careful (hr : ∃ r ∈ c.inner.result, r.unbufferedActive ∨ r.hasNext)
    (hc : op.Careful c) : ∀ k, op.awaits w ≤ a.arrivedBy k → a.all.length ≤ a.arrivedBy k := by
  have ⟨c₁, w₁, a₁, is, hstart, h₁, he₁, hk₁, hs, hl⟩ := h.start he op
  rw [← hl, ← Arrivals.supplies_queued hs]
  by_contra ha
  have ⟨c', hsend, hc'⟩ := h₁.send_short ha op.command op.payload
  have hst := hstart.trans hsend
  rcases hc with ⟨_, _, _, hok, _⟩ | ⟨e, c'', herr, _, hres⟩
  · exact nomatch hst.symm.trans hok
  · rw [op.run_eq, hst] at herr
    obtain ⟨_, rfl⟩ := Outcome.error.inj herr
    have ⟨r, hr, _⟩ := hr
    rw [hc', hr] at hres
    exact nomatch hres

-- An operation is careful exactly if, as soon as the packets it waits for have come in, everything has.
theorem Owes.careful_iff (hr : ∃ r ∈ c.inner.result, r.unbufferedActive ∨ r.hasNext) :
    op.Careful c ↔ ∀ k, op.awaits w ≤ a.arrivedBy k → a.all.length ≤ a.arrivedBy k :=
  ⟨h.arrived_of_careful he op hr, h.careful he op⟩

end Connection

section Examples

open Tokio.Connection Libraries PacketStream

-- A connection with a current result, packets that have come in, and reads that are still to come.
def resumed (result : MySQLResult) (queue : List Bytes) (pieces : List Bytes) : Connection where
  inner := { (established []).inner with
    result := some result
    packetStream := { (established []).inner.packetStream with recvQueue := queue.map .new }
  }
  stream := some ⟨pieces.map .ok, [], [], none⟩
  transactionDirty := false

theorem resumed_owes {result : MySQLResult} {queue ps pieces : List Bytes} {w : Owed}
    (hp : Cut (16 * 1024 * 1024) 0 ps pieces) (ha : queue ++ ps = w.payloads)
    (hs : ∀ p ∈ w.payloads, p.length ≤ usizeMax) (hc : Owed.Chained w.error w.parts)
    (hq : ∀ p ∈ queue, ¬IsError p) (hr : w.Recorded (some result)) :
    Owes (resumed result queue pieces) w ⟨queue, batches ps 0 pieces⟩ where
  live     := ⟨rfl, rfl, _, rfl, rfl⟩
  awaiting := .of_cut ⟨rfl, rfl, rfl, rfl⟩ rfl rfl rfl hp
  all      := by rw [Arrivals.all, hp.batches_flatten, ha]
  small    := hs
  chained  := hc
  queue    := hq
  recorded := hr

-- A result with one row that is read row by row, in a read that is still to come.
def rowToCome [Libraries] : Connection :=
  resumed (oneRow.opened (established []).inner true) [] [framed 0 oneRow.body]

theorem rowToCome_owes [Libraries] :
    Owes rowToCome ⟨some ⟨oneRow.rows, some oneRow.rowsEof⟩, [], none⟩ ⟨[], [oneRow.body]⟩ := by
  have hc : Owed.Chained none [.set oneRow] := ⟨rfl, nofun, trivial⟩
  have hr := (recorded_result (u := true) (established []).inner rfl hc).mpr (by simp)
  rw [← batches_whole 0 oneRow.body]
  refine resumed_owes (.of_short ?_ (List.append_nil _) ?_ ?_ ?_) rfl ?_ trivial nofun hr
  · exact fun h => absurd (framed_eq_nil (List.mem_singleton.mp h).symm) (by decide)
  all_goals decide

theorem query_careful :
    @Operation.Careful utf8Only (.query select false) (@rowToCome utf8Only) := by
  let := utf8Only
  refine (rowToCome_owes.careful_iff rfl (.query select false) ⟨_, rfl, .inl rfl⟩).mpr ?_
  exact fun k hk => hk

theorem ping_not_careful : ¬@Operation.Careful utf8Only .ping (@rowToCome utf8Only) := by
  let := utf8Only
  intro h
  have := rowToCome_owes.arrived_of_careful rfl .ping ⟨_, rfl, .inl rfl⟩ h 0 (Nat.zero_le _)
  exact absurd this (by decide)

end Examples
end MySQL.Tokio
