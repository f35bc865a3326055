import MysqlRs.Session.Ending
import MysqlRs.Tokio.LocalInfile

namespace MySQL.Tokio

open Command

namespace Connection

-- What is left to be read, with nothing before it that has been received already.
structure Hears (answer : List ReadEvent) (c : Connection) : Prop where
  unread   : c.inner.packetStream.unread = ([], [], [])
  incoming : c.incoming = answer

-- Nothing is outstanding: no command waits to be sent or to be answered, and no answer waits to be read.
structure CaughtUp (c : Connection) : Prop extends Hears [] c where
  sent   : c.inner.packetStream.sendQueue = []
  result : ∀ r ∈ c.inner.result, r.Finished

-- A rollback is due when the connection is returned.
def asks (c : Connection) : Bool :=
  c.transactionDirty || c.inTransaction

variable [Libraries] {c c' : Connection} {op : Operation} {sql : Text} {n : Int64} {w : Owed} {a : Arrivals}

omit [Libraries] in
theorem Ready.caughtUp (h : c.Ready) : c.CaughtUp where
  unread   := by rw [PacketStream.unread, h.idle.buffer, h.idle.inflated, h.idle.queue]
  incoming := h.incoming
  sent     := h.sent
  result   := h.result

omit [Libraries] in
theorem CaughtUp.ready (h : c.CaughtUp) (hl : c.Live) (hp : c.inner.packetStream.compressed = false) : c.Ready := by
  have hu := h.unread
  simp only [PacketStream.unread, Prod.mk.injEq] at hu
  have ⟨hb, hi, hq⟩ := hu
  exact { hl with idle := ⟨hp, hi, hb, hq⟩, incoming := h.incoming, result := h.result }

-- A command that is queued leaves what has been received.
theorem executeCommand_unread {command : UInt8} {sql : Bytes} {i i' : MySQL.Connection}
    (hr : ∀ r ∈ i.result, r.Finished) (h : MySQL.Connection.executeCommand command sql i = .ok () i') :
    i.closed = false ∧ i'.packetStream.unread = i.packetStream.unread := by
  have write : (MySQL.Connection.writeCommand command sql).Keeps (·.packetStream.unread) :=
    .bind (.modify fun _ => rfl) fun _ => .zoom (PacketStream.writePacket_unread _) fun _ _ h => h
  simp only [MySQL.Connection.executeCommand, Proc.bind_apply, Proc.get_apply, Outcome.bind_ok] at h
  split at h
  case isTrue     => cases h
  case isFalse hc =>
    rw [Proc.bind_apply, drainPending_of_finished hr, Outcome.bind_ok] at h
    have hu := write h
    exact ⟨Bool.eq_false_iff.mpr hc, hu⟩

-- An operation is only begun on a connection that can be written to. What it reads is the answer to its command,
-- and nothing comes before that.
theorem CaughtUp.start (h : c.CaughtUp) (hs : op.start c = .ok () c') : c.Live ∧ c'.Hears (c.answers.headD []) := by
  rw [start_of_finished h.result] at hs
  have ⟨i, st, hx, hst, hb, hc⟩ := send_ok hs
  have ⟨hcl, hu⟩ := executeCommand_unread h.result hx
  have hi : st.incoming = [] := by simpa [incoming, hst] using h.incoming
  refine ⟨⟨hcl, h.sent, st, hst, hb⟩, ?_, ?_⟩
  · rw [hc]
    exact hu.trans h.unread
  · rw [hc]
    simp [incoming, flushed, answers, hst, hi]

-- The server answers this query, if it is sent next, with one response. Behind compression, it is enough to know
-- that whoever reads a result of the answer has read all of it.
structure Answers (sql : Text) (c : Connection) : Prop where
  plain      : c.inner.packetStream.compressed = false →
    ∃ r pieces, (Exchange.mk sql r pieces).Orderly c.inner.packetStream.maxAllowedPacket ∧
      c.answers.head? = some (pieces.map .ok)
  compressed : c.inner.packetStream.compressed = true →
    ∀ n c₁ c₂, c₁.Hears (c.answers.headD []) → readQueryResult false c₁ = .ok n c₂ → c₂.CaughtUp

-- A response that has been a success has been read to its end.
theorem Ready.query_caughtUp {x : Exchange} (h : c.Ready) (hx : x.Orderly c.inner.packetStream.maxAllowedPacket)
    (ha : c.answers.head? = some (x.pieces.map .ok)) (hq : Connection.query x.sql false c = .ok n c') : c'.CaughtUp := by
  have ⟨hr, _, hf⟩ := query_received h hx ha
  rw [hq] at hr hf
  have he : ErrorAlone x.response.payloads x.pieces := by
    generalize x.response = r at hr
    cases r
    case ok d  => exact errorAlone_of_none (List.forall_mem_singleton.mpr d.not_error)
    case set s => exact errorAlone_of_none s.not_error
    all_goals
      obtain ⟨_, he⟩ := hr
      cases he
  exact (hf he).ready.caughtUp

theorem CaughtUp.query_caughtUp (h : c.CaughtUp) (ha : c.Answers sql) (hq : Connection.query sql false c = .ok n c') :
    c'.CaughtUp := by
  have hr := hq
  rw [query_eq, finishUnbufferedQuery_of_inactive (unbufferedActive_of_finished h.result), Outcome.bind_ok] at hr
  have ⟨_, c₁, hs, hr⟩ := Outcome.bind_eq_ok.mp hr
  have ⟨hl, hh⟩ := CaughtUp.start h ((start_of_finished h.result (.query sql false)).trans hs)
  cases hp : c.inner.packetStream.compressed
  case true  => exact ha.compressed hp n c₁ c' hh hr
  case false =>
    have ⟨_, _, hx, ha⟩ := ha.plain hp
    exact (h.ready hl hp).query_caughtUp hx ha hq

-- A connection that knows of all that is outstanding reads it before it sends the query, or fails.
theorem Owes.query_caughtUp (h : c.Owes w a) (ha : c.Answers sql) (hq : Connection.query sql false c = .ok n c') :
    c'.CaughtUp := by
  have hop : (Operation.query sql false).start c = (finishUnbufferedQuery c).bind fun _ => send COM_QUERY sql.asBytes :=
    rfl
  rw [query_eq, ← Outcome.bind_assoc, ← hop] at hq
  have ⟨_, c₁, hs, hr⟩ := Outcome.bind_eq_ok.mp hq
  cases he : w.error
  case some e =>
    have ⟨_, _, hf, _⟩ := h.start_or he (.query sql false)
    exact nomatch hf.symm.trans hs
  case none =>
    have ⟨c₂, w₂, a₂, _, hstart, h₂, he₂, hk₂, _⟩ := h.start he (.query sql false)
    by_cases hall : a₂.coming.flatten = []
    case neg =>
      have ⟨_, hf, _⟩ := h₂.send_short hall COM_QUERY sql.asBytes
      exact nomatch (hstart.trans hf).symm.trans hs
    case pos =>
      have ⟨c₃, ready, hk₃, hf⟩ := h₂.send_all he₂ hall COM_QUERY sql.asBytes
      have hk := hk₂.trans hk₃
      obtain ⟨_, rfl⟩ := Outcome.ok.inj (hs.symm.trans (hstart.trans hf))
      have ⟨_, _, _, hrec, _⟩ := h.awaiting
      have ⟨r, pieces, hx, hp⟩ := ha.plain hrec.expecting.plain
      rw [← hk.alike.max] at hx
      rw [← hk.answers] at hp
      rw [← ready.query sql false] at hr
      exact ready.query_caughtUp hx hp hr

-- What is outstanding on a connection that is returned is cleared up before it is used again.
def Restorable (c : Connection) : Prop :=
  c.CaughtUp ∨ c.asks = true ∧ ∃ w a, c.Owes w a

omit [Libraries] in
theorem CaughtUp.withDirty (h : c.CaughtUp) (dirty : Bool) : CaughtUp { c with transactionDirty := dirty } :=
  ⟨⟨h.unread, h.incoming⟩, h.sent, h.result⟩

theorem Restorable.rolledBack (h : c.Restorable) (ha : c.asks = true → c.Answers "ROLLBACK".toList)
    (hr : rollbackDirtyTransaction c = .ok () c') : c'.CaughtUp := by
  simp only [rollbackDirtyTransaction, Proc.bind_apply, Proc.get_apply, Outcome.bind_ok] at hr
  split at hr
  case isTrue ht =>
    have ⟨n, c₁, hq, hm⟩ := Outcome.bind_eq_ok.mp hr
    obtain ⟨_, rfl⟩ := Outcome.ok.inj hm
    refine CaughtUp.withDirty ?_ false
    obtain hc | ⟨_, w, a, ho⟩ := h
    · exact hc.query_caughtUp (ha ht) hq
    · exact ho.query_caughtUp (ha ht) hq
  case isFalse ht =>
    obtain ⟨_, rfl⟩ := Outcome.ok.inj hr
    exact h.resolve_right fun hn => ht hn.left

-- The next operation reads what the server sends in answer to its own command, and nothing else.
structure Unmixed (c : Connection) : Prop where
  caughtUp : c.CaughtUp
  own      : ∀ (op : Operation) c', op.start c = .ok () c' → op.run c = op.reply c' ∧ c'.Hears (c.answers.headD [])
  received : ∀ x : Exchange, c.Live → c.inner.packetStream.compressed = false →
    x.Orderly c.inner.packetStream.maxAllowedPacket → c.answers.head? = some (x.pieces.map .ok) →
    Received c.inner x.response (Connection.query x.sql false c)

theorem CaughtUp.unmixed (h : c.CaughtUp) : c.Unmixed where
  caughtUp := h
  own op c' hs := ⟨by rw [op.run_eq, hs, Outcome.bind_ok], (h.start hs).right⟩
  received x hl hp hx ha := (query_received (h.ready hl hp) hx ha).left

end Connection
end MySQL.Tokio
