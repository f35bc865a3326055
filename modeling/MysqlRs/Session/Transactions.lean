import MysqlRs.Session.Watching
import MysqlRs.Tokio.LocalInfile
import MysqlRs.Tokio.Status

namespace MySQL.Tokio

open Transaction (COMMIT ROLLBACK setIsolationLevel startTransaction)
open Tokio.Connection (readPacket)

def transacting (status : UInt16) : Bool :=
  status &&& ServerStatus.SERVER_STATUS_IN_TRANS ≠ 0

-- Statements that begin no transaction.
def Operation.Neutral (op : Operation) : Prop :=
  op.payload = COMMIT.asBytes ∨ op.payload = ROLLBACK.asBytes ∨
    ∃ level, op.payload = (setIsolationLevel level).asBytes

-- The connection has this status, and its current result announces no further one.
structure Holds (status : UInt16) (i : MySQL.Connection) : Prop where
  status : i.serverStatus = status
  last   : ∀ r ∈ i.result, r.hasNext = false

section Holds

def view (i : MySQL.Connection) : UInt16 × Option MySQLResult :=
  (i.serverStatus, i.result)

theorem lasting_view : Connection.Lasting view where
  stream _ _ := rfl
  closed _ _ := rfl

variable {s : UInt16} {i i' : MySQL.Connection}

theorem Holds.of_view (h : Holds s i) (hv : view i' = view i) : Holds s i' := by
  have ⟨hs, hr⟩ := Prod.mk.inj hv
  exact ⟨hs.trans h.status, hr ▸ h.last⟩

-- Nothing is skipped where nothing has been received.
theorem finishUnbufferedQuery_state (r : MySQLResult) (hq : i.packetStream.recvQueue = []) :
    (MySQL.Connection.finishUnbufferedQuery r i).state = i ∧
      ∀ r' i', MySQL.Connection.finishUnbufferedQuery r i = .ok r' i' → r' = r := by
  have hn : MySQL.Connection.received.next i = .error .needMoreData i := MySQL.Connection.readPacket_nil hq
  have hf : MySQL.Connection.received.feedLocal MySQL.Connection.eofStep r i = .error .needMoreData i := by
    rw [Source.feedLocal, Source.feed_next_error _ hn]
  rw [MySQL.Connection.finishUnbufferedQuery]
  split
  case isTrue  => exact ⟨rfl, fun _ _ h => (Outcome.ok.inj h).left.symm⟩
  case isFalse =>
    rw [Proc.bind_apply, hf, Outcome.bind_error]
    exact ⟨rfl, by rintro _ _ ⟨⟩⟩

variable [Libraries]

theorem Holds.drainPending (h : Holds s i) (hq : i.packetStream.recvQueue = []) :
    Holds s (MySQL.Connection.drainPending i).state := by
  cases hr : i.result
  case none   => simpa [MySQL.Connection.drainPending, hr, Outcome.state] using h
  case some r =>
    obtain ⟨hi, hr'⟩ := finishUnbufferedQuery_state (i := { i with result := none }) r hq
    have hx : MySQL.Connection.drainPending i =
        (MySQL.Connection.finishUnbufferedQuery r { i with result := none }).bind
          MySQL.Connection.drainResults := by
      simp only [MySQL.Connection.drainPending, Proc.bind_apply, Proc.get_apply, Outcome.bind_ok, hr,
        Proc.modify_apply]
    have hs : Holds s { i with result := none } := ⟨h.status, by rintro _ ⟨⟩⟩
    rw [hx]
    cases hf : MySQL.Connection.finishUnbufferedQuery r { i with result := none }
    all_goals
      rw [hf] at hi
    case ok r' i' =>
      obtain rfl := hr' r' i' hf
      obtain rfl : i' = { i with result := none } := hi
      simp only [Outcome.bind_ok, MySQL.Connection.drainResults, h.last r' hr]
      exact hs
    all_goals exact hi ▸ hs

theorem Holds.executeCommand (h : Holds s i) (hq : i.packetStream.recvQueue = []) (command : UInt8) (sql : Bytes) :
    Holds s (MySQL.Connection.executeCommand command sql i).state := by
  have write : (MySQL.Connection.writeCommand command sql).Leaves view :=
    .bind (.modify fun _ => rfl) fun _ => lasting_view.onStream _
  have hd := h.drainPending hq
  simp only [MySQL.Connection.executeCommand, Proc.bind_apply, Proc.get_apply, Outcome.bind_ok]
  split
  case isTrue  => exact h
  case isFalse =>
    rw [Proc.bind_apply]
    cases hx : MySQL.Connection.drainPending i
    all_goals
      rw [hx] at hd
    case ok _ i' => exact hd.of_view (write i')
    all_goals exact hd

end Holds

-- Nothing that has not been asked for is there to be read.
def Quiet [Libraries] (c : Connection) : Prop :=
  ∀ p c', readPacket c ≠ .ok p c'

section Commands

open Tokio.Connection

variable [Libraries] {c c' : Connection} {s : UInt16} {op : Operation} {p : MysqlPacket}

theorem Quiet.queue (h : Quiet c) : c.inner.packetStream.recvQueue = [] := by
  cases hq : c.inner.packetStream.recvQueue
  case nil     => rfl
  case cons    => exact absurd (readPacket_of_queue hq) (h _ _)

theorem view_readPacket : view (readPacket c).state.inner = view c.inner :=
  lasting_view.readPacket c

-- The wait for rows is not over, or there has been none.
theorem Quiet.finishUnbufferedQuery (h : Quiet c) :
    view (finishUnbufferedQuery c).state.inner = view c.inner ∧
      ∀ c', finishUnbufferedQuery c = .ok () c' → c' = c := by
  cases hu : c.unbufferedActive
  case false =>
    rw [finishUnbufferedQuery_of_inactive hu]
    exact ⟨rfl, fun _ h => (Outcome.ok.inj h).right.symm⟩
  case true =>
    have hr : some (c.inner.result.getD {}) = c.inner.result := by
      cases hr : c.inner.result
      case none   => simp [unbufferedActive, hr] at hu
      case some r => rfl
    have hv := view_readPacket (c := c)
    rw [finishUnbufferedQuery_of_active hu, onResult, Source.feedWithin]
    cases hp : readPacket c
    case ok p c' => exact absurd hp (h p c')
    case error e c' =>
      rw [packets.feed_next_error hp]
      rw [hp] at hv
      have hs : c'.inner.serverStatus = c.inner.serverStatus := congrArg Prod.fst hv
      exact ⟨Prod.ext hs hr, by rintro _ ⟨⟩⟩
    case pending c' =>
      rw [packets.feed_next_pending hp]
      rw [hp] at hv
      have hs : c'.inner.serverStatus = c.inner.serverStatus := congrArg Prod.fst hv
      exact ⟨Prod.ext hs hr, by rintro _ ⟨⟩⟩

theorem Holds.send (h : Holds s c.inner) (hq : c.inner.packetStream.recvQueue = []) (command : UInt8) (sql : Bytes) :
    Holds s (send command sql c).state.inner := by
  have hx := h.executeCommand hq command sql
  rw [Connection.send, Proc.bind_apply, onInner_apply]
  cases hi : MySQL.Connection.executeCommand command sql c.inner
  all_goals
    rw [hi] at hx
  case ok _ i => exact hx.of_view (lasting_view.pumpWrite _)
  all_goals exact hx

theorem Holds.start (h : Holds s c.inner) (hq : Quiet c) (op : Operation) : Holds s (op.start c).state.inner := by
  have ⟨hv, hc⟩ := hq.finishUnbufferedQuery
  have hs := h.send hq.queue op.command op.payload
  cases op
  case query sql u =>
    rw [Operation.start, Proc.bind_apply]
    cases hf : finishUnbufferedQuery c
    all_goals
      rw [hf] at hv
    case ok _ c' =>
      obtain rfl := hc c' hf
      exact hs
    all_goals exact h.of_view hv
  all_goals exact hs

-- Where there is no answer, nothing is taken over.
theorem Holds.unanswered (h : Holds s c.inner) (hp : ∀ p c', readPacket c ≠ .ok p c') :
    Holds s (op.reply c).state.inner := by
  have hx := h.of_view (view_readPacket (c := c))
  cases hr : readPacket c
  case ok p c' => exact absurd hr (hp p c')
  case error e c' =>
    have hy : op.reply c = .error e c' := by
      cases op <;> simp [Operation.reply, readQueryResult, readFirstPacket, readOkPacket, hr]
    rw [hr] at hx
    rw [hy]
    exact hx
  case pending c' =>
    have hy : op.reply c = .pending c' := by
      cases op <;> simp [Operation.reply, readQueryResult, readFirstPacket, readOkPacket, hr]
    rw [hr] at hx
    rw [hy]
    exact hx

-- The status of an OK packet is taken over in the reply to a query, and only there.
theorem Holds.answered (h : Holds s c.inner) (op : Operation) {d : OkPacketWrapper} (hp : readPacket c = .ok p c')
    (hd : OkPacketWrapper.fromPacket.run' p = .ok d) (hn : d.hasNext = false) :
    ∃ s', Holds s' (op.reply c).state.inner ∧ (s' = d.serverStatus ∨ op.Simple ∧ s' = s) := by
  have hx := h.of_view (view_readPacket (c := c))
  rw [hp] at hx
  cases op
  case query sql u =>
    have hl : p.isLoadLocalPacket = false := by
      have ho := MySQLResult.isOkPacket_of_run hd
      simp only [MysqlPacket.isOkPacket, decide_eq_true_eq] at ho
      simp [MysqlPacket.isLoadLocalPacket, ho.left]
    obtain ⟨r, hf, _, hst, hnx⟩ := feedStep_ok u c'.inner hd
    have hq : readQueryResult u c = .ok r.affectedRows (c'.setInner (c'.inner.setResult r)) := by
      rw [readQueryResult_eq u fun _ _ hp' => (Outcome.ok.inj (hp.symm.trans hp')).left ▸ hl, packets.feedLocal_ok hp,
        feedStep, hf]
      rfl
    rw [Operation.reply, Proc.bind_apply, hq]
    exact ⟨_, ⟨setResult_status hst, fun r' hr' => Option.some.inj hr' ▸ hnx.trans hn⟩, .inl rfl⟩
  all_goals
    have hr := readOkPacket_eq_ok.mpr ⟨p, hp, hd⟩
    simp only [Operation.reply, Proc.bind_apply, hr]
    exact ⟨s, hx, .inr ⟨trivial, rfl⟩⟩

end Commands

-- An operation is answered with this packet.
def Remark.Answer [Libraries] (r : Remark) (p : MysqlPacket) : Prop :=
  ∃ c c', r.op.start r.conn = .ok () c ∧ readPacket c = .ok p c'

-- What the server does with a statement: whether it has a transaction open before, and whether it has one open
-- afterwards. An answer is one OK packet that tells, and without it nothing has been done.
structure Remark.Lawful [Libraries] (r : Remark) (before after : Bool) : Prop where
  quiet : Quiet r.conn
  ok    : ∀ p, r.Answer p → ∃ d, OkPacketWrapper.fromPacket.run' p = .ok d ∧ d.hasNext = false ∧
    after = transacting d.serverStatus ∧ (r.op.Neutral → after = true → before = true)
  other : (∀ p, ¬r.Answer p) → after = before

section Lawful

variable [Libraries] {r : Remark} {before after : Bool} {s : UInt16}

theorem Remark.Lawful.closed (h : r.Lawful before after) (hn : r.op.Neutral) (hb : before = false) :
    after = false := by
  by_cases ha : ∃ p, r.Answer p
  case pos =>
    have ⟨p, hp⟩ := ha
    have ⟨_, _, _, _, hk⟩ := h.ok p hp
    exact Bool.eq_false_iff.mpr fun hx => Bool.eq_false_iff.mp hb (hk hn hx)
  case neg => exact (h.other fun p hp => ha ⟨p, hp⟩).trans hb

-- The status tells of every transaction that is open.
theorem Remark.Lawful.run (h : r.Lawful before after) (hn : r.op.Simple → r.op.Neutral) (hc : Holds s r.conn.inner)
    (hs : before = true → transacting s = true) :
    ∃ s', Holds s' (r.op.run r.conn).state.inner ∧ (after = true → transacting s' = true) := by
  have hst := hc.start h.quiet r.op
  rw [Operation.run_eq]
  cases ho : r.op.start r.conn
  all_goals
    rw [ho] at hst
  case ok _ c =>
    rw [Outcome.bind_ok]
    by_cases ha : ∃ p c', readPacket c = .ok p c'
    case pos =>
      have ⟨p, c', hp⟩ := ha
      have ⟨d, hd, hnx, ht, hk⟩ := h.ok p ⟨c, c', ho, hp⟩
      have ⟨s', hr, hs'⟩ := hst.answered r.op hp hd hnx
      refine ⟨s', hr, fun hx => ?_⟩
      rcases hs' with rfl | ⟨hsi, rfl⟩
      · exact ht.symm.trans hx
      · exact hs (hk (hn hsi) hx)
    case neg =>
      have hx := h.other fun p ⟨c₁, c', h₁, hp⟩ => by
        obtain ⟨_, rfl⟩ := Outcome.ok.inj (ho.symm.trans h₁)
        exact ha ⟨p, c', hp⟩
      exact ⟨s, hst.unanswered fun p c' hp => ha ⟨p, c', hp⟩, hx ▸ hs⟩
  all_goals
    have hx := h.other fun p ⟨c₁, c', h₁, hp⟩ => nomatch ho.symm.trans h₁
    exact ⟨s, hst, hx ▸ hs⟩

end Lawful

namespace Watched

def Each (P : Nat → Remark → Prop) (w : Watched) : Prop :=
  ∀ k r, w.said[k]? = some r → P k r

-- `truth k` says whether the server has a transaction open when `k` statements have been dealt with.
def Lawful [Libraries] (truth : Nat → Bool) : Watched → Prop :=
  Each fun k r => r.Lawful (truth k) (truth (k + 1))

-- The server has no transaction open when one is begun.
def Safe (truth : Nat → Bool) : Watched → Prop :=
  Each fun k r => r.starts = true → truth k = false

structure Informed (truth : Nat → Bool) (w : Watched) : Prop where
  safe   : w.Safe truth
  last   : ∀ r ∈ w.conn.inner.result, r.hasNext = false
  status : truth w.said.length = true → w.conn.inTransaction = true

-- It is known that there is no transaction.
structure Alone (truth : Nat → Bool) (w : Watched) : Prop extends Informed truth w where
  closed : truth w.said.length = false

open Proc (Reflects Leads)

variable {truth : Nat → Bool} {w : Watched} {op : Operation} {b : Bool}

theorem each_nil {P : Nat → Remark → Prop} (c : Connection) : Each P ⟨c, []⟩ :=
  fun _ _ h => absurd h (by simp)

theorem each_note {P : Nat → Remark → Prop} :
    Each P (note op b w) ↔ Each P w ∧ P w.said.length ⟨w.conn, op, b⟩ := by
  constructor
  case mp =>
    intro h
    refine ⟨fun k r hk => h k r ?_, h _ _ (by simp [note])⟩
    rw [note, List.getElem?_append_left (List.getElem?_eq_some_iff.mp hk).1, hk]
  case mpr =>
    rintro ⟨h, hn⟩ k r hk
    rw [note, List.getElem?_append] at hk
    split at hk
    case isTrue     => exact h k r hk
    case isFalse hl =>
      have ⟨h0, hr⟩ := List.getElem?_eq_some_iff.mp hk
      obtain rfl : k = w.said.length := by simp at h0; omega
      rw [List.getElem_singleton] at hr
      exact hr ▸ hn

theorem onConn_state {α : Type} (x : Proc Error Connection α) :
    (onConn x w).state = { w with conn := (x w.conn).state } := by
  rw [onConn, Proc.zoom_apply]
  cases x w.conn <;> rfl

theorem onConn_reflects {α : Type} (P : Nat → Remark → Prop) (x : Proc Error Connection α) :
    (onConn x).Reflects (Each P) := by
  intro w h
  rwa [onConn_state] at h

section Statements

variable [Libraries]

theorem tell_reflects (P : Nat → Remark → Prop) (op : Operation) (b : Bool) : (tell op b).Reflects (Each P) :=
  .bind (.modify fun _ h => (each_note.mp h).left) fun _ => onConn_reflects P _

-- A statement, and what is known when the answer is there.
theorem tell_leads {I : Watched → Prop} (hn : op.Simple → op.Neutral) (hI : ∀ w, I w → Informed truth w)
    (hb : ∀ w, I w → b = true → truth w.said.length = false) :
    (tell op b).Leads (Lawful truth) I (Informed truth) := by
  intro w hg h
  have ⟨hsafe, hlast, hst⟩ := hI w h
  have hx : (tell op b w).state = { note op b w with conn := (op.run w.conn).state } := onConn_state op.run
  rw [hx] at hg ⊢
  have ⟨_, hr⟩ := each_note.mp hg
  have ⟨s, hs, ht⟩ := hr.run hn ⟨rfl, hlast⟩ hst
  refine ⟨each_note.mpr ⟨hsafe, hb w h⟩, hs.last, fun htruth => ?_⟩
  have hlen : (note op b w).said.length = w.said.length + 1 := by simp [note]
  have := ht (hlen ▸ htruth)
  rwa [← hs.status] at this

theorem tell_informed (hn : op.Simple → op.Neutral) :
    (tell op false).Leads (Lawful truth) (Informed truth) (Informed truth) :=
  tell_leads hn (fun _ h => h) fun _ _ h => nomatch h

-- A statement that begins nothing.
theorem tell_alone (hn : op.Neutral) : (tell op false).Leads (Lawful truth) (Alone truth) (Alone truth) := by
  intro w hg h
  refine ⟨tell_informed (fun _ => hn) w hg h.toInformed, ?_⟩
  have hx : (tell op false w).state = { note op false w with conn := (op.run w.conn).state } := onConn_state op.run
  rw [hx] at hg ⊢
  have ⟨_, hr⟩ := each_note.mp hg
  have hlen : (note op false w).said.length = w.said.length + 1 := by simp [note]
  change truth (note op false w).said.length = false
  rw [hlen]
  exact hr.closed hn h.closed

theorem query_informed (sql : Text) (u : Bool) :
    (tell (.query sql u) false).Leads (Lawful truth) (Informed truth) (Informed truth) :=
  tell_informed nofun

theorem onConn_informed {f : Connection → Connection} (hf : ∀ c, (f c).inner = c.inner) :
    (onConn (modify f)).Leads (Lawful truth) (Informed truth) (Informed truth) := by
  intro w _ ⟨hsafe, hlast, hst⟩
  have hi : (f w.conn).inTransaction = w.conn.inTransaction := congrArg MySQL.Connection.inTransaction (hf w.conn)
  exact ⟨hsafe, fun r hr => hlast r (hf w.conn ▸ hr), fun h => hi.trans (hst h)⟩

theorem rollbackDirtyTransaction_reflects (P : Nat → Remark → Prop) :
    rollbackDirtyTransaction.Reflects (Each P) :=
  .bind .get fun _ => .ite (.bind (tell_reflects P _ _) fun _ => onConn_reflects P _) (.pure ())

theorem rollbackDirtyTransaction_informed :
    rollbackDirtyTransaction.Leads (Lawful truth) (Informed truth) (Informed truth) := by
  have hq : (query ROLLBACK >>= fun _ => onConn (modify ({ · with transactionDirty := false }))).Leads
      (Lawful truth) (Informed truth) (Informed truth) :=
    .bind (query_informed ROLLBACK false) (fun _ h => h) (fun _ => onConn_informed fun _ => rfl)
      fun _ => onConn_reflects _ _
  exact .get fun w => .ite (fun _ => hq.weaken fun _ h => h.left ▸ h.right) fun _ => .pure (fun _ h => h.left ▸ h.right) ()

theorem start_safe (truth : Nat → Bool) (readOnly : Bool) :
    (tell (.query (startTransaction readOnly) false) true).Leads (Lawful truth) (Alone truth) (Informed truth) :=
  tell_leads nofun (fun _ h => h.toInformed) fun _ h _ => h.closed

theorem setIsolationLevel_alone (level : IsolationLevel) :
    (query (setIsolationLevel level)).Leads (Lawful truth) (Alone truth) (Alone truth) :=
  tell_alone (.inr (.inr ⟨level, rfl⟩))

end Statements

-- When the check has been passed, the server has no transaction open.
theorem Informed.alone (h : Informed truth w) (hc : ¬w.conn.inTransaction = true) : Alone truth w :=
  ⟨h, Bool.eq_false_iff.mpr fun ht => hc (h.status ht)⟩

section Acts

variable [Libraries] (P : Nat → Remark → Prop)

theorem beginClean_reflects (options : TxOptions) : (beginClean options).Reflects (Each P) := by
  obtain ⟨level, readOnly⟩ := options
  have hs := tell_reflects P (.query (startTransaction readOnly) false) true
  refine .bind .get fun _ => ?_
  cases level
  case none       => exact .guard _ hs
  case some level => exact .guard _ (.bind (tell_reflects P (.query (setIsolationLevel level) false) false) fun _ => hs)

theorem beginWith_reflects (options : TxOptions) : (beginWith options).Reflects (Each P) :=
  .bind (rollbackDirtyTransaction_reflects P) fun _ => beginClean_reflects P options

theorem act_reflects (a : Act) : (act a).Reflects (Each P) := by
  cases a
  case begin                         => exact beginWith_reflects P {}
  case beginWith options             => exact beginWith_reflects P options
  case execute sql args              =>
    exact .bind .get fun _ => .bind (.ofExcept _) fun _ => tell_reflects P _ _
  case drop                          => exact onConn_reflects P _
  case forget                        => exact .pure ()
  all_goals exact tell_reflects P _ _

theorem actAll_reflects (acts : List Act) : (actAll acts).Reflects (Each P) := by
  induction acts
  case nil            => exact .pure ()
  case cons a acts ih => exact .bind (.attempt (act_reflects P a)) fun _ => ih

omit [Libraries] in
theorem alone_of_eq {v : Watched} (hc : ¬v.conn.inTransaction = true) (h : w = v ∧ Informed truth v) : Alone truth w :=
  h.left ▸ h.right.alone hc

theorem beginClean_informed (options : TxOptions) :
    (beginClean options).Leads (Lawful truth) (Informed truth) (Informed truth) := by
  obtain ⟨level, readOnly⟩ := options
  have hs := start_safe truth readOnly
  refine .get fun w => ?_
  cases level
  case none =>
    exact .guard _ (fun _ h => h.left ▸ h.right) fun hc => hs.weaken fun _ => alone_of_eq hc
  case some level =>
    refine .guard _ (fun _ h => h.left ▸ h.right) fun hc => ?_
    exact .bind ((setIsolationLevel_alone level).weaken fun _ => alone_of_eq hc) (fun _ h => h.toInformed)
      (fun _ => hs) fun _ => tell_reflects _ _ _

theorem beginWith_informed (options : TxOptions) :
    (beginWith options).Leads (Lawful truth) (Informed truth) (Informed truth) :=
  .bind rollbackDirtyTransaction_informed (fun _ h => h) (fun _ => beginClean_informed options)
    fun _ => beginClean_reflects _ options

theorem execute_informed (sql : Text) (args : Option (List Value)) :
    (execute sql args).Leads (Lawful truth) (Informed truth) (Informed truth) :=
  .get fun _ => .bind (.ofExcept (fun _ h => h.left ▸ h.right) _) (fun _ h => h)
    (fun sql => query_informed sql false) fun _ => tell_reflects _ _ _

theorem act_informed (a : Act) : (act a).Leads (Lawful truth) (Informed truth) (Informed truth) := by
  cases a
  case begin             => exact beginWith_informed {}
  case beginWith options => exact beginWith_informed options
  case execute sql args  => exact execute_informed sql args
  case drop              => exact onConn_informed fun _ => rfl
  case forget            => exact .pure (fun _ h => h) ()
  case directCommit      => exact tell_informed fun _ => .inl rfl
  case directRollback    => exact tell_informed fun _ => .inr (.inl rfl)
  all_goals exact query_informed _ _

theorem actAll_informed (acts : List Act) : (actAll acts).Leads (Lawful truth) (Informed truth) (Informed truth) := by
  induction acts
  case nil            => exact .pure (fun _ h => h) ()
  case cons a acts ih =>
    exact .bind (.attempt (act_informed a)) (fun _ h => h) (fun _ => ih) fun _ => actAll_reflects _ acts

-- In every run, the server has no transaction open when `begin` or `begin_with` sends its statement.
theorem starts_safely {acts : List Act} {c : Connection} (hr : ∀ r ∈ c.inner.result, r.hasNext = false)
    (h0 : truth 0 = true → c.inTransaction = true) (h : (actAll acts ⟨c, []⟩).state.Lawful truth) :
    (actAll acts ⟨c, []⟩).mapState conn = Act.runAll acts c ∧ (actAll acts ⟨c, []⟩).state.Safe truth :=
  ⟨actAll_erases acts ⟨c, []⟩, (actAll_informed acts ⟨c, []⟩ h ⟨each_nil c, hr, h0⟩).safe⟩

end Acts
end Watched

section Examples

open Command Libraries Server Tokio.Connection Watched

section Answers

variable [Libraries] {c : Connection} {d : Ok} {pieces : List Bytes}

theorem Connection.Ready.quiet (h : c.Ready) : Quiet c := by
  intro p c' hp
  have hr := awaiting_simulates _ (Awaiting.of_clear h.toLive h.toClear)
  have ⟨_, hn, _⟩ := Outcome.Rel.of_pending hr
  exact nomatch hp.symm.trans hn

-- A query that is answered by an OK packet is dealt with as the server has told.
theorem Connection.Ready.lawful (h : c.Ready) (sql : Text) (b before : Bool) (hs : hasMoreResults d.status = false)
    (ha : c.answers.head? = some (pieces.map .ok))
    (hp : Cut c.inner.packetStream.maxAllowedPacket (answerSeq COM_QUERY sql.asBytes) [d.payload] pieces)
    (hn : (Operation.query sql false).Neutral → transacting d.status = true → before = true) :
    (Remark.mk c (.query sql false) b).Lawful before (transacting d.status) := by
  have ⟨p, c', hr, hd⟩ := h.readPacket_ok ha hp
  have hst := h.start (.query sql false)
  refine ⟨h.quiet, fun p' hp' => ?_, fun hx => absurd ⟨_, c', hst, hr⟩ (hx p)⟩
  have ⟨c₁, c₂, h₁, h₂⟩ := hp'
  obtain ⟨_, rfl⟩ := Outcome.ok.inj (hst.symm.trans h₁)
  obtain ⟨rfl, _⟩ := Outcome.ok.inj (hr.symm.trans h₂)
  exact ⟨d.wrapper, hd, hs, rfl, hn⟩

omit [Libraries] in
theorem Connection.Ready.withDirty (h : c.Ready) (b : Bool) : Ready { c with transactionDirty := b } where
  open_    := h.open_
  sent     := h.sent
  stream   := h.stream
  idle     := h.idle
  incoming := h.incoming
  result   := h.result

theorem tell_query {sql : Text} {b : Bool} {w : Watched} {n : Int64} {c' : Connection}
    (h : Connection.query sql false w.conn = .ok n c') :
    tell (.query sql false) b w = .ok () { note (.query sql false) b w with conn := c' } := by
  have hc : (note (.query sql false) b w).conn = w.conn := rfl
  simp [Watched.tell, onConn, Operation.run, hc, h]

theorem beginClean_query {w : Watched} {n : Int64} {c' : Connection} (hw : w.conn.inTransaction = false)
    (h : Connection.query (startTransaction false) false w.conn = .ok n c') :
    beginClean {} w = .ok () { note (.query (startTransaction false) false) true w with conn := c' } := by
  simp [beginClean, hw, tell_query h]

theorem rollbackDirtyTransaction_none {w : Watched} (hd : w.conn.transactionDirty = false)
    (hw : w.conn.inTransaction = false) : Watched.rollbackDirtyTransaction w = .ok () w := by
  simp [Watched.rollbackDirtyTransaction, hd, hw]

theorem rollbackDirtyTransaction_query {w : Watched} {n : Int64} {c' : Connection} (hw : w.conn.inTransaction = true)
    (h : Connection.query ROLLBACK false w.conn = .ok n c') :
    rollbackDirtyTransaction w = .ok () {
      note (.query ROLLBACK false) false w with
      conn := { c' with transactionDirty := false }
    } := by
  simp [Watched.rollbackDirtyTransaction, Watched.query, hw, tell_query h, onConn]

omit [Libraries] in
theorem inTransaction_eq {s : UInt16} (h : c.inner.serverStatus = s) : c.inTransaction = transacting s :=
  congrArg transacting h

end Answers

def startExchange : Exchange :=
  .inTwo (startTransaction false) (.ok begun) 1

def rollbackExchange : Exchange :=
  .inTwo ROLLBACK (.ok done) 1

-- A transaction is abandoned, and another one is begun.
def twice : List Act :=
  [.begin, .drop, .begin]

def givenUp [Libraries] : Connection :=
  established <| [startExchange, rollbackExchange, startExchange].map (·.pieces.map .ok)

def openDuring (k : Nat) : Bool :=
  k = 1 ∨ k = 3

theorem not_neutral_start : ¬(Operation.query (startTransaction false) false).Neutral := by
  rintro (h | h | ⟨level, h⟩)
  case inl       => exact absurd h (by decide)
  case inr.inl   => exact absurd h (by decide)
  case inr.inr   => cases level <;> exact absurd h (by decide)

theorem givenUp_lawful [Libraries] : (actAll twice ⟨givenUp, []⟩).state.Lawful openDuring := by
  have hs : startExchange.Orderly (16 * 1024 * 1024) :=
    Exchange.inTwo_orderly 1 (by decide) (by decide) (by decide) (by decide)
  have hr : rollbackExchange.Orderly (16 * 1024 * 1024) :=
    Exchange.inTwo_orderly 1 (by decide) (by decide) (by decide) (by decide)
  have ready₀ : givenUp.Ready := established_ready _
  have law₀ := ready₀.lawful (startTransaction false) true false rfl rfl hs.cut fun h => absurd h not_neutral_start
  have ⟨n₁, c₁, q₁, f₁, s₁⟩ := ready₀.query_ok rfl rfl hs.cut
  have ready₁ := f₁.ready.withDirty true
  have a₁ : c₁.answers = [rollbackExchange, startExchange].map (·.pieces.map .ok) := f₁.answers
  have m₁ : c₁.inner.packetStream.maxAllowedPacket = 16 * 1024 * 1024 := f₁.alike.max
  have p₁ := m₁.symm ▸ hr.cut
  have law₁ := ready₁.lawful ROLLBACK false true rfl (congrArg List.head? a₁) p₁ fun _ _ => rfl
  have ⟨n₂, c₂, q₂, f₂, s₂⟩ := ready₁.query_ok rfl (congrArg List.head? a₁) p₁
  have ready₂ := f₂.ready.withDirty false
  have a₂ : c₂.answers = [startExchange].map (·.pieces.map .ok) := f₂.answers.trans (congrArg List.tail a₁)
  have m₂ : c₂.inner.packetStream.maxAllowedPacket = 16 * 1024 * 1024 := f₂.alike.max.trans m₁
  have p₂ := m₂.symm ▸ hs.cut
  have law₂ := ready₂.lawful (startTransaction false) true false rfl (congrArg List.head? a₂) p₂ fun h => absurd h not_neutral_start
  have ⟨n₃, c₃, q₃, _⟩ := ready₂.query_ok rfl (congrArg List.head? a₂) p₂
  let start := Operation.query (startTransaction false) false
  let w₁ : Watched := ⟨c₁.markTransactionDirty, [⟨givenUp, start, true⟩]⟩
  let w₂ : Watched := ⟨{ c₂ with transactionDirty := false }, w₁.said ++ [⟨w₁.conn, .query ROLLBACK false, false⟩]⟩
  have hg : givenUp.inTransaction = false := (inTransaction_eq rfl).trans (by decide : transacting 0 = false)
  have clean₀ := rollbackDirtyTransaction_none (w := ⟨givenUp, []⟩) rfl hg
  have first : beginClean {} ⟨givenUp, []⟩ = .ok () ⟨c₁, w₁.said⟩ := beginClean_query hg q₁
  have clean₁ : Watched.rollbackDirtyTransaction w₁ = .ok () w₂ :=
    rollbackDirtyTransaction_query ((inTransaction_eq s₁).trans (by decide)) q₂
  have second : beginClean {} w₂ = .ok () ⟨c₃, w₂.said ++ [⟨w₂.conn, start, true⟩]⟩ :=
    beginClean_query ((inTransaction_eq s₂).trans (by decide)) q₃
  have drop : onConn (modify Connection.markTransactionDirty) ⟨c₁, w₁.said⟩ = .ok () w₁ := rfl
  have hrun : (actAll twice ⟨givenUp, []⟩).state = ⟨c₃, w₂.said ++ [⟨w₂.conn, start, true⟩]⟩ := by
    simp only [twice, actAll, act, beginWith, Proc.bind_apply, Proc.attempt, clean₀, Outcome.bind_ok, first, drop,
      clean₁, second]
    rfl
  rw [hrun]
  exact each_note.mpr ⟨each_note.mpr ⟨each_note.mpr ⟨each_nil _, law₀⟩, law₁⟩, law₂⟩

theorem givenUp_starts_safely :
    (@actAll utf8Only twice ⟨@givenUp utf8Only, []⟩).mapState conn = @Act.runAll utf8Only twice (@givenUp utf8Only) ∧
      (@actAll utf8Only twice ⟨@givenUp utf8Only, []⟩).state.Safe openDuring := by
  let := utf8Only
  exact starts_safely nofun nofun givenUp_lawful

end Examples
end MySQL.Tokio
