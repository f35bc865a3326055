import MysqlRs.Protocol.Completes
import MysqlRs.Session.Operations
import MysqlRs.Session.Pairing

namespace MySQL.Tokio

open Command Server
open MySQLResult (Completes)

section Runs

variable [Libraries]

-- The last OK or EOF packet of the result that is read next carries this status.
inductive Next (u : Bool) (c : Connection) : UInt16 → Prop
  | result {p ps c' s} :
    p.isLoadLocalPacket = false → Connection.packets.Supplies c (p :: ps) c' →
    Completes u .first (p :: ps) s → Next u c s
  -- The server asks for a file first.
  | file {p ps c₁ c₂ c' s} :
    p.isLoadLocalPacket = true → Connection.readPacket c = .ok p c₁ →
    Connection.sendLoadLocalFile p c₁ = .ok () c₂ → Connection.packets.Supplies c₂ ps c' →
    Completes u .first ps s → Next u c s

-- Whether the operation expects an OK packet alone.
def Operation.Simple : Operation → Prop
  | query ..                                => False
  | ping | selectDb _ | commit | rollback => True

-- What is done with a connection, one after another.
inductive Step
  | send (op : Operation)
  | nextResult (unbuffered : Bool)
  | nextRow

namespace Step

def run : Step → Proc Error Connection Unit
  | send op      => op.run
  | nextResult u => do
    let _ ← Connection.nextResult u
  | nextRow      => do
    let _ ← Connection.nextUnbufferedRow

-- The last OK or EOF packet that is consumed carries this status.
inductive Last (c : Connection) : Step → UInt16 → Prop
  | query {sql u c₁ s} :
    (Operation.query sql u).start c = .ok () c₁ → Next u c₁ s → Last c (.send (.query sql u)) s
  | simple {op : Operation} {c₁ p c₂ d} :
    op.Simple → op.start c = .ok () c₁ → Connection.readPacket c₁ = .ok p c₂ →
    OkPacketWrapper.fromPacket.run' p = .ok d → Last c (.send op) d.serverStatus
  | nextResult {u c₁ s} :
    Connection.finishUnbufferedQuery c = .ok () c₁ → Next u c₁ s → Last c (.nextResult u) s
  | nextRow {p c₁ d} :
    c.unbufferedActive = true → Connection.readPacket c = .ok p c₁ →
    EofPacketWrapper.fromPacket.run' p = .ok d → Last c .nextRow d.serverStatus

-- Whether the response has been consumed. Rows come one by one.
def Completed (c c' : Connection) : Step → Prop
  | send _ | nextResult _ => True
  | nextRow               => c.unbufferedActive = true ∧ c'.unbufferedActive = false

-- When the response has been consumed without an error, the connection has the status of its last OK or
-- EOF packet.
def Current (step : Step) (c : Connection) : Prop :=
  ∀ c', step.run c = .ok () c' → step.Completed c c' → ∃ s, step.Last c s ∧ c'.inner.serverStatus = s

-- A status that is not copied is the one the connection has already.
def Agrees (c : Connection) : Step → Prop
  | send (.query ..) | nextResult _ => True
  | send op                         =>
    ∀ c₁ s, op.start c = .ok () c₁ → Last c (.send op) s → c₁.inner.serverStatus = s
  | nextRow                         => ∀ s, Last c .nextRow s → c.inner.serverStatus = s

end Step

-- In a run, after every step.
def AllCurrent : List Step → Connection → Prop
  | [],            _ => True
  | step :: steps, c => step.Current c ∧ AllCurrent steps (step.run c).state

def AllAgree : List Step → Connection → Prop
  | [],            _ => True
  | step :: steps, c => step.Agrees c ∧ AllAgree steps (step.run c).state

namespace Connection

variable {c c' : Connection} {u : Bool}

omit [Libraries] in
theorem lasting_status : Lasting (·.serverStatus) where
  stream _ _ := rfl
  closed _ _ := rfl

omit [Libraries] in
theorem setResult_status {r : MySQLResult} {s : UInt16} (h : r.serverStatus = some s) :
    (c.inner.setResult r).serverStatus = s := by
  rw [MySQL.Connection.setResult, h]
  rfl

-- A result that is read hands its status over.
theorem readQueryResult_next {n : Int64} (h : readQueryResult u c = .ok n c') :
    ∃ s, Next u c s ∧ c'.inner.serverStatus = s := by
  have ⟨_, _, hf, _⟩ := Outcome.bind_eq_ok.mp h
  have ⟨p, c₁, hp, _⟩ := Outcome.bind_eq_ok.mp hf
  cases hl : p.isLoadLocalPacket
  case true =>
    rw [readQueryResult_loadLocal hp hl] at h
    have ⟨_, c₂, hs, h₁⟩ := Outcome.bind_eq_ok.mp h
    have ⟨(n', r), c₃, hr, h₂⟩ := Outcome.bind_eq_ok.mp h₁
    obtain ⟨_, rfl⟩ := Outcome.ok.inj h₂
    have ⟨ps, s, hsup, hc, hst⟩ := MySQLResult.feed_completes inner hr
    exact ⟨s, .file hl hp hs hsup hc, setResult_status hst⟩
  case false =>
    rw [readQueryResult_eq u (fun _ _ hp' => (Outcome.ok.inj (hp.symm.trans hp')).left ▸ hl)] at h
    have ⟨(n', r), c₃, hr, h₂⟩ := Outcome.bind_eq_ok.mp h
    obtain ⟨_, rfl⟩ := Outcome.ok.inj h₂
    have ⟨ps, s, hsup, hc, hst⟩ := MySQLResult.feed_completes inner hr
    cases hsup
    case nil => exact nomatch hc
    case cons hp' hsup =>
      obtain ⟨rfl, rfl⟩ := Outcome.ok.inj (hp.symm.trans hp')
      exact ⟨s, .result hl (.cons hp hsup) hc, setResult_status hst⟩

theorem readOkPacket_eq_ok {d : OkPacketWrapper} :
    readOkPacket c = .ok d c' ↔
      ∃ p, readPacket c = .ok p c' ∧ OkPacketWrapper.fromPacket.run' p = .ok d := by
  constructor
  case mp =>
    intro h
    have ⟨p, c₁, hp, h₁⟩ := Outcome.bind_eq_ok.mp h
    split at h₁
    case isTrue => exact nomatch h₁
    case isFalse =>
      obtain ⟨hd, rfl⟩ := MySQLResult.run_eq_ok.mp h₁
      exact ⟨p, hp, hd⟩
  case mpr =>
    rintro ⟨p, hp, hd⟩
    have ho := MySQLResult.isOkPacket_of_run hd
    simp only [readOkPacket, Proc.bind_apply, hp, Outcome.bind_ok, ho, Bool.not_true, if_false,
      Bool.false_eq_true]
    exact MySQLResult.run_eq_ok.mpr ⟨hd, rfl⟩

omit [Libraries] in
theorem result_active (c : Connection) :
    (c.inner.result.getD {}).unbufferedActive = c.unbufferedActive := by
  cases hr : c.inner.result <;> simp [unbufferedActive, hr]

theorem onResult_some {α : Type} {step : MysqlPacket → Proc Error MySQLResult (Option α)} {x : α}
    {p : MysqlPacket} {c₁ : Connection} {r : MySQLResult} (hp : readPacket c = .ok p c₁)
    (hs : step p (c.inner.result.getD {}) = .ok (some x) r) :
    onResult step c = .ok x (c₁.setInner { c₁.inner with result := some r }) := by
  rw [onResult, Source.feedWithin, packets.feed_ok hp, hs]
  rfl

-- An EOF packet ends the rows, and nothing else does.
theorem rowStep_eof {p : MysqlPacket} {d : EofPacketWrapper} {r : MySQLResult}
    (hr : r.unbufferedActive = true) (hd : EofPacketWrapper.fromPacket.run' p = .ok d) :
    ∃ r', rowStep p r = .ok (some none) r' ∧ r'.unbufferedActive = false := by
  have hp := MySQLResult.isEofPacket_of_run hd
  exact ⟨_, by simp [rowStep, MySQLResult.readRowdataPacketUnbuffered, hr,
    MySQLResult.checkPacketIsEof, hp, MySQLResult.run_eq_pure hd]; rfl, rfl⟩

theorem rowStep_eq_ok {p : MysqlPacket} {r r' : MySQLResult} {x : Option (Option Row)}
    (hr : r.unbufferedActive = true) (h : rowStep p r = .ok x r') :
    (∃ row, x = some (some row) ∧ r'.unbufferedActive = true) ∨
      x = some none ∧ ∃ d, EofPacketWrapper.fromPacket.run' p = .ok d := by
  obtain ⟨row, r₁, hrow, h₁⟩ := Outcome.bind_eq_ok.mp h
  simp only [MySQLResult.readRowdataPacketUnbuffered, Proc.bind_apply, Proc.get_apply,
    Outcome.bind_ok, hr, Bool.not_true, Bool.false_eq_true, if_false] at hrow
  obtain ⟨b, r₂, hb, h₂⟩ := Outcome.bind_eq_ok.mp hrow
  have hb := MySQLResult.checkPacketIsEof_eq_ok hb
  cases b
  case true =>
    obtain ⟨d, hd, _⟩ := hb
    obtain ⟨_, hx, _⟩ := rowStep_eof hr hd
    exact .inr ⟨(Outcome.ok.inj (h.symm.trans hx)).left, d, hd⟩
  case false =>
    obtain ⟨_, rfl⟩ := hb
    obtain ⟨row', r₃, hread, h₃⟩ := Outcome.bind_eq_ok.mp h₂
    obtain ⟨_, rfl⟩ := MySQLResult.run_eq_ok.mp hread
    obtain ⟨rfl, rfl⟩ := Outcome.ok.inj h₃
    obtain ⟨rfl, rfl⟩ := Outcome.ok.inj h₁
    exact .inl ⟨row', rfl, hr⟩

end Connection

open Tokio.Connection

-- The status that comes last is determined.
theorem Next.unique {u : Bool} {c : Connection} {s t : UInt16} (h₁ : Next u c s) (h₂ : Next u c t) :
    s = t := by
  cases h₁
  case result hl hs hc =>
    cases h₂
    case result hl' hs' hc' =>
      have ⟨_, _, h⟩ := hs.comparable hs'
      exact hc.unique hc' h
    case file hl' hp' _ _ _ =>
      obtain ⟨⟩ | ⟨hp, _⟩ := hs
      obtain ⟨rfl, _⟩ := Outcome.ok.inj (hp.symm.trans hp')
      exact nomatch hl.symm.trans hl'
  case file hl hp hf hs hc =>
    cases h₂
    case result hl' hs' hc' =>
      obtain ⟨⟩ | ⟨hp', _⟩ := hs'
      obtain ⟨rfl, _⟩ := Outcome.ok.inj (hp.symm.trans hp')
      exact nomatch hl.symm.trans hl'
    case file hl' hp' hf' hs' hc' =>
      obtain ⟨rfl, rfl⟩ := Outcome.ok.inj (hp.symm.trans hp')
      obtain ⟨_, rfl⟩ := Outcome.ok.inj (hf.symm.trans hf')
      have ⟨_, _, h⟩ := hs.comparable hs'
      exact hc.unique hc' h

namespace Step

variable {c : Connection}

theorem Last.unique {step : Step} {s t : UInt16} (h₁ : step.Last c s) (h₂ : step.Last c t) : s = t := by
  cases h₁
  case query hs hn =>
    cases h₂
    case query hs' hn' =>
      obtain ⟨_, rfl⟩ := Outcome.ok.inj (hs.symm.trans hs')
      exact hn.unique hn'
    case simple _ _ ho _ => exact nomatch ho
  case simple ho hs hp hd =>
    cases h₂
    case query => exact nomatch ho
    case simple hp' hd' _ hs' =>
      obtain ⟨_, rfl⟩ := Outcome.ok.inj (hs.symm.trans hs')
      obtain ⟨rfl, _⟩ := Outcome.ok.inj (hp.symm.trans hp')
      obtain rfl := Except.ok.inj (hd.symm.trans hd')
      rfl
  case nextResult hf hn =>
    cases h₂
    case nextResult hf' hn' =>
      obtain ⟨_, rfl⟩ := Outcome.ok.inj (hf.symm.trans hf')
      exact hn.unique hn'
  case nextRow hp hd =>
    cases h₂
    case nextRow hp' hd' =>
      obtain ⟨rfl, _⟩ := Outcome.ok.inj (hp.symm.trans hp')
      obtain rfl := Except.ok.inj (hd.symm.trans hd')
      rfl

theorem query_current (sql : Text) (u : Bool) : Current (.send (.query sql u)) c := by
  intro c' h _
  change (Operation.query sql u).run c = .ok () c' at h
  rw [Operation.run_eq] at h
  have ⟨_, c₁, hs, h₁⟩ := Outcome.bind_eq_ok.mp h
  have ⟨n, c₂, hr, h₂⟩ := Outcome.bind_eq_ok.mp h₁
  obtain ⟨_, rfl⟩ := Outcome.ok.inj h₂
  have ⟨s, hn, hst⟩ := readQueryResult_next hr
  exact ⟨s, .query hs hn, hst⟩

theorem nextResult_current (u : Bool) : Current (.nextResult u) c := by
  intro c' h _
  have ⟨n, c₁, hr, h₁⟩ := Outcome.bind_eq_ok.mp h
  obtain ⟨_, rfl⟩ := Outcome.ok.inj h₁
  have ⟨_, c₂, hf, hq⟩ := Outcome.bind_eq_ok.mp hr
  have ⟨s, hn, hst⟩ := readQueryResult_next hq
  exact ⟨s, .nextResult hf hn, hst⟩

theorem simple_run {op : Operation} (h : op.Simple) :
    op.run c = (op.start c).bind fun _ c => (readOkPacket c).bind fun _ => pure () := by
  rw [op.run_eq]
  cases op
  case query => exact nomatch h
  all_goals rfl

theorem simple_current_iff {op : Operation} (h : op.Simple) :
    Current (.send op) c ↔
      ∀ c₁ s, op.start c = .ok () c₁ → Last c (.send op) s → c₁.inner.serverStatus = s := by
  have hk : readOkPacket.Keeps fun c => c.inner.serverStatus := fun c d c' hr =>
    have ⟨_, hp, _⟩ := readOkPacket_eq_ok.mp hr
    lasting_status.readPacket.keeps hp
  constructor
  case mp =>
    intro hc c₁ s hs hl
    cases hl
    case query => exact nomatch h
    case simple c₂ p c₃ d hp hd _ hs' =>
      obtain ⟨_, rfl⟩ := Outcome.ok.inj (hs.symm.trans hs')
      have hr := readOkPacket_eq_ok.mpr ⟨p, hp, hd⟩
      have hrun : run (.send op) c = .ok () c₃ := by
        rw [run, simple_run h, hs, Outcome.bind_ok, hr]
        rfl
      have ⟨s, hl, hst⟩ := hc c₃ hrun trivial
      exact ((hk hr).symm.trans hst).trans (hl.unique (.simple h hs hp hd))
  case mpr =>
    intro ha c' hrun _
    rw [run, simple_run h] at hrun
    have ⟨_, c₁, hs, h₁⟩ := Outcome.bind_eq_ok.mp hrun
    have ⟨d, c₂, hr, h₂⟩ := Outcome.bind_eq_ok.mp h₁
    obtain ⟨_, rfl⟩ := Outcome.ok.inj h₂
    have ⟨p, hp, hd⟩ := readOkPacket_eq_ok.mp hr
    have hl := Last.simple h hs hp hd
    exact ⟨_, hl, (hk hr).trans (ha c₁ _ hs hl)⟩

theorem nextRow_current_iff :
    Current .nextRow c ↔ ∀ s, Last c .nextRow s → c.inner.serverStatus = s := by
  constructor
  case mp =>
    intro hc s hl
    cases hl
    case nextRow p c₁ d ha hp hd =>
      obtain ⟨r, hr, hn⟩ := rowStep_eof ((result_active c).trans ha) hd
      have hx := (nextUnbufferedRow_of_active ha).trans (onResult_some hp hr)
      have hrun : run .nextRow c = .ok () (c₁.setInner { c₁.inner with result := some r }) := by
        simp [run, hx]
      obtain ⟨s, hl, hst⟩ := hc _ hrun ⟨ha, hn⟩
      have hk : c₁.inner.serverStatus = c.inner.serverStatus := lasting_status.readPacket.keeps hp
      exact (hk.symm.trans hst).trans (hl.unique (.nextRow ha hp hd))
  case mpr =>
    intro hs c' hrun ⟨ha, hn⟩
    obtain ⟨row, c₁, hx, h₁⟩ := Outcome.bind_eq_ok.mp hrun
    obtain ⟨_, rfl⟩ := Outcome.ok.inj h₁
    rw [nextUnbufferedRow_of_active ha] at hx
    have hr := (result_active c).trans ha
    cases hp : readPacket c
    case ok p c₂ =>
      cases hstep : rowStep p (c.inner.result.getD {})
      case ok y r =>
        rcases rowStep_eq_ok hr hstep with ⟨row', rfl, hact⟩ | ⟨rfl, d, hd⟩
        · obtain ⟨_, rfl⟩ := Outcome.ok.inj ((onResult_some hp hstep).symm.trans hx)
          cases hn.symm.trans hact
        · obtain ⟨_, rfl⟩ := Outcome.ok.inj ((onResult_some hp hstep).symm.trans hx)
          have hl := Last.nextRow ha hp hd
          have hk : c₂.inner.serverStatus = c.inner.serverStatus := lasting_status.readPacket.keeps hp
          exact ⟨_, hl, hk.trans (hs _ hl)⟩
      all_goals
        rw [onResult, Source.feedWithin, packets.feed_ok hp, hstep] at hx
        cases hx
    case error =>
      rw [onResult, Source.feedWithin, packets.feed_next_error hp] at hx
      cases hx
    case pending =>
      rw [onResult, Source.feedWithin, packets.feed_next_pending hp] at hx
      cases hx

theorem current_iff (step : Step) (c : Connection) : step.Current c ↔ step.Agrees c := by
  cases step
  case send op =>
    cases op
    case query sql u => exact iff_of_true (query_current sql u) trivial
    all_goals exact simple_current_iff trivial
  case nextResult u => exact iff_of_true (nextResult_current u) trivial
  case nextRow      => exact nextRow_current_iff

end Step

-- In every run, the status is current after every response exactly if each status that is not copied is
-- the one the connection has already.
theorem allCurrent_iff (steps : List Step) (c : Connection) :
    AllCurrent steps c ↔ AllAgree steps c := by
  induction steps generalizing c
  case nil             => exact Iff.rfl
  case cons step _ ih => exact and_congr (step.current_iff c) (ih _)

namespace Connection

variable {c : Connection} {d : Ok} {pieces : List Bytes}

-- A query that is answered by an OK packet.
theorem Ready.query_ok (h : c.Ready) {sql : Text} (hs : hasMoreResults d.status = false)
    (ha : c.answers.head? = some (pieces.map .ok))
    (hp : Cut c.inner.packetStream.maxAllowedPacket (answerSeq COM_QUERY sql.asBytes) [d.payload] pieces) :
    ∃ n c', Connection.query sql false c = .ok n c' ∧ Follows c c' ∧ c'.inner.serverStatus = d.status := by
  have hf := feed_ok (c.afterCommand COM_QUERY sql.asBytes).outline.inner d false []
    (hp.small _ List.mem_cons_self)
  have ⟨c', a, hq, hw, hall⟩ := query_succeeds h ha hp (List.forall_mem_singleton.mpr d.not_error)
    (fun _ => (Response.ok d).not_loadLocal) hf
  refine ⟨_, c', hq, .of_result (r := d.result false) h ⟨rfl, hs⟩ hw hall, ?_⟩
  exact congrArg (·.inner.serverStatus) hw.left

-- The OK packet is there to be read when the command has been sent.
theorem Ready.readPacket_ok (h : c.Ready) {command : UInt8} {sql : Bytes}
    (ha : c.answers.head? = some (pieces.map .ok))
    (hp : Cut c.inner.packetStream.maxAllowedPacket (answerSeq command sql) [d.payload] pieces) :
    ∃ p c', readPacket (c.afterCommand command sql) = .ok p c' ∧ OkPacketWrapper.fromPacket.run' p = .ok d.wrapper := by
  have hall : (Arrivals.mk [] (batches [d.payload] 0 pieces)).all = [d.payload] := by
    rw [Arrivals.all, hp.batches_flatten]
    rfl
  obtain ⟨a', hsup⟩ := Arrivals.supplies_take (hall.symm ▸ List.forall_mem_singleton.mpr d.not_error :
    ∀ p ∈ (Arrivals.mk [] (batches [d.payload] 0 pieces)).all, ¬IsError p) 1
  rw [hall] at hsup
  obtain ⟨⟩ | ⟨hn, _⟩ := hsup
  obtain ⟨_, c', hr, rfl, _⟩ := (hn ▸ awaiting_simulates _ (h.awaiting ha hp)).of_ok
  obtain ⟨hd, _⟩ := MySQLResult.run_eq_ok.mp (congrFun (d.run (hp.small _ List.mem_cons_self)) ())
  exact ⟨_, c', hr, hd⟩

-- Where nothing is left of the current result, the command is sent at once.
theorem start_of_finished (h : ∀ r ∈ c.inner.result, r.Finished) (op : Operation) :
    op.start c = send op.command op.payload c := by
  cases op
  case query sql u =>
    rw [Operation.start, Proc.bind_apply, finishUnbufferedQuery_of_inactive (unbufferedActive_of_finished h)]
    rfl
  all_goals rfl

theorem Ready.start (h : c.Ready) (op : Operation) :
    op.start c = .ok () (c.afterCommand op.command op.payload) :=
  (start_of_finished h.result op).trans (h.send _ _)

theorem Ready.simple_ok (h : c.Ready) {op : Operation} (ho : op.Simple)
    (ha : c.answers.head? = some (pieces.map .ok))
    (hp : Cut c.inner.packetStream.maxAllowedPacket (answerSeq op.command op.payload) [d.payload]
      pieces) :
    op.start c = .ok () (c.afterCommand op.command op.payload) ∧
      Step.Last c (.send op) d.status :=
  have ⟨_, _, hr, hd⟩ := h.readPacket_ok ha hp
  ⟨h.start op, .simple ho (h.start op) hr hd⟩

end Connection
end Runs

section Examples

open Libraries Tokio.Connection

-- A transaction is begun and committed.
def begun : Ok := ⟨0, 0, 3, 0, []⟩

def beginExchange : Exchange :=
  .inTwo "BEGIN".toList (.ok begun) 1

def commitExchange : Exchange :=
  .inTwo "COMMIT".toList (.ok done) 1

def committed [Libraries] : Connection :=
  established [beginExchange.pieces.map .ok, commitExchange.pieces.map .ok]

theorem commit_not_current :
    ¬@AllCurrent utf8Only [.send (.query beginExchange.sql false), .send .commit]
      (@committed utf8Only) := by
  let := utf8Only
  have hb : beginExchange.Orderly (16 * 1024 * 1024) :=
    Exchange.inTwo_orderly 1 (by decide) (by decide) (by decide) (by decide)
  have hc : commitExchange.Orderly (16 * 1024 * 1024) :=
    Exchange.inTwo_orderly 1 (by decide) (by decide) (by decide) (by decide)
  have simple : Operation.commit.Simple := trivial
  have hr : committed.Ready := established_ready _
  have ⟨n, c, hq, hf, hs⟩ := hr.query_ok rfl rfl hb.cut
  have ⟨hst, hl⟩ := hf.ready.simple_ok (d := done) simple (by rw [hf.answers]; rfl)
    (by rw [hf.alike.max]; exact hc.cut)
  rintro ⟨_, hcur, _⟩
  have hrun : (Step.run (.send (.query beginExchange.sql false)) committed).state = c := by
    simp [Step.run, Operation.run, hq, Outcome.state]
  rw [hrun] at hcur
  have := (Step.simple_current_iff simple).mp hcur _ _ hst hl
  change c.inner.serverStatus = 2 at this
  rw [hs] at this
  exact absurd this (by decide)

end Examples
end MySQL.Tokio
