import MysqlRs.Tokio.Cursor
import MysqlRs.Tokio.Status

namespace MySQL.Tokio

open Command Server PacketStream

-- The error that an error packet raises.
abbrev raised (e : Bytes) : Error :=
  Error.raiseMysqlException (errPayload e)

-- What a client does with a connection, one after another.
inductive Use
  | step (step : Step)
  | finish

namespace Use

variable [Libraries]

def run : Use → Proc Error Connection Unit
  | step s => s.run
  | finish => Connection.finishUnbufferedQuery

-- A call that fails is the last one.
def runAll : List Use → Proc Error Connection Unit
  | []          => pure ()
  | use :: uses => do
    use.run
    runAll uses

end Use

namespace Connection

-- No flag of the current result promises anything.
def Unpromised (c : Connection) : Prop :=
  ∀ r ∈ c.inner.result, r.Finished

variable [Libraries] {c c' : Connection} {w : Owed} {a : Arrivals} {e : Bytes} {u : Bool}

section Owing

omit [Libraries] in
-- As long as the error has not been read, something is promised.
theorem Owes.not_unpromised (h : c.Owes w a) (he : w.error = some e) : ¬c.Unpromised := by
  have hr := h.recorded
  rw [Owed.Recorded] at hr
  cases hb : w.body
  case some b =>
    rw [hb] at hr
    obtain ⟨r, hres, hr⟩ := hr
    intro hs
    have := hr.active.symm.trans (hs r hres).left
    cases this
  case none =>
    rw [hb] at hr
    have hf : w.follows = true := by simp [Owed.follows, he]
    cases hres : c.inner.result
    case none   => simp [hres, hf] at hr
    case some r =>
      rw [hres] at hr
      intro hs
      have := (hr.right.trans hf).symm.trans (hs r hres).right
      cases this

omit [Libraries] in
theorem not_unpromised_of_active (h : c.unbufferedActive = true) : ¬c.Unpromised := by
  intro hs
  rw [unbufferedActive] at h
  cases hr : c.inner.result
  case none   => simp [hr] at h
  case some r => simp [hr, (hs r hr).left] at h

omit [Libraries] in
theorem Unpromised.of_result (h : c'.inner.result = c.inner.result) : c'.Unpromised ↔ c.Unpromised := by
  rw [Unpromised, Unpromised, h]

omit [Libraries] in
-- The error is the last packet, and the only one.
theorem Owes.all_error (h : c.Owes w a) (he : w.error = some e) :
    a.all = (Part.bodyPayloads w.body ++ w.parts.flatMap (·.payloads)) ++ [errPayload e] ∧
      ∀ p ∈ Part.bodyPayloads w.body ++ w.parts.flatMap (·.payloads), ¬IsError p := by
  constructor
  · rw [h.all, Owed.payloads, Owed.later, he, List.append_assoc]
    rfl
  · refine List.forall_mem_append.mpr ⟨?_, Owed.parts_not_error w.parts⟩
    have hr := h.recorded
    rw [Owed.Recorded] at hr
    cases hb : w.body
    case none => rintro _ ⟨⟩
    case some b =>
      rw [hb] at hr
      obtain ⟨r, _, hr⟩ := hr
      exact hr.not_error

-- The rest of the current result is skipped, or the error comes in between.
theorem Owes.finish_or (h : c.Owes w a) (he : w.error = some e) :
    (∃ c' a', finishUnbufferedQuery c = .ok () c' ∧ Owes c' { w with body := none } a') ∨
      ∃ c', finishUnbufferedQuery c = .error (raised e) c' ∧ ¬c'.Unpromised := by
  obtain ⟨hall, hne⟩ := h.all_error he
  cases hb : w.body
  case none =>
    have hw : { w with body := none } = w := by rw [← hb]
    exact .inl ⟨c, a, finishUnbufferedQuery_of_inactive (h.inactive hb), hw.symm ▸ h⟩
  case some b =>
    by_cases hk : ∀ k, b.rows.length + 1 ≤ a.arrivedBy k → a.all.length ≤ a.arrivedBy k
    case pos =>
      obtain ⟨c', hf, hu⟩ := h.finish_error hb he hk
      exact .inr ⟨c', hf, not_unpromised_of_active hu⟩
    case neg =>
      push Not at hk
      obtain ⟨k, hk, hlt⟩ := hk
      have hr := h.recorded
      rw [Owed.Recorded, hb] at hr
      obtain ⟨r, _, hr⟩ := hr
      cases heof : b.eof
      case none =>
        have hp := (hr.cut heof).left
        rw [hall, hb, hp] at hlt
        simp [Part.bodyPayloads, Body.payloads, heof] at hlt
        omega
      case some eof =>
        obtain ⟨a', hs⟩ := Arrivals.supplies_before hall hne hk hlt
        have hl : b.payloads.length = b.rows.length + 1 := by simp [Body.payloads, heof]
        have ht : (Part.bodyPayloads w.body ++ w.parts.flatMap (·.payloads)).take (b.rows.length + 1) =
            b.payloads := by
          rw [hb, ← hl]
          exact List.take_left
        rw [ht] at hs
        obtain ⟨c', hq, ho, _⟩ := h.finish hb heof hs
        exact .inl ⟨c', a', hq, ho⟩

-- A row is taken, or the error comes in its place.
theorem Owes.nextRow_or (h : c.Owes w a) (he : w.error = some e) :
    (∃ row c' w' a', nextUnbufferedRow c = .ok row c' ∧ Owes c' w' a' ∧ w'.error = w.error ∧
        w'.parts = w.parts) ∨
      ∃ c', nextUnbufferedRow c = .error (raised e) c' ∧ ¬c'.Unpromised := by
  obtain ⟨hall, hne⟩ := h.all_error he
  cases hb : w.body
  case none => exact .inl ⟨none, c, w, a, by simp [nextUnbufferedRow, h.inactive hb], h, rfl, rfl⟩
  case some b =>
    by_cases hk : ∀ k, 1 ≤ a.arrivedBy k → a.all.length ≤ a.arrivedBy k
    case pos =>
      obtain ⟨c', hx, hres⟩ := h.nextRow_error hb he hk
      exact .inr ⟨c', hx, fun hs => h.not_unpromised he ((Unpromised.of_result hres).mp hs)⟩
    case neg =>
      push Not at hk
      obtain ⟨k, hk, hlt⟩ := hk
      have hr := h.recorded
      rw [Owed.Recorded, hb] at hr
      obtain ⟨r, _, hr⟩ := hr
      cases hq : b.payloads
      case nil =>
        have heof : b.eof = none := by
          cases heof : b.eof
          case none   => rfl
          case some _ => simp [Body.payloads, heof] at hq
        rw [hall, hb, (hr.cut heof).left] at hlt
        simp [Part.bodyPayloads, hq] at hlt
        omega
      case cons q qs =>
        obtain ⟨a', hs⟩ := Arrivals.supplies_before hall hne hk hlt
        have ht : (Part.bodyPayloads w.body ++ w.parts.flatMap (·.payloads)).take 1 = [q] := by
          rw [hb, Part.bodyPayloads, Option.map_some, Option.getD_some, hq]
          rfl
        rw [ht] at hs
        obtain ⟨c', hx, _, ho, _⟩ := h.nextRow hb hq hs
        exact .inl ⟨_, c', _, a', hx, ho, rfl, rfl⟩

-- The next result is read before the error comes in.
theorem Reads.read_before (h : c.Reads w a) (hb : w.body = none) (he : w.error = some e)
    (hok : u = true → ∀ d, Part.ok d ∉ w.parts)
    (hk : ¬∀ k, w.need u ≤ a.arrivedBy k → a.all.length ≤ a.arrivedBy k) :
    ∃ p ps b n c' a', w.parts = p :: ps ∧ p.rest u = some b ∧ readQueryResult u c = .ok n c' ∧
      Owes c' ⟨b, ps, some e⟩ a' := by
  have hall : a.all = w.parts.flatMap (·.payloads) ++ [errPayload e] := by
    rw [h.all, Owed.payloads, Owed.later, hb, he]
    rfl
  push Not at hk
  obtain ⟨k, hk, hlt⟩ := hk
  have hc := h.chained
  cases hp : w.parts
  case nil =>
    rw [hall, hp] at hlt
    rw [Owed.need, hp] at hk
    simp at hlt hk
    omega
  case cons p ps =>
    rw [hp] at hc hall hok
    rw [Owed.need, hp] at hk
    change p.need u ≤ a.arrivedBy k at hk
    rw [Part.need] at hk
    have hsplit := Part.payloads_split u hc.left
    cases hr : p.rest u
    case none =>
      -- Only the error follows a result that is cut short.
      have hps : ps = [] := by
        cases p
        case cut r n => exact hc.right.left ⟨r, n, rfl⟩
        all_goals cases hr
      rw [hall, hps, List.flatMap_cons, hsplit, Part.body, hr] at hlt
      simp [hr, Part.bodyPayloads] at hlt hk
      omega
    case some b =>
      simp only [hr, Option.isSome_some, if_true] at hk
      obtain ⟨a', hs⟩ := Arrivals.supplies_before hall (hp ▸ Owed.parts_not_error w.parts) hk hlt
      rw [List.flatMap_cons, hsplit, List.append_assoc, List.take_left] at hs
      obtain ⟨c', hq, hres, hrd, _⟩ := h.read hb hp hr hs
      have hrows : ¬(u = true ∧ ∃ d, p = .ok d) := by
        rintro ⟨hu, d, rfl⟩
        exact hok hu d List.mem_cons_self
      have hrec := (recorded_result c.inner hr hc).mpr hrows
      rw [he] at hrd hrec
      exact ⟨p, ps, b, _, c', a', rfl, hr, hq, (hrd.owes_iff hres).mpr hrec⟩

-- The next result is read, or the error comes before it.
theorem Reads.nextResult_or (h : c.Reads w a) (hb : w.body = none) (he : w.error = some e)
    (hok : u = true → ∀ d, Part.ok d ∉ w.parts) :
    (∃ p ps b n c' a', w.parts = p :: ps ∧ p.rest u = some b ∧ readQueryResult u c = .ok n c' ∧
        Owes c' ⟨b, ps, some e⟩ a') ∨
      ∃ c', readQueryResult u c = .error (raised e) c' ∧ c'.inner.result = c.inner.result := by
  by_cases hk : ∀ k, w.need u ≤ a.arrivedBy k → a.all.length ≤ a.arrivedBy k
  case pos =>
    obtain ⟨c', hq, hres, _⟩ := h.read_error hb he hk
    exact .inr ⟨c', hq, hres⟩
  case neg => exact .inl (h.read_before hb he hok hk)

-- A new command cannot be sent, as nobody has read the error.
theorem Owes.send_refused (h : c.Owes w a) (he : w.error = some e) (command : UInt8) (sql : Bytes) :
    ∃ c', send command sql c = .error .needMoreData c' := by
  have hall := (h.all_error he).left
  have hc : a.coming.flatten ≠ [] := by
    intro hc
    have hq : a.queue = a.all := by rw [Arrivals.all, hc, List.append_nil]
    refine h.queue (errPayload e) ?_ (isError_errPayload e)
    rw [hq, hall]
    exact List.mem_append_right _ (List.mem_singleton_self _)
  obtain ⟨c', hs, _⟩ := h.send_short hc command sql
  exact ⟨c', hs⟩

-- Between the results and the error, a call goes on, or it gives the error and leaves a flag, or it fails
-- in another way.
def Goes (e : Bytes) (use : Use) (c : Connection) : Prop :=
  (∃ c' w a, use.run c = .ok () c' ∧ Owes c' w a ∧ w.error = some e ∧ ∀ d, Part.ok d ∉ w.parts) ∨
    ∃ err c', use.run c = .error err c' ∧ (err = raised e → ¬c'.Unpromised)

theorem Owes.start_or (h : c.Owes w a) (he : w.error = some e) (op : Operation) :
    ∃ err c', op.start c = .error err c' ∧ (err = raised e → ¬c'.Unpromised) := by
  have refused {c : Connection} {w : Owed} {a : Arrivals} (h : c.Owes w a) (he : w.error = some e) :
      ∃ err c', send op.command op.payload c = .error err c' ∧ (err = raised e → ¬c'.Unpromised) := by
    obtain ⟨c', hs⟩ := h.send_refused he op.command op.payload
    exact ⟨.needMoreData, c', hs, fun hn => absurd hn.symm (Error.raiseMysqlException_ne_needMoreData _)⟩
  cases op
  case query sql u =>
    obtain ⟨c₁, a₁, hf, ho⟩ | ⟨c', hf, hs⟩ := h.finish_or he
    · obtain ⟨err, c', hs, hn⟩ := refused ho he
      exact ⟨err, c', by simp [Operation.start, hf, hs], hn⟩
    · exact ⟨raised e, c', by simp [Operation.start, hf], fun _ => hs⟩
  all_goals exact refused h he

theorem Owes.use (h : c.Owes w a) (he : w.error = some e) (hok : ∀ d, Part.ok d ∉ w.parts) (use : Use) :
    Goes e use c := by
  cases use
  case finish =>
    obtain ⟨c', a', hf, ho⟩ | ⟨c', hf, hs⟩ := h.finish_or he
    · exact .inl ⟨c', _, a', hf, ho, he, hok⟩
    · exact .inr ⟨raised e, c', hf, fun _ => hs⟩
  case step step =>
    cases step
    case nextRow =>
      obtain ⟨row, c', w', a', hx, ho, he', hp⟩ | ⟨c', hx, hs⟩ := h.nextRow_or he
      · exact .inl ⟨c', w', a', by simp [Use.run, Step.run, hx], ho, he'.trans he, hp ▸ hok⟩
      · exact .inr ⟨raised e, c', by simp [Use.run, Step.run, hx], fun _ => hs⟩
    case send op =>
      obtain ⟨err, c', hs, hn⟩ := h.start_or he op
      exact .inr ⟨err, c', by rw [Use.run, Step.run, op.run_eq, hs]; rfl, hn⟩
    case nextResult u =>
      obtain ⟨c₁, a₁, hf, ho⟩ | ⟨c', hf, hs⟩ := h.finish_or he
      · obtain ⟨p, ps, b, n, c', a', hp, _, hq, ho'⟩ | ⟨c', hq, hres⟩ :=
          ho.toReads.nextResult_or (u := u) rfl he fun _ => hok
        · refine .inl ⟨c', _, a', by simp [Use.run, Step.run, Connection.nextResult, hf, hq], ho', rfl,
            fun d hd => ?_⟩
          change w.parts = p :: ps at hp
          exact hok d (hp ▸ List.mem_cons_of_mem p hd)
        · refine .inr ⟨raised e, c', by simp [Use.run, Step.run, Connection.nextResult, hf, hq], fun _ hs => ?_⟩
          exact ho.not_unpromised he ((Unpromised.of_result hres).mp hs)
      · exact .inr ⟨raised e, c', by simp [Use.run, Step.run, Connection.nextResult, hf], fun _ => hs⟩

-- When the error is returned at last, a flag is left.
theorem Owes.runAll_not_unpromised {uses : List Use} (h : c.Owes w a) (he : w.error = some e)
    (hok : ∀ d, Part.ok d ∉ w.parts) (hr : Use.runAll uses c = .error (raised e) c') : ¬c'.Unpromised := by
  induction uses generalizing c w a
  case nil => cases hr
  case cons use uses ih =>
    obtain ⟨c₁, w₁, a₁, hx, ho, he₁, hok₁⟩ | ⟨err, c₁, hx, hs⟩ := h.use he hok use
    · rw [Use.runAll, Proc.bind_apply, hx] at hr
      exact ih ho he₁ hok₁ hr
    · rw [Use.runAll, Proc.bind_apply, hx] at hr
      obtain ⟨hn, rfl⟩ := Outcome.error.inj hr
      exact hs hn

end Owing

section EndsInError

variable {sql : Text} {parts : List Part} {pieces : List Bytes}

-- The server answers a command with results and an error behind them, and the bytes come in these reads.
structure EndsInError (c : Connection) (sql : Text) (parts : List Part) (e : Bytes) (pieces : List Bytes) :
    Prop extends Ready c where
  answer  : c.answers.head? = some (pieces.map .ok)
  chained : Owed.Chained (some e) parts
  cut     : Cut c.inner.packetStream.maxAllowedPacket (answerSeq COM_QUERY sql.asBytes)
    (Owed.payloads ⟨none, parts, some e⟩) pieces

-- As soon as the packets are there that reading the first result takes, the error is there, too.
def Early (u : Bool) (parts : List Part) (e : Bytes) (pieces : List Bytes) : Prop :=
  let w : Owed := ⟨none, parts, some e⟩
  let a : Arrivals := ⟨[], batches w.payloads 0 pieces⟩
  ∀ k, w.need u ≤ a.arrivedBy k → a.all.length ≤ a.arrivedBy k

omit [Libraries] in
theorem EndsInError.reads (h : c.EndsInError sql parts e pieces) :
    Reads (c.afterCommand COM_QUERY sql.asBytes) ⟨none, parts, some e⟩
      ⟨[], batches (Owed.payloads ⟨none, parts, some e⟩) 0 pieces⟩ where
  live     := (h.toReady.afterCommand_live _ _).of_outline rfl
  awaiting := h.toReady.awaiting h.answer h.cut
  all      := by rw [Arrivals.all, h.cut.batches_flatten, List.nil_append]
  small    := h.cut.small
  chained  := h.chained
  queue    := by rintro _ ⟨⟩

theorem EndsInError.query_early (h : c.EndsInError sql parts e pieces) (hk : Early u parts e pieces) :
    ∃ c', query sql u c = .error (raised e) c' ∧ c'.inner.result = none := by
  obtain ⟨c', hq, hres, _⟩ := h.reads.read_error rfl rfl hk
  exact ⟨c', (h.toReady.query sql u).trans hq, hres⟩

theorem EndsInError.query_late (h : c.EndsInError sql parts e pieces) (hok : u = true → ∀ d, Part.ok d ∉ parts)
    (hk : ¬Early u parts e pieces) :
    ∃ p ps b n c' a', parts = p :: ps ∧ p.rest u = some b ∧ query sql u c = .ok n c' ∧
      Owes c' ⟨b, ps, some e⟩ a' := by
  rw [h.toReady.query sql u]
  exact h.reads.read_before rfl rfl hok hk

-- When the error is returned, no flag is left if and only if the query itself returns it.
theorem EndsInError.unpromised_iff (h : c.EndsInError sql parts e pieces) (hok : ∀ d, Part.ok d ∉ parts)
    {uses : List Use} (hr : Use.runAll (.step (.send (.query sql u)) :: uses) c = .error (raised e) c') :
    c'.Unpromised ↔ Early u parts e pieces := by
  rw [Use.runAll, Proc.bind_apply] at hr
  by_cases hk : Early u parts e pieces
  case pos =>
    obtain ⟨c₁, hq, hres⟩ := h.query_early hk
    have hx : (Use.step (.send (.query sql u))).run c = .error (raised e) c₁ := by
      simp [Use.run, Step.run, Operation.run, hq]
    rw [hx] at hr
    obtain ⟨_, rfl⟩ := Outcome.error.inj hr
    refine iff_of_true (fun r hr => ?_) hk
    rw [hres] at hr
    cases hr
  case neg =>
    obtain ⟨p, ps, b, n, c₁, a₁, hp, _, hq, ho⟩ := h.query_late (fun _ => hok) hk
    have hx : (Use.step (.send (.query sql u))).run c = .ok () c₁ := by
      simp [Use.run, Step.run, Operation.run, hq]
    rw [hx] at hr
    refine iff_of_false (ho.runAll_not_unpromised rfl (fun d hd => ?_) hr) hk
    exact hok d (hp ▸ List.mem_cons_of_mem p hd)

end EndsInError

end Connection

namespace Cursor

open Tokio.Connection

-- What a client does with a cursor.
inductive Use
  | execute (query : Text) (args : Option (List Value))
  | nextSet
  | close

variable [Libraries]

namespace Use

def run : Use → Proc Error Cursor Unit
  | execute query args => do
    let _ ← Cursor.execute query args
  | nextSet            => do
    let _ ← Cursor.nextSet
  | close              => Cursor.close

def runAll : List Use → Proc Error Cursor Unit
  | []          => pure ()
  | use :: uses => do
    use.run
    runAll uses

end Use

-- A further result is announced, in both places, and the error has not been read.
structure Promised (e : Bytes) (c : Cursor) : Prop where
  owes : ∃ w a, Owes c.connection w a ∧ w.body = none ∧ w.error = some e
  open_ : c.closed = false
  next : c.hasNext = true

variable {c c' : Cursor} {w : Owed} {a : Arrivals} {e : Bytes}

omit [Libraries] in
-- The flag is copied from the connection.
theorem Promised.refresh (hc : c.closed = false) (h : Owes c.connection w a) (hb : w.body = none)
    (he : w.error = some e) : Promised e c.refreshResult := by
  refine ⟨⟨w, a, by rwa [refreshResult_connection], hb, he⟩, (refreshResult_closed c).trans hc, ?_⟩
  have hr := h.recorded
  rw [Owed.Recorded, hb] at hr
  have hf : w.follows = true := by simp [Owed.follows, he]
  have hn := hr.right.trans hf
  cases hres : c.connection.inner.result
  case none   => simp [hres] at hn
  case some r =>
    rw [hres] at hn
    simpa [hasNext, refreshResult, Connection.result, hres] using hn

theorem Promised.nextSet (h : Promised e c) :
    (∃ c', nextSet c = .ok true c' ∧ Promised e c') ∨
      ∃ c', nextSet c = .error (raised e) c' ∧ c'.hasNext = true := by
  obtain ⟨⟨w, a, ho, hb, he⟩, hc, hn⟩ := h
  have hf := finishUnbufferedQuery_of_inactive (ho.inactive hb)
  obtain ⟨p, ps, b, n, conn, a', hp, hr, hq, ho'⟩ | ⟨conn, hq, _⟩ :=
    ho.toReads.nextResult_or (u := false) hb he (by simp)
  · have hx : Connection.nextResult false c.connection = .ok n conn := by
      simp [Connection.nextResult, hf, hq]
    have hp' : Promised e (c.setConnection conn).refreshResult :=
      .refresh hc ho' (MySQL.Connection.rest_false hr) rfl
    refine .inl ⟨(c.setConnection conn).refreshResult, ?_, hp'⟩
    simp [Cursor.nextSet, hn, onConnection, hx, hp'.next]
  · have hx : Connection.nextResult false c.connection = .error (raised e) conn := by
      simp [Connection.nextResult, hf, hq]
    exact .inr ⟨c.setConnection conn, by simp [Cursor.nextSet, hn, onConnection, hx], hn⟩

theorem Promised.drain (h : Promised e c) : ∃ c', drain c = .error (raised e) c' ∧ c'.hasNext = true := by
  fun_induction Cursor.drain c
  case case1 c c₁ hx ih =>
    obtain ⟨c', hn, hp⟩ | ⟨c', hn, _⟩ := h.nextSet
    · obtain ⟨_, rfl⟩ := Outcome.ok.inj (hx.symm.trans hn)
      exact ih hp
    · cases hx.symm.trans hn
  case case3 c e' c₁ hx =>
    obtain ⟨c', hn, _⟩ | ⟨c', hn, hs⟩ := h.nextSet
    · cases hx.symm.trans hn
    · obtain ⟨rfl, rfl⟩ := Outcome.error.inj (hx.symm.trans hn)
      exact ⟨_, rfl, hs⟩
  all_goals
    rename_i hx
    obtain ⟨c', hn, _⟩ | ⟨c', hn, _⟩ := h.nextSet
    all_goals cases hx.symm.trans hn

theorem Promised.use (h : Promised e c) (use : Use) :
    (∃ c', use.run c = .ok () c' ∧ Promised e c') ∨
      ∃ c', use.run c = .error (raised e) c' ∧ c'.hasNext = true := by
  obtain ⟨c₁, hd, hs⟩ := h.drain
  cases use
  case execute query args =>
    exact .inr ⟨c₁, by simp [Use.run, Cursor.execute, checkClosed, h.open_, hd], hs⟩
  case close => exact .inr ⟨c₁, by simp [Use.run, Cursor.close, h.open_, hd], hs⟩
  case nextSet =>
    obtain ⟨c', hn, hp⟩ | ⟨c', hn, hs⟩ := h.nextSet
    · exact .inl ⟨c', by simp [Use.run, hn], hp⟩
    · exact .inr ⟨c', by simp [Use.run, hn], hs⟩

theorem Promised.runAll {uses : List Use} (h : Promised e c)
    (hr : Use.runAll uses c = .error (raised e) c') : c'.hasNext = true := by
  induction uses generalizing c
  case nil => cases hr
  case cons use uses ih =>
    rw [Use.runAll, Proc.bind_apply] at hr
    obtain ⟨c₁, hx, hp⟩ | ⟨c₁, hx, hs⟩ := h.use use
    · rw [hx] at hr
      exact ih hp hr
    · rw [hx] at hr
      obtain ⟨_, rfl⟩ := Outcome.error.inj hr
      exact hs

variable {query sql : Text} {args : Option (List Value)} {parts : List Part} {pieces : List Bytes}

theorem Usable.unpromised_iff (hu : c.Usable) (hm : c.connection.mogrify query args = .ok sql)
    (h : c.connection.EndsInError sql parts e pieces) {uses : List Use}
    (hr : Use.runAll (.execute query args :: uses) c = .error (raised e) c') :
    c'.connection.Unpromised ∧ c'.hasNext = false ↔ Early false parts e pieces := by
  rw [Use.runAll, Proc.bind_apply] at hr
  by_cases hk : Early false parts e pieces
  case pos =>
    obtain ⟨conn, hq, hres⟩ := h.query_early hk
    have hx : (Use.execute query args).run c = .error (raised e) (c.setConnection conn) := by
      simp [Use.run, Cursor.execute, checkClosed, hu.open_, hu.drain, hm, onConnection, hq]
    rw [hx] at hr
    obtain ⟨_, rfl⟩ := Outcome.error.inj hr
    refine iff_of_true ⟨fun r hr => ?_, hu.last⟩ hk
    change r ∈ conn.inner.result at hr
    rw [hres] at hr
    cases hr
  case neg =>
    obtain ⟨p, ps, b, n, conn, a', _, hrest, hq, ho⟩ := h.query_late (u := false) (by simp) hk
    have hx : (Use.execute query args).run c =
        .ok () { (c.setConnection conn).refreshResult with executed := some sql } := by
      simp [Use.run, hu.execute_ok hm hq]
    have hp : Promised e (c.setConnection conn).refreshResult :=
      .refresh hu.open_ ho (MySQL.Connection.rest_false hrest) rfl
    have hp' : Promised e { (c.setConnection conn).refreshResult with executed := some sql } :=
      ⟨hp.owes, hp.open_, hp.next⟩
    rw [hx] at hr
    refine iff_of_false (fun hs => ?_) hk
    have := hs.right.symm.trans (hp'.runAll hr)
    cases this

end Cursor

section Ends

variable [Libraries] {parts : List Part} {e : Bytes} {pieces : List Bytes}

-- When the error behind the results has been returned, no flag promises packets if and only if the first call
-- returns it, be the calls those of a connection or those of a cursor.
theorem error_ends_iff :
    (∀ (c c' : Connection) (sql : Text) (u : Bool) (uses : List Use), c.EndsInError sql parts e pieces →
      (∀ d, Part.ok d ∉ parts) → Use.runAll (.step (.send (.query sql u)) :: uses) c = .error (raised e) c' →
        (c'.Unpromised ↔ Connection.Early u parts e pieces)) ∧
    ∀ (c c' : Cursor) (query sql : Text) (args : Option (List Value)) (uses : List Cursor.Use), c.Usable →
      c.connection.mogrify query args = .ok sql → c.connection.EndsInError sql parts e pieces →
      Cursor.Use.runAll (.execute query args :: uses) c = .error (raised e) c' →
        (c'.connection.Unpromised ∧ c'.hasNext = false ↔ Connection.Early false parts e pieces) :=
  ⟨fun _ _ _ _ _ h hok hr => h.unpromised_iff hok hr, fun _ _ _ _ _ _ hu hm h hr => hu.unpromised_iff hm h hr⟩

end Ends

section Examples

open Libraries Tokio.Connection

-- A result set that announces another one.
def oneMore : ResultSet :=
  { oneRow with rowsEof := ⟨0, 10⟩ }

def failing : Owed :=
  ⟨none, [.set oneMore], some []⟩

def firstSeq : UInt8 :=
  answerSeq COM_QUERY select.asBytes

-- The error comes in the read that brings the result set, or in a read of its own.
def together : List Bytes :=
  [framed firstSeq failing.payloads]

def apart : List Bytes :=
  [framed firstSeq oneMore.payloads, framed (seqAfter firstSeq oneMore.payloads) [errPayload []]]

theorem failing_fits : ∀ p ∈ failing.payloads, p.length ≤ (16 * 1024 * 1024 : UInt64).toNat := by
  decide

theorem failing_answered {pieces : List Bytes} (hn : [] ∉ pieces)
    (hb : pieces.flatten = framed firstSeq failing.payloads) :
    (established [pieces.map .ok]).EndsInError select failing.parts [] pieces where
  toReady := established_ready _
  answer  := rfl
  chained := ⟨rfl, by rintro ⟨_, _, ⟨⟩⟩, trivial⟩
  cut     := .of_short hn hb (by decide) failing_fits (by decide)

theorem together_answered : (established [together.map .ok]).EndsInError select failing.parts [] together := by
  refine failing_answered (fun h => ?_) (List.append_nil _)
  exact absurd (framed_eq_nil (List.mem_singleton.mp h).symm) (by decide)

theorem apart_answered : (established [apart.map .ok]).EndsInError select failing.parts [] apart := by
  refine failing_answered (fun h => ?_) ?_
  · obtain h | h := List.mem_cons.mp h
    · exact absurd (framed_eq_nil h.symm) (by decide)
    · exact absurd (framed_eq_nil (List.mem_singleton.mp h).symm) (by decide)
  · have hp : failing.payloads = oneMore.payloads ++ [errPayload []] := by decide
    rw [hp, framed_append, apart, List.flatten_cons, List.flatten_singleton]

theorem batches_two (seq seq' : UInt8) (ps qs : List Bytes) :
    batches (ps ++ qs) 0 [framed seq ps, framed seq' qs] = [ps, qs] := by
  have h₁ : arrived (ps ++ qs) (framedLen ps) = ps.length := by
    simpa [arrived_zero] using arrived_append ps qs 0
  simp [batches, h₁, arrived_framedLen]

theorem early_iff {u : Bool} {parts : List Part} {e : Bytes} {pieces : List Bytes} {bs : List (List Bytes)}
    (h : batches (Owed.payloads ⟨none, parts, some e⟩) 0 pieces = bs) :
    Early u parts e pieces ↔ ∀ k, Owed.need u ⟨none, parts, some e⟩ ≤ (bs.take k).flatten.length →
      bs.flatten.length ≤ (bs.take k).flatten.length := by
  subst h
  simp [Early, Arrivals.arrivedBy, Arrivals.all]

theorem together_early : Early false failing.parts [] together := by
  refine (early_iff (batches_whole _ _)).mpr fun k hk => ?_
  cases k
  case zero   => exact absurd hk (by decide)
  case succ k =>
    rw [List.take_succ_cons, List.take_nil]

theorem apart_late : ¬Early false failing.parts [] apart := by
  have hp : failing.payloads = oneMore.payloads ++ [errPayload []] := by decide
  have hb : batches failing.payloads 0 apart = [oneMore.payloads, [errPayload []]] := by
    rw [hp]
    exact batches_two _ _ _ _
  exact fun h => absurd ((early_iff hb).mp h 1) (by decide)

theorem error_ends_together :
    let := utf8Only
    let c := established [together.map .ok]
    (∃ c', Use.runAll [.step (.send (.query select false))] c = .error (raised []) c' ∧
      (c'.Unpromised ↔ Early false failing.parts [] together)) ∧
    ∃ c', Cursor.Use.runAll [.execute select none] (.new c) = .error (raised []) c' ∧
      (c'.connection.Unpromised ∧ c'.hasNext = false ↔ Early false failing.parts [] together) := by
  intro _ c
  obtain ⟨c', hq, _⟩ := together_answered.query_early together_early
  have hr : Use.runAll [.step (.send (.query select false))] c = .error (raised []) c' := by
    simp [Use.runAll, Use.run, Step.run, Operation.run, c, hq]
  have hu : (Cursor.new c).Usable := ⟨rfl, rfl⟩
  have hx : Cursor.Use.runAll [.execute select none] (.new c) =
      .error (raised []) ((Cursor.new c).setConnection c') := by
    have hm : (Cursor.new c).connection.mogrify select none = .ok select := rfl
    have hq : Connection.query select false (Cursor.new c).connection = .error (raised []) c' := hq
    simp [Cursor.Use.runAll, Cursor.Use.run, Cursor.execute, Cursor.checkClosed, hu.open_, hu.drain, hm,
      Cursor.onConnection, hq]
  exact ⟨⟨c', hr, error_ends_iff.left c c' select false [] together_answered (by simp [failing]) hr⟩, _, hx,
    error_ends_iff.right _ _ select select none [] hu rfl together_answered hx⟩

-- The result set is followed by an error, which `next_result` returns.
theorem apart_promised :
    let := utf8Only
    ∃ c', Use.runAll [.step (.send (.query select false)), .step (.nextResult false)] (established [apart.map .ok]) =
      .error (raised []) c' ∧ ¬c'.Unpromised := by
  intro _
  obtain ⟨p, ps, b, n, c₁, a₁, hp, hrest, hq, ho⟩ := apart_answered.query_late (u := false) (by simp) apart_late
  obtain ⟨rfl, rfl⟩ := List.cons.inj hp
  obtain rfl := MySQL.Connection.rest_false hrest
  have hf := finishUnbufferedQuery_of_inactive (ho.inactive rfl)
  obtain ⟨_, _, _, _, _, _, hn, _⟩ | ⟨c₂, hx, hres⟩ := ho.toReads.nextResult_or (u := false) rfl rfl (by simp)
  · cases hn
  · refine ⟨c₂, ?_, fun hs => ho.not_unpromised rfl ((Unpromised.of_result hres).mp hs)⟩
    simp [Use.runAll, Use.run, Step.run, Operation.run, hq, Connection.nextResult, hf, hx]

end Examples
end MySQL.Tokio
