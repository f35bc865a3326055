import MysqlRs.Session.Operations

namespace MySQL.Tokio

open Command Server PacketStream Tokio.Connection

-- The calls that read results.
inductive Call
  -- A query, the results the server answers it with, and the reads in which those arrive.
  | query (sql : Text) (unbuffered : Bool) (parts : List Part) (pieces : List Bytes)
  | nextResult (unbuffered : Bool)
  | nextRow

namespace Call

def partsPayloads (parts : List Part) : List Bytes :=
  parts.flatMap (·.payloads)

-- What is owed when the first of the results has been read.
def opened (u : Bool) : List Part → Arrivals → Owed × Arrivals
  | [],         a => (⟨none, [], none⟩, a)
  | p :: parts, a => (⟨p.body u, parts, none⟩, a.skip (p.head u).length)

-- What is owed after the call.
def after (w : Owed) (a : Arrivals) : Call → Owed × Arrivals
  | query _ u parts pieces => opened u parts ⟨[], batches (partsPayloads parts) 0 pieces⟩
  | nextResult u           => opened u w.parts (a.skip (Part.bodyPayloads w.body).length)
  | nextRow                =>
    match w.body with
    | none   => (w, a)
    | some b => ({ w with body := b.tail }, a.skip 1)

-- The server answers with results that are not cut short, and the next result is read only where there
-- is one.
def Allowed (max : UInt64) (w : Owed) : Call → Prop
  | query sql _ parts pieces =>
    parts ≠ [] ∧ Owed.Chained none parts ∧
      Cut max (answerSeq COM_QUERY sql.asBytes) (partsPayloads parts) pieces
  | nextResult _ => w.parts ≠ []
  | nextRow      => True

-- Rows are asked for, and the server answers with an OK packet.
def Rowless (u : Bool) (parts : List Part) : Prop :=
  u = true ∧ ∃ d, parts.head? = some (.ok d)

-- A query is made when all that is owed of the later results has come in, and rows are asked for only
-- where they come.
def Sound (w : Owed) (a : Arrivals) : Call → Prop
  | query _ u parts _ =>
    (∀ k, (Part.bodyPayloads w.body).length ≤ a.arrivedBy k → a.all.length ≤ a.arrivedBy k) ∧
      ¬Rowless u parts
  | nextResult u => ¬Rowless u w.parts
  | nextRow      => True

def answer : Call → Option (List ReadEvent)
  | query _ _ _ pieces => some (pieces.map .ok)
  | nextResult _       => none
  | nextRow            => none

theorem opened_error (u : Bool) (parts : List Part) (a : Arrivals) : (opened u parts a).1.error = none := by
  cases parts <;> rfl

theorem after_error {w : Owed} (call : Call) (a : Arrivals) (he : w.error = none) :
    (call.after w a).1.error = none := by
  cases call
  case query      => exact opened_error ..
  case nextResult => exact opened_error ..
  case nextRow    => cases hb : w.body <;> simp [after, hb, he]

variable [Libraries]

def run : Call → Proc Error Connection Unit
  | query sql u _ _ => do
    let _ ← Connection.query sql u
  | nextResult u    => do
    let _ ← Connection.nextResult u
  | nextRow         => do
    let _ ← Connection.nextUnbufferedRow

end Call

-- In a run, all calls are allowed.
def AllAllowed (max : UInt64) : List Call → Owed → Arrivals → Prop
  | [],            _, _ => True
  | call :: calls, w, a =>
    call.Allowed max w ∧ AllAllowed max calls (call.after w a).1 (call.after w a).2

def AllSound : List Call → Owed → Arrivals → Prop
  | [],            _, _ => True
  | call :: calls, w, a =>
    call.Sound w a ∧ AllSound calls (call.after w a).1 (call.after w a).2

section Runs

variable [Libraries]

-- The flag is set exactly if rows or an EOF packet of the current result are owed, and nothing waits for
-- packets that are not.
structure Exact (c : Connection) (w : Owed) : Prop where
  flag   : c.unbufferedActive = true ↔ w.body.isSome
  finish : ∀ c', finishUnbufferedQuery c ≠ .pending c'
  row    : ∀ c', nextUnbufferedRow c ≠ .pending c'

-- After each call of a run, what has been read is what the server has sent for it, and the flag is exact.
def AllExact : List Call → Connection → Owed → Arrivals → Prop
  | [],            _, _, _ => True
  | call :: calls, c, w, a =>
    let outcome := call.run c
    (∃ c', outcome = .ok () c' ∧ Reads c' (call.after w a).1 (call.after w a).2 ∧
      Exact c' (call.after w a).1) ∧
    AllExact calls outcome.state (call.after w a).1 (call.after w a).2

namespace Connection

variable {c : Connection} {w : Owed} {a : Arrivals} {u : Bool}

-- A row is taken, or the end of the rows is found, where a row or an EOF packet is owed.
theorem Owes.takeRow (h : c.Owes w a) (he : w.error = none) :
    ∃ c', nextUnbufferedRow c =
        .ok (w.body.bind (·.rows.head?.map (List.zipWith FieldConverter.convert c.rowConverters))) c' ∧
      c'.rowConverters = c.rowConverters ∧
      Owes c' (Call.nextRow.after w a).1 (Call.nextRow.after w a).2 ∧ Kept c c' := by
  cases hb : w.body
  case none =>
    refine ⟨c, by simp [nextUnbufferedRow, h.inactive hb], rfl, ?_, .refl c⟩
    simpa only [Call.after, hb] using h
  case some b =>
    have hr := h.recorded
    rw [Owed.Recorded, hb] at hr
    obtain ⟨r, _, hr⟩ := hr
    obtain ⟨e, heof⟩ := MySQL.Connection.eof_of_streaming hr he
    obtain ⟨q, qs, hq⟩ : ∃ q qs, b.payloads = q :: qs :=
      List.exists_cons_of_ne_nil (by simp [Body.payloads, heof])
    have hall : a.all.take 1 = [q] := by
      rw [h.all, Owed.payloads, hb]
      simp [Part.bodyPayloads, hq]
    obtain ⟨a', hs⟩ := Arrivals.supplies_take (h.not_error he) 1
    rw [hall] at hs
    obtain ⟨c', hx, hcv, ho, hk⟩ := h.nextRow hb hq hs
    refine ⟨c', hx, hcv, ?_, hk⟩
    rw [← Arrivals.supplies_skip hs] at ho
    simpa only [Call.after, hb, List.length_singleton] using ho

-- A connection that knows what it is owed is exact.
theorem Owes.exact (h : c.Owes w a) (he : w.error = none) : Exact c w where
  flag := by
    cases hb : w.body
    case none   => simp [h.inactive hb]
    case some b => simp [h.active hb]
  finish c' hp := by
    have ⟨_, _, hq, _⟩ := h.skip he
    exact nomatch hp.symm.trans hq
  row c' hp := by
    have ⟨_, hx, _⟩ := h.takeRow he
    exact nomatch hp.symm.trans hx

-- The next result is read, and its flags are right unless it is an OK packet where rows were asked for.
theorem Reads.readNext (h : c.Reads w a) (hb : w.body = none) (he : w.error = none) {p : Part} {ps : List Part}
    (hp : w.parts = p :: ps) :
    let a' := a.skip (p.head u).length
    ∃ n c', readQueryResult u c = .ok n c' ∧ c'.inner.result = some (p.result c.inner u) ∧
      Reads c' ⟨p.body u, ps, none⟩ a' ∧ (Owes c' ⟨p.body u, ps, none⟩ a' ↔ ¬(u = true ∧ ∃ d, p = .ok d)) ∧
      Kept c c' := by
  have hc := h.chained
  rw [he, hp] at hc
  have hrest : p.rest u = some (p.body u) := hc.rest
  have hw : a.all = p.head u ++ (Part.bodyPayloads (p.body u) ++ ps.flatMap (·.payloads)) := by
    rw [h.all, Owed.payloads, Owed.later, hb, he, hp, List.flatMap_cons, Part.payloads_split u hc.left]
    simp [Part.bodyPayloads]
  have hne : ∀ q ∈ a.all, ¬IsError q := by
    rw [h.all, Owed.payloads, Owed.later, hb, he]
    simpa [Part.bodyPayloads] using Owed.parts_not_error w.parts
  obtain ⟨a', hs⟩ := Arrivals.supplies_take hne (p.head u).length
  rw [hw, List.take_left] at hs
  obtain ⟨c', hq, hres, hrd, hk⟩ := h.read hb hp hrest hs
  rw [he, ← Arrivals.supplies_skip hs] at hrd
  exact ⟨_, c', hq, hres, hrd, (hrd.owes_iff hres).trans (recorded_result c.inner hrest hc), hk⟩

-- The flag is exact unless it is an OK packet.
theorem Reads.open (h : c.Reads w a) (hb : w.body = none) (he : w.error = none) (hp : w.parts ≠ []) :
    ∃ n c', readQueryResult u c = .ok n c' ∧
      Reads c' (Call.opened u w.parts a).1 (Call.opened u w.parts a).2 ∧
      (Exact c' (Call.opened u w.parts a).1 → ¬Call.Rowless u w.parts) ∧
      (¬Call.Rowless u w.parts → Owes c' (Call.opened u w.parts a).1 (Call.opened u w.parts a).2) ∧
      Kept c c' := by
  obtain ⟨p, ps, hps⟩ := List.exists_cons_of_ne_nil hp
  obtain ⟨n, c', hq, hres, hrd, howes, hk⟩ := h.readNext (u := u) hb he hps
  rw [hps]
  refine ⟨n, c', hq, hrd, fun hx => ?_, fun hn => howes.mpr fun ⟨hu, d, hd⟩ => hn ⟨hu, d, by rw [hd]; rfl⟩,
    hk⟩
  rintro ⟨rfl, d, hd⟩
  obtain rfl := Option.some.inj hd
  have := hx.flag.mp (by simp [unbufferedActive, hres, Part.result, Ok.result])
  cases this

-- A query is sent, and its answer is awaited, if everything that was owed is there.
theorem Owes.query (h : c.Owes w a) (he : w.error = none) {sql : Text} {parts : List Part}
    {pieces : List Bytes}
    (ha : ∀ k, (Part.bodyPayloads w.body).length ≤ a.arrivedBy k → a.all.length ≤ a.arrivedBy k)
    (hs : c.answers.head? = some (pieces.map .ok)) (hc : Owed.Chained none parts)
    (hp : Cut c.inner.packetStream.maxAllowedPacket (answerSeq COM_QUERY sql.asBytes)
      (Call.partsPayloads parts) pieces) :
    ∃ c', (∀ u, query sql u c = readQueryResult u c') ∧
      Reads c' ⟨none, parts, none⟩ ⟨[], batches (Call.partsPayloads parts) 0 pieces⟩ ∧
      Alike c'.inner c.inner ∧ c'.answers = c.answers.tail := by
  have ⟨c₁, a₁, hq, ho, hk₁, hsup⟩ := h.skip he
  have hcoming := (Arrivals.supplies_queued hsup).mpr ha
  have ⟨c₂, hr, hk₂, hsend⟩ := ho.send_all he hcoming COM_QUERY sql.asBytes
  have hk := hk₁.trans hk₂
  have hmax := hk.alike.max
  rw [← hmax] at hp
  rw [← hk.answers] at hs
  refine ⟨c₂.afterCommand COM_QUERY sql.asBytes,
    fun u => by rw [query_eq, hq, Outcome.bind_ok, hsend]; rfl, ?_,
    ⟨hk.alike.encoding, hk.alike.useUnicode, hk.alike.converters, hk.alike.max⟩,
    congrArg List.tail hk.answers⟩
  exact {
    live     := (hr.afterCommand_live _ _).of_outline rfl
    awaiting := hr.awaiting hs hp
    all      := by
      rw [Arrivals.all, hp.batches_flatten, Owed.payloads, Owed.later]
      simp [Part.bodyPayloads, Call.partsPayloads]
    small    := by
      have := hp.small
      rw [Owed.payloads, Owed.later]
      simpa [Part.bodyPayloads, Call.partsPayloads] using this
    chained  := hc
    queue    := nofun
  }

theorem Owes.query_short (h : c.Owes w a) (he : w.error = none) (sql : Text) (u : Bool)
    (ha : ¬∀ k, (Part.bodyPayloads w.body).length ≤ a.arrivedBy k → a.all.length ≤ a.arrivedBy k) :
    ∃ c', Connection.query sql u c = .error .needMoreData c' := by
  have ⟨c₁, a₁, hq, ho, _, hsup⟩ := h.skip he
  rw [← Arrivals.supplies_queued hsup] at ha
  have ⟨c₂, hsend, _⟩ := ho.send_short ha COM_QUERY sql.asBytes
  exact ⟨c₂, by rw [query_eq, hq, Outcome.bind_ok, hsend]; rfl⟩

-- What a call does: the flag is exact afterwards if the call is sound, and only then.
theorem Owes.call (h : c.Owes w a) (he : w.error = none) {call : Call}
    (ha : call.Allowed c.inner.packetStream.maxAllowedPacket w)
    (hs : ∀ events ∈ call.answer, c.answers.head? = some events) :
    ((∃ c', call.run c = .ok () c' ∧ Exact c' (call.after w a).1) → call.Sound w a) ∧
    (call.Sound w a → ∃ c', call.run c = .ok () c' ∧
      Owes c' (call.after w a).1 (call.after w a).2 ∧ Alike c'.inner c.inner ∧
      c'.answers = c.answers.drop call.answer.toList.length) := by
  cases call
  case query sql u parts pieces =>
    have ⟨hne, hc, hp⟩ := ha
    by_cases harr : ∀ k, (Part.bodyPayloads w.body).length ≤ a.arrivedBy k → a.all.length ≤ a.arrivedBy k
    case neg =>
      have ⟨c', hq⟩ := h.query_short he sql u harr
      refine ⟨fun ⟨_, hok, _⟩ => ?_, fun hsound => absurd hsound.left harr⟩
      simp [Call.run, hq] at hok
    case pos =>
      have ⟨c₁, hq, hrd, hal, hans⟩ := h.query he harr (hs _ rfl) hc hp
      have ⟨n, c₂, hr, _, hx, hn, hk⟩ := hrd.open (u := u) rfl rfl hne
      have hrun : (Call.query sql u parts pieces).run c = .ok () c₂ := by simp [Call.run, hq, hr]
      refine ⟨fun ⟨c', hok, hexact⟩ => ⟨harr, ?_⟩, fun hsound => ⟨c₂, hrun, hn hsound.right, ?_, ?_⟩⟩
      · obtain ⟨_, rfl⟩ := Outcome.ok.inj (hrun.symm.trans hok)
        exact hx hexact
      · exact hk.alike.trans hal
      · rw [hk.answers, hans]
        exact List.drop_one.symm
  case nextResult u =>
    have ⟨c₁, a₁, hq, ho, hk₁, hsup⟩ := h.skip he
    have ⟨n, c₂, hr, _, hx, hn, hk₂⟩ := ho.toReads.open (u := u) rfl he ha
    rw [← Arrivals.supplies_skip hsup] at hx hn
    have hk := hk₁.trans hk₂
    have hrun : (Call.nextResult u).run c = .ok () c₂ := by
      simp [Call.run, Connection.nextResult, hq, hr]
    refine ⟨fun ⟨c', hok, hexact⟩ => ?_, fun hsound => ⟨c₂, hrun, hn hsound, hk.alike, hk.answers⟩⟩
    obtain ⟨_, rfl⟩ := Outcome.ok.inj (hrun.symm.trans hok)
    exact hx hexact
  case nextRow =>
    have ⟨c', hx, _, ho, hk⟩ := h.takeRow he
    exact ⟨fun _ => trivial, fun _ => ⟨c', by simp [Call.run, hx], ho, hk.alike, hk.answers⟩⟩

-- In a run, the flag is exact after every call if every call is sound, and only then.
theorem Owes.allExact_iff {calls : List Call} (h : c.Owes w a) (he : w.error = none)
    (ha : AllAllowed c.inner.packetStream.maxAllowedPacket calls w a)
    (hs : c.answers = calls.filterMap (·.answer)) : AllExact calls c w a ↔ AllSound calls w a := by
  induction calls generalizing c w a
  case nil => exact Iff.rfl
  case cons call calls ih =>
    have hs₁ : ∀ events ∈ call.answer, c.answers.head? = some events := by
      intro events hev
      rw [hs, List.filterMap_cons, Option.mem_def.mp hev]
      rfl
    have ⟨hx, hsound⟩ := h.call he ha.left hs₁
    have hs₂ : c.answers.drop call.answer.toList.length = calls.filterMap (·.answer) := by
      rw [hs, List.filterMap_cons]
      cases call.answer <;> rfl
    by_cases hcall : call.Sound w a
    case pos =>
      have ⟨c', hok, ho, hal, hans⟩ := hsound hcall
      have hrest := ih ho (call.after_error a he) (hal.max ▸ ha.right) (hans.trans hs₂)
      rw [AllExact, AllSound, hok]
      exact and_congr
        (iff_of_true ⟨c', rfl, ho.toReads, ho.exact (call.after_error a he)⟩ hcall) hrest
    case neg =>
      exact iff_of_false (fun ⟨⟨c', hok, _, hexact⟩, _⟩ => hcall (hx ⟨c', hok, hexact⟩))
        fun hall => hcall hall.left

omit [Libraries] in
theorem Ready.owes (h : c.Ready) : Owes c ⟨none, [], none⟩ ⟨[], []⟩ := by
  have hr : Owed.Recorded ⟨none, [], none⟩ c.inner.result := by
    refine ⟨fun r hr => (h.result r hr).left, ?_⟩
    cases hres : c.inner.result
    case none   => rfl
    case some r => exact (h.result r hres).right
  exact {
    live     := h.toLive
    awaiting := .of_clear h.toLive h.toClear
    all      := rfl
    small    := nofun
    chained  := trivial
    queue    := nofun
    recorded := hr
  }

-- In every run on a connection that owes nothing, the flag is exact after every call if rows are asked
-- for only where they come, and every query finds all that was owed; and only then.
theorem Ready.flags_exact_iff {calls : List Call} (h : c.Ready)
    (ha : AllAllowed c.inner.packetStream.maxAllowedPacket calls ⟨none, [], none⟩ ⟨[], []⟩)
    (hs : c.answers = calls.filterMap (·.answer)) :
    AllExact calls c ⟨none, [], none⟩ ⟨[], []⟩ ↔ AllSound calls ⟨none, [], none⟩ ⟨[], []⟩ :=
  h.owes.allExact_iff rfl ha hs

end Connection
end Runs

section Examples

open Libraries PacketStream

-- A query whose results come in one read.
def Call.ofParts (u : Bool) (parts : List Part) : Call :=
  .query select u parts [framed (answerSeq COM_QUERY select.asBytes) (partsPayloads parts)]

theorem Call.after_ofParts (u : Bool) (parts : List Part) (w : Owed) (a : Arrivals) :
    (Call.ofParts u parts).after w a = opened u parts ⟨[], [partsPayloads parts]⟩ := by
  rw [ofParts, after, batches_whole]

theorem Call.ofParts_allowed {u : Bool} {parts : List Part} {w : Owed} (hn : partsPayloads parts ≠ [])
    (hc : Owed.Chained none parts) (hs : ∀ p ∈ partsPayloads parts, p.length < 100) :
    (Call.ofParts u parts).Allowed (16 * 1024 * 1024) w := by
  refine ⟨fun hp => hn (hp ▸ rfl), hc, .of_short ?_ (List.append_nil _) ?_ ?_ ?_⟩
  · exact fun h => absurd (framed_eq_nil (List.mem_singleton.mp h).symm) hn
  · exact fun p hp => Nat.lt_trans (hs p hp) (by decide)
  · exact fun p hp => Nat.le_of_lt (Nat.lt_trans (hs p hp) (by decide))
  · exact .of_forall (Owed.parts_not_error parts)

-- Rows are asked for, one is read, and another query is made while the end of the rows is owed.
def threeCalls : List Call :=
  [.ofParts true [.set oneRow], .nextRow, .ofParts false [.ok done]]

theorem threeCalls_allowed :
    AllAllowed (16 * 1024 * 1024) threeCalls ⟨none, [], none⟩ ⟨[], []⟩ := by
  refine ⟨Call.ofParts_allowed (by decide) ⟨rfl, nofun, trivial⟩ (by decide), trivial, ?_, trivial⟩
  exact Call.ofParts_allowed (by decide) ⟨rfl, nofun, trivial⟩ (by decide)

theorem threeCalls_exact :
    @AllExact utf8Only threeCalls (established (threeCalls.filterMap (·.answer))) ⟨none, [], none⟩
      ⟨[], []⟩ := by
  let := utf8Only
  refine ((established_ready _).flags_exact_iff threeCalls_allowed rfl).mpr ?_
  refine ⟨⟨fun k _ => Nat.zero_le _, nofun⟩, trivial, ⟨?_, nofun⟩, trivial⟩
  rw [Call.after_ofParts]
  exact fun k hk => hk

-- Rows are asked for, and the server answers with an OK packet.
def okForRows : Call :=
  .ofParts true [.ok done]

theorem okForRows_not_exact :
    AllAllowed (16 * 1024 * 1024) [okForRows] ⟨none, [], none⟩ ⟨[], []⟩ ∧
      ¬@AllExact utf8Only [okForRows] (established ([okForRows].filterMap (·.answer)))
        ⟨none, [], none⟩ ⟨[], []⟩ := by
  let := utf8Only
  have ha : okForRows.Allowed (16 * 1024 * 1024) ⟨none, [], none⟩ :=
    Call.ofParts_allowed (by decide) ⟨rfl, nofun, trivial⟩ (by decide)
  refine ⟨⟨ha, trivial⟩, fun ⟨⟨c, hok, _, hexact⟩, _⟩ => ?_⟩
  have ho := (established_ready ([okForRows].filterMap (·.answer))).owes
  have ⟨hx, _⟩ := ho.call rfl ha fun events he => by rw [← Option.mem_def.mp he]; rfl
  exact (hx ⟨c, hok, hexact⟩).right ⟨rfl, done, rfl⟩

end Examples
end MySQL.Tokio
