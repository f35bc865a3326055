import MysqlRs.Protocol.Parts
import MysqlRs.Session.Exchange

namespace MySQL

open Server MysqlPacket MySQLResult

-- What a server still owes for the commands it has received.
structure Owed where
  body  : Option Body
  parts : List Part
  error : Option Bytes

namespace Owed

def later (w : Owed) : List Bytes :=
  w.parts.flatMap (·.payloads) ++ (w.error.map errPayload).toList

def payloads (w : Owed) : List Bytes :=
  Part.bodyPayloads w.body ++ w.later

-- Whether something follows the current result.
def follows (w : Owed) : Bool :=
  !w.parts.isEmpty || w.error.isSome

-- The number of packets that reading the next result takes.
def need (u : Bool) (w : Owed) : Nat :=
  match w.parts with
  | []     => 1
  | p :: _ => p.need u

-- Every result announces whether something follows it. Only an error follows one that is cut short.
def Chained (error : Option Bytes) : List Part → Prop
  | []      => True
  | p :: ps =>
    p.Announces (follows ⟨none, ps, error⟩) ∧ ((∃ r n, p = .cut r n) → ps = []) ∧ Chained error ps

-- Where no error follows, the next result is complete.
theorem Chained.rest {p : Part} {ps : List Part} {u : Bool} (h : Chained none (p :: ps)) :
    p.rest u = some (p.body u) := by
  cases p
  case cut r n =>
    have ⟨ha, hn, _⟩ := h
    rw [hn ⟨r, n, rfl⟩] at ha
    exact nomatch ha.left
  all_goals rfl

-- A result that is being read row by row.
structure Streaming (w : Owed) (b : Body) (r : MySQLResult) : Prop where
  active : r.unbufferedActive = true
  widths : ∀ row ∈ b.rows, row ≠ [] ∧ row.length = r.converters.length
  eof    : ∀ e ∈ b.eof, hasMoreResults e.status = w.follows
  cut    : b.eof = none → w.parts = [] ∧ w.error.isSome

theorem Streaming.not_error {w : Owed} {b : Body} {r : MySQLResult} (h : w.Streaming b r) :
    ∀ p ∈ b.payloads, ¬IsError p := by
  rw [Body.payloads, List.forall_mem_append, List.forall_mem_map]
  refine ⟨fun row hr => rowPayload_not_error (h.widths row hr).left, fun p hp => ?_⟩
  cases he : b.eof
  case none   => simp [he] at hp
  case some e =>
    obtain rfl : p = e.payload := by simpa [he] using hp
    exact e.not_error

theorem parts_not_error (ps : List Part) : ∀ p ∈ ps.flatMap (·.payloads), ¬IsError p := by
  intro p hp
  have ⟨q, _, hp⟩ := List.mem_flatMap.mp hp
  exact q.not_error p hp

-- The flags of the current result say what is owed.
def Recorded (w : Owed) (result : Option MySQLResult) : Prop :=
  match w.body with
  | some b => ∃ r, result = some r ∧ w.Streaming b r
  | none   =>
    (∀ r ∈ result, r.unbufferedActive = false) ∧ (result.map (·.hasNext)).getD false = w.follows

end Owed

namespace Tokio.Connection

-- The converters of the current result, one for each column.
def rowConverters (c : Connection) : List FieldConverter :=
  (c.inner.result.map (·.converters)).getD []

-- What reading does not change.
structure Kept (c c' : Connection) : Prop where
  live    : c.Live → c'.Live
  alike   : Alike c'.inner c.inner
  answers : c'.answers = c.answers
  written : c'.written = c.written

-- What is owed is on its way, as `a` says.
structure Reads (c : Connection) (w : Owed) (a : Arrivals) : Prop where
  live     : c.Live
  awaiting : Awaiting c.outline c a
  all      : a.all = w.payloads
  small    : ∀ p ∈ w.payloads, p.length ≤ usizeMax
  chained  : Owed.Chained w.error w.parts
  queue    : ∀ p ∈ a.queue, ¬IsError p

-- In addition, the connection knows what is owed.
structure Owes (c : Connection) (w : Owed) (a : Arrivals) : Prop extends Reads c w a where
  recorded : w.Recorded c.inner.result

variable {c c' o : Connection} {w : Owed} {a a' : Arrivals}

theorem Kept.refl (c : Connection) : Kept c c :=
  ⟨id, ⟨rfl, rfl, rfl, rfl⟩, rfl, rfl⟩

theorem Kept.trans {c₁ c₂ c₃ : Connection} (h₁ : Kept c₁ c₂) (h₂ : Kept c₂ c₃) : Kept c₁ c₃ where
  live    := h₂.live ∘ h₁.live
  alike   := h₂.alike.trans h₁.alike
  answers := h₂.answers.trans h₁.answers
  written := h₂.written.trans h₁.written

theorem written_of_outline (h : c.outline = o) : c.written = o.written := by
  subst h
  cases hs : c.stream <;> simp [written, outline, hs]

-- Everything is kept where only the current result, and what comes with it, changes.
theorem Kept.of_outline {i : MySQL.Connection} (h : c'.outline = c.outline.setInner i)
    (hi : i.closed = c.inner.closed) (hp : i.packetStream = c.outline.inner.packetStream)
    (ha : Alike i c.inner) : Kept c c' where
  live hl := by
    have ⟨h₁, h₂, h₃⟩ := hl.outline
    have hl : (c.outline.setInner i).Live := ⟨hi.trans h₁, hp ▸ h₂, h₃⟩
    exact hl.of_outline h
  alike   := ⟨(congrArg (·.inner.encoding) h).trans ha.encoding,
    (congrArg (·.inner.useUnicode) h).trans ha.useUnicode,
    (congrArg (·.inner.fieldConverters) h).trans ha.converters,
    (congrArg (·.inner.packetStream.maxAllowedPacket) h).trans ha.max⟩
  answers := (answers_of_outline h).trans (answers_of_outline rfl).symm
  written := (written_of_outline h).trans (written_of_outline rfl).symm

section Rows

variable [Libraries] {b : Body} {r : MySQLResult}

-- Rows are skipped, and all that the result tells about the rest stays.
theorem skip_rows {rows : List (List (Option Bytes))}
    (hr : r.unbufferedActive = true) (hw : ∀ row ∈ rows, row ≠ [] ∧ row.length = r.converters.length)
    (hs : ∀ row ∈ rows, (rowPayload row).length ≤ usizeMax) :
    ∃ r', Source.feedList (fun p => finishStep (.new p)) (rows.map rowPayload) r = .ok none r' ∧
      r'.unbufferedActive = true ∧ r'.converters = r.converters ∧ r'.hasNext = r.hasNext := by
  induction rows generalizing r
  case nil => exact ⟨r, rfl, hr, rfl, rfl⟩
  case cons row rows ih =>
    obtain ⟨⟨hn, hl⟩, hws⟩ := List.forall_mem_cons.mp hw
    obtain ⟨h, hss⟩ := List.forall_mem_cons.mp hs
    have hstep : finishStep (.new (rowPayload row)) r = .ok none {
        r with
        affectedRows := 1
        rows := some [List.zipWith FieldConverter.convert r.converters row]
      } := by
      simp [finishStep, readRowdataPacketUnbuffered, hr, checkPacketIsEof, rowPayload_not_eof hn,
        readRowFromPacket, run_of_finishes (row_finishes hl h) h]
    obtain ⟨r', hf, h₁, h₂, h₃⟩ := ih (r := {
      r with
      affectedRows := 1
      rows := some [List.zipWith FieldConverter.convert r.converters row]
    }) hr hws hss
    refine ⟨r', (Source.feedList_none _ ?_).trans hf, h₁, h₂, h₃⟩
    exact hstep

-- The EOF packet ends the rows.
theorem finish_body {rows : List (List (Option Bytes))} {e : Eof} (hr : r.unbufferedActive = true)
    (hw : ∀ row ∈ rows, row ≠ [] ∧ row.length = r.converters.length)
    (hs : ∀ row ∈ rows, (rowPayload row).length ≤ usizeMax) :
    ∃ r', Source.feedList (fun p => finishStep (.new p)) (rows.map rowPayload ++ [e.payload]) r =
        .ok (some ((), [])) r' ∧
      r'.unbufferedActive = false ∧ r'.hasNext = hasMoreResults e.status := by
  have ⟨r', hf, h₁, _⟩ := skip_rows hr hw hs
  have he : finishStep (.new e.payload) r' = .ok (some ()) {
      r' with
      warningCount := e.warnings
      hasNext := hasMoreResults e.status
      serverStatus := some e.status
      unbufferedActive := false
      readState := .done
    } := by
    simp [finishStep, readRowdataPacketUnbuffered, h₁, checkPacketIsEof, e.isEofPacket, e.run,
      Eof.wrapper]
  rw [Source.feedList_append, hf]
  exact ⟨_, Source.feedList_some (fun p => finishStep (.new p)) he, rfl, rfl⟩

end Rows

section Reading

variable [Libraries] {b : Body} {p : Part} {ps : List Part} {u : Bool} {e : Bytes}

omit [Libraries] in
-- Taking packets leads to a state in which the others are owed.
theorem Reads.supplies {w' : Owed} {is : List Bytes} {i : MySQL.Connection} (h : Reads c w a)
    (hs : Arrivals.source.Supplies a is a') (hw : Awaiting (c.outline.setInner i) c' a')
    (hk : Kept c c') (hp : w.payloads = is ++ w'.payloads) (hc : Owed.Chained w'.error w'.parts) :
    Reads c' w' a' where
  live     := hk.live h.live
  awaiting := by rwa [hw.left]
  all      := List.append_cancel_left ((Arrivals.supplies_all hs).symm.trans (h.all.trans hp))
  small    := fun q hq => h.small q (hp ▸ List.mem_append_right _ hq)
  chained  := hc
  queue    := Arrivals.supplies_queue_not_error hs h.queue

theorem finishUnbufferedQuery_of_inactive (h : c.unbufferedActive = false) :
    finishUnbufferedQuery c = .ok () c := by
  simp [finishUnbufferedQuery, h]

theorem finishUnbufferedQuery_of_active (h : c.unbufferedActive = true) :
    finishUnbufferedQuery c = onResult finishStep c := by
  simp [finishUnbufferedQuery, h]

-- The rest of a result that is read row by row is skipped.
theorem Owes.finish (h : Owes c w a) (hb : w.body = some b) {e : Eof} (he : b.eof = some e)
    (hs : Arrivals.source.Supplies a b.payloads a') :
    ∃ c', finishUnbufferedQuery c = .ok () c' ∧ Owes c' { w with body := none } a' ∧ Kept c c' := by
  have hr := h.recorded
  rw [Owed.Recorded, hb] at hr
  obtain ⟨r, hc, hr⟩ := hr
  have hp : b.payloads = b.rows.map rowPayload ++ [e.payload] := by rw [Body.payloads, he]; rfl
  have hw : w.payloads = b.payloads ++ (Owed.payloads { w with body := none }) := by
    rw [Owed.payloads, hb]
    rfl
  have hsm := h.small
  rw [hw, hp, List.forall_mem_append, List.forall_mem_append, List.forall_mem_map] at hsm
  obtain ⟨r', hf, h₁, h₂⟩ := finish_body (e := e) hr.active hr.widths hsm.left.left
  rw [← hp] at hf
  obtain ⟨_, _, _, _, hn, hf⟩ := hs.feed_some hf
  obtain rfl := hn.nil_eq
  have ho : c.outline.inner.result.getD {} = r := by
    change c.inner.result.getD {} = r
    rw [hc]
    rfl
  rw [← ho] at hf
  obtain ⟨c', hq, hw'⟩ := h.awaiting.onResult_ok hf
  have hk : Kept c c' := .of_outline hw'.left rfl rfl ⟨rfl, rfl, rfl, rfl⟩
  have hu : c.unbufferedActive = true := by simp [unbufferedActive, hc, hr.active]
  refine ⟨c', (finishUnbufferedQuery_of_active hu).trans hq, ?_, hk⟩
  refine { h.toReads.supplies hs hw' hk hw h.chained with recorded := ?_ }
  have hc' : c'.inner.result = _ := congrArg (·.inner.result) hw'.left
  rw [hc']
  exact ⟨fun _ hr' => Option.some.inj hr' ▸ h₁, h₂.trans (hr.eof e he)⟩

omit [Libraries] in
theorem Owes.active (h : Owes c w a) (hb : w.body = some b) : c.unbufferedActive = true := by
  have hr := h.recorded
  rw [Owed.Recorded, hb] at hr
  have ⟨r, hc, hr⟩ := hr
  simp [unbufferedActive, hc, hr.active]

omit [Libraries] in
theorem Owes.inactive (h : Owes c w a) (hb : w.body = none) : c.unbufferedActive = false := by
  have hr := h.recorded
  rw [Owed.Recorded, hb] at hr
  cases hc : c.inner.result
  case none   => simp [unbufferedActive, hc]
  case some r => simp [unbufferedActive, hc, hr.left r hc]

theorem nextUnbufferedRow_of_active (h : c.unbufferedActive = true) :
    nextUnbufferedRow c = onResult rowStep c := by
  simp [nextUnbufferedRow, h]

-- What a packet of the rows does to the result.
theorem rowStep_body {r : MySQLResult} {q : Bytes} {qs : List Bytes} (hr : w.Streaming b r)
    (hq : b.payloads = q :: qs) (hs : q.length ≤ usizeMax) :
    ∃ r', rowStep (.new q) r = .ok (some (b.rows.head?.map (List.zipWith FieldConverter.convert r.converters))) r' ∧
      r'.converters = r.converters ∧ Owed.Recorded { w with body := b.tail } (some r') ∧
      Part.bodyPayloads b.tail = qs := by
  obtain ⟨rows, eof⟩ := b
  cases rows
  case nil =>
    cases eof
    case none   => cases hq
    case some e =>
      obtain ⟨rfl, rfl⟩ := List.cons.inj hq
      refine ⟨{
        r with
        warningCount := e.warnings
        hasNext := hasMoreResults e.status
        serverStatus := some e.status
        unbufferedActive := false
        readState := .done
      }, ?_, rfl, ⟨?_, hr.eof e rfl⟩, rfl⟩
      · simp [rowStep, readRowdataPacketUnbuffered, hr.active, checkPacketIsEof, e.isEofPacket, e.run,
          Eof.wrapper]
      · rintro _ ⟨⟩
        rfl
  case cons row rows =>
    obtain ⟨rfl, rfl⟩ := List.cons.inj hq
    obtain ⟨⟨hn, hl⟩, hws⟩ := List.forall_mem_cons.mp hr.widths
    refine ⟨{
      r with
      affectedRows := 1
      rows := some [List.zipWith FieldConverter.convert r.converters row]
    }, ?_, rfl, ⟨_, rfl, hr.active, hws, hr.eof, hr.cut⟩, rfl⟩
    simp [rowStep, readRowdataPacketUnbuffered, hr.active, checkPacketIsEof, rowPayload_not_eof hn,
      readRowFromPacket, run_of_finishes (row_finishes hl hs) hs]

-- A row is taken, or the end of the rows is found.
theorem Owes.nextRow (h : Owes c w a) (hb : w.body = some b) {q : Bytes} {qs : List Bytes}
    (hq : b.payloads = q :: qs) (hs : Arrivals.source.Supplies a [q] a') :
    ∃ c', nextUnbufferedRow c = .ok (b.rows.head?.map (List.zipWith FieldConverter.convert c.rowConverters)) c' ∧
      c'.rowConverters = c.rowConverters ∧ Owes c' { w with body := b.tail } a' ∧ Kept c c' := by
  have hr := h.recorded
  rw [Owed.Recorded, hb] at hr
  obtain ⟨r, hc, hr⟩ := hr
  have hw : w.payloads = q :: (qs ++ w.later) := by
    rw [Owed.payloads, hb, Part.bodyPayloads, Option.map_some, Option.getD_some, hq]
    rfl
  obtain ⟨r', hstep, hcv, hrec, hqs⟩ := rowStep_body hr hq (h.small q (hw ▸ List.mem_cons_self))
  obtain ⟨_, _, _, _, hn, hf⟩ := hs.feed_some (Source.feedList_some (fun p => rowStep (.new p)) hstep)
  obtain rfl := hn.nil_eq
  have ho : c.outline.inner.result.getD {} = r := by
    change c.inner.result.getD {} = r
    rw [hc]
    rfl
  rw [← ho] at hf
  obtain ⟨c', hx, hw'⟩ := h.awaiting.onResult_ok hf
  have hk : Kept c c' := .of_outline hw'.left rfl rfl ⟨rfl, rfl, rfl, rfl⟩
  have hc' : c'.inner.result = some r' := congrArg (·.inner.result) hw'.left
  have hrc : c.rowConverters = r.converters := by rw [rowConverters, hc]; rfl
  refine ⟨c', ?_, ?_, ?_, hk⟩
  · rw [nextUnbufferedRow_of_active (h.active hb), hx, ho, hrc]
  · rw [hrc, ← hcv, rowConverters, hc']
    rfl
  · have ht : w.payloads = [q] ++ Owed.payloads { w with body := b.tail } := by
      rw [hw, Owed.payloads, hqs]
      rfl
    have hrd : Reads c' { w with body := b.tail } _ := h.toReads.supplies hs hw' hk ht h.chained
    exact { hrd with recorded := hc'.symm ▸ hrec }

-- Where an error packet comes instead, the result stays as it is recorded.
theorem Owes.nextRow_error (h : Owes c w a) (hb : w.body = some b) (he : w.error = some e)
    (hk : ∀ k, 1 ≤ a.arrivedBy k → a.all.length ≤ a.arrivedBy k) :
    ∃ c', nextUnbufferedRow c = .error (Error.raiseMysqlException (errPayload e)) c' ∧
      c'.inner.result = c.inner.result := by
  have hr := h.recorded
  rw [Owed.Recorded, hb] at hr
  have ⟨r, hc, hr⟩ := hr
  have hx : a.all = b.payloads ++ w.parts.flatMap (·.payloads) ++ [errPayload e] := by
    rw [h.all, Owed.payloads, Owed.later, hb, he, List.append_assoc]
    rfl
  have hne : ∀ p ∈ b.payloads ++ w.parts.flatMap (·.payloads), ¬IsError p :=
    List.forall_mem_append.mpr ⟨hr.not_error, Owed.parts_not_error w.parts⟩
  have ⟨j, a₁, a₂, hj, hs, hn⟩ :=
    Arrivals.supplies_error hx hne (isError_errPayload e) h.queue hk
  obtain rfl : j = 0 := Nat.lt_one_iff.mp hj
  obtain rfl := hs.nil_eq
  have hf : Arrivals.source.feed (fun p _ => rowStep (.new p)) (c.outline.inner.result.getD {}, a) =
    .error (Error.raiseMysqlException (errPayload e)) (_, a₂) := Arrivals.source.feed_next_error hn
  have ⟨c', hx, hw'⟩ := h.awaiting.onResult_error hf
  refine ⟨c', (nextUnbufferedRow_of_active (h.active hb)).trans hx, ?_⟩
  have hc' : c'.inner.result = some (c.inner.result.getD {}) := congrArg (·.inner.result) hw'.left
  rw [hc', hc]
  rfl

-- An error packet that comes before the end of the rows stops the skipping, and the result stays as it
-- is recorded.
theorem Owes.finish_error (h : Owes c w a) (hb : w.body = some b) (he : w.error = some e)
    (hk : ∀ k, b.rows.length + 1 ≤ a.arrivedBy k → a.all.length ≤ a.arrivedBy k) :
    ∃ c', finishUnbufferedQuery c = .error (Error.raiseMysqlException (errPayload e)) c' ∧
      c'.unbufferedActive = true := by
  have hr := h.recorded
  rw [Owed.Recorded, hb] at hr
  obtain ⟨r, hc, hr⟩ := hr
  have hx : a.all = b.payloads ++ w.parts.flatMap (·.payloads) ++ [errPayload e] := by
    rw [h.all, Owed.payloads, Owed.later, hb, he, List.append_assoc]
    rfl
  have hne : ∀ p ∈ b.payloads ++ w.parts.flatMap (·.payloads), ¬IsError p :=
    List.forall_mem_append.mpr ⟨hr.not_error, Owed.parts_not_error w.parts⟩
  obtain ⟨j, a₁, a₂, hj, hs, hn⟩ :=
    Arrivals.supplies_error hx hne (isError_errPayload e) h.queue hk
  have ht : (b.payloads ++ w.parts.flatMap (·.payloads)).take j = (b.rows.take j).map rowPayload := by
    rw [Body.payloads, List.append_assoc, List.take_append_of_le_length, List.map_take]
    rw [List.length_map]
    exact Nat.le_of_lt_succ hj
  rw [ht] at hs
  have hsm (row) (hrow : row ∈ b.rows.take j) : (rowPayload row).length ≤ usizeMax := by
    refine h.small _ ?_
    rw [← h.all, hx, Body.payloads]
    simp only [List.mem_append, List.mem_map]
    exact .inl (.inl (.inl ⟨row, List.mem_of_mem_take hrow, rfl⟩))
  obtain ⟨r', hf, h₁, _⟩ := skip_rows hr.active (fun row hrow => hr.widths row (List.mem_of_mem_take hrow)) hsm
  have hf := hs.feed_exhausted hf
  rw [Arrivals.source.feed_next_error hn] at hf
  have ho : c.outline.inner.result.getD {} = r := by
    change c.inner.result.getD {} = r
    rw [hc]
    rfl
  rw [← ho] at hf
  obtain ⟨c', hq, hw'⟩ := h.awaiting.onResult_error hf
  have hu : c.unbufferedActive = true := by simp [unbufferedActive, hc, hr.active]
  refine ⟨c', (finishUnbufferedQuery_of_active hu).trans hq, ?_⟩
  have hc' : c'.inner.result = some r' := congrArg (·.inner.result) hw'.left
  simp [unbufferedActive, hc', h₁]

omit [Libraries] in
theorem Reads.not_loadLocal (h : Reads c w a) (hb : w.body = none) :
    ∀ q ∈ a.all.head?, (new q).isLoadLocalPacket = false := by
  have hc := h.chained
  rw [h.all, Owed.payloads, hb, Owed.later]
  intro q hq
  have error : ∀ q ∈ (w.error.map errPayload).toList.head?, (new q).isLoadLocalPacket = false := by
    cases w.error
    case none => exact fun _ hq => nomatch hq
    case some e =>
      rintro _ ⟨⟩
      exact (Response.err e).not_loadLocal rfl
  cases hp : w.parts
  case nil =>
    rw [hp] at hq
    exact error q hq
  case cons p ps =>
    rw [hp] at hq hc
    rw [List.flatMap_cons, List.append_assoc] at hq
    by_cases hn : p.payloads = []
    case neg =>
      refine Part.not_loadLocal (p := p) ?_
      have ⟨q', qs, he⟩ := List.exists_cons_of_ne_nil hn
      rw [he] at hq ⊢
      exact hq
    case pos =>
      have hcut : ∃ r n, p = .cut r n := by
        cases p
        case ok d    => exact nomatch hn
        case set r   => exact nomatch hn
        case cut r n => exact ⟨r, n, rfl⟩
      rw [hn, hc.right.left hcut] at hq
      exact error q hq

-- The next result is read.
theorem Reads.read (h : Reads c w a) (hb : w.body = none) (hp : w.parts = p :: ps)
    {b : Option Body} (hr : p.rest u = some b) (hs : Arrivals.source.Supplies a (p.head u) a') :
    ∃ c', readQueryResult u c = .ok (p.result c.inner u).affectedRows c' ∧
      c'.inner.result = some (p.result c.inner u) ∧ Reads c' ⟨b, ps, w.error⟩ a' ∧ Kept c c' := by
  have hc := h.chained
  rw [hp] at hc
  have hbody : p.body u = b := by rw [Part.body, hr]; rfl
  have hw : w.payloads = p.head u ++ Owed.payloads ⟨b, ps, w.error⟩ := by
    rw [Owed.payloads, Owed.later, hb, hp, List.flatMap_cons, Part.payloads_split u hc.left, hbody]
    simp [Owed.payloads, Owed.later, Part.bodyPayloads]
  have hsm (q) (hq : q ∈ p.head u) : q.length ≤ usizeMax :=
    h.small q (hw ▸ List.mem_append_left _ hq)
  have hf := Part.feed_head c.outline.inner hr hsm
  obtain ⟨_, _, _, _, hn, hf⟩ := hs.feed_some hf
  obtain rfl := hn.nil_eq.symm
  have hl : Arrivals.source.feedLocal (fun q _ => step c.outline.inner q) { unbufferedActive := u } a =
      .ok ((p.result c.inner u).affectedRows, p.result c.inner u) a' := by
    rw [Source.feedLocal, hf]
    rfl
  obtain ⟨c', hq, hw'⟩ := h.awaiting.readQueryResult_ok (h.not_loadLocal hb) hl
  have hk : Kept c c' := .of_outline hw'.left rfl rfl ⟨rfl, rfl, rfl, rfl⟩
  refine ⟨c', hq, congrArg (·.inner.result) hw'.left, ?_, hk⟩
  exact h.supplies hs hw' hk hw hc.right.right

omit [Libraries] in
theorem Reads.owes_iff {r : MySQLResult} (h : Reads c w a) (hr : c.inner.result = some r) :
    Owes c w a ↔ w.Recorded (some r) :=
  ⟨fun ho => hr ▸ ho.recorded, fun hw => { h with recorded := hr.symm ▸ hw }⟩

-- The flags of a result that has just been read are right, unless it is an OK packet where rows were
-- expected.
theorem recorded_result (conn : MySQL.Connection) {b : Option Body} {error : Option Bytes}
    (hr : p.rest u = some b) (hc : Owed.Chained error (p :: ps)) :
    (Owed.mk b ps error).Recorded (some (p.result conn u)) ↔ ¬(u = true ∧ ∃ d, p = .ok d) := by
  obtain ⟨ha, hcut, _⟩ := hc
  cases p
  case ok d =>
    cases hr
    cases u
    case true  => simp [Owed.Recorded, Part.result, Ok.result]
    case false => simpa [Owed.Recorded, Part.result, Ok.result] using show _ = _ from ha
  case set r =>
    cases hr
    cases u
    case false =>
      simpa [Owed.Recorded, Part.result, ResultSet.result, ResultSet.opened] using show _ = _ from ha
    case true =>
      refine iff_of_true ⟨_, rfl, rfl, fun row hrow => ⟨r.width_ne_nil hrow, ?_⟩, ?_, by simp⟩ (by simp)
      · simp [Part.result, r.widths row hrow, ResultSet.opened, ResultSet.converters, ResultSet.fields]
      · rintro _ ⟨⟩
        exact ha
  case cut r n =>
    rw [Part.rest] at hr
    split at hr
    case isFalse => cases hr
    case isTrue hu =>
      cases hr
      obtain rfl := hu.left
      have hn := hcut ⟨r, n, rfl⟩
      refine iff_of_true ⟨_, rfl, rfl, fun row hrow => ?_, by simp, fun _ => ⟨hn, ?_⟩⟩ (by simp)
      · have hm := List.mem_of_mem_take hrow
        exact ⟨r.width_ne_nil hm, by
          simp [Part.result, r.widths row hm, ResultSet.opened, ResultSet.converters,
            ResultSet.fields]⟩
      · simpa [Owed.follows, hn] using ha.left

-- An error packet that comes before the next result is complete stops the reading.
theorem Reads.read_error (h : Reads c w a) (hb : w.body = none) (he : w.error = some e)
    (hk : ∀ k, w.need u ≤ a.arrivedBy k → a.all.length ≤ a.arrivedBy k) :
    ∃ c', readQueryResult u c = .error (Error.raiseMysqlException (errPayload e)) c' ∧
      c'.inner.result = c.inner.result ∧ Kept c c' := by
  have hx : a.all = w.parts.flatMap (·.payloads) ++ [errPayload e] := by
    rw [h.all, Owed.payloads, Owed.later, hb, he]
    rfl
  obtain ⟨j, a₁, a₂, hj, hs, hn⟩ := Arrivals.supplies_error hx (Owed.parts_not_error w.parts)
    (isError_errPayload e) h.queue hk
  obtain ⟨t, hf⟩ : ∃ t, Source.feedList (step c.outline.inner) ((w.parts.flatMap (·.payloads)).take j)
      { unbufferedActive := u } = .ok none t := by
    cases hp : w.parts
    case nil => exact ⟨_, by rw [List.flatMap_nil, List.take_nil]; rfl⟩
    case cons p ps =>
      have hc := h.chained
      rw [Owed.need, hp] at hj
      change j < p.need u at hj
      rw [hp] at hc hx
      have hle : j ≤ (p.head u).length := by
        rw [Part.need] at hj
        split at hj <;> omega
      have hsm (q) (hq : q ∈ p.head u) : q.length ≤ usizeMax := by
        refine h.small q ?_
        rw [← h.all, hx, List.flatMap_cons, Part.payloads_split u hc.left]
        simp [hq]
      rw [List.flatMap_cons, Part.payloads_split u hc.left, List.append_assoc,
        List.take_append_of_le_length hle]
      exact Part.feed_head_take _ hc.left hj hsm
  have hl : Arrivals.source.feedLocal (fun q _ => step c.outline.inner q) { unbufferedActive := u } a =
      .error (Error.raiseMysqlException (errPayload e)) a₂ := by
    rw [Source.feedLocal, hs.feed_exhausted hf, Arrivals.source.feed_next_error hn]
  obtain ⟨c', hq, hw'⟩ := h.awaiting.readQueryResult_error (h.not_loadLocal hb) hl
  exact ⟨c', hq, congrArg (·.inner.result) hw'.left, .of_outline hw'.left rfl rfl ⟨rfl, rfl, rfl, rfl⟩⟩

end Reading

end Tokio.Connection
end MySQL
