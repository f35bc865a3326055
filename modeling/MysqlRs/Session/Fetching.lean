import MysqlRs.Session.Flags
import MysqlRs.Session.Pairing
import MysqlRs.Tokio.Cursor

namespace MySQL.Tokio

open Command Server PacketStream Tokio.Connection

-- The calls that fetch rows.
inductive Fetch
  | one
  | many (size : Option Nat)
  | all

namespace Fetch

-- The number of rows that are asked for.
def count (arraySize : Nat) (rows : List Row) : Fetch → Nat
  | one       => 1
  | many size => size.getD arraySize
  | all       => rows.length

-- What the calls take of the rows that are left, from the front.
def served (arraySize : Nat) : List Fetch → List Row → List (List Row)
  | [],            _    => []
  | fetch :: more, rows =>
    let n := fetch.count arraySize rows
    rows.take n :: served arraySize more (rows.drop n)

-- The answers to a sequence of calls.
def answers {σ : Type} (run : Fetch → Proc Error σ (List Row)) : List Fetch → Proc Error σ (List (List Row))
  | []            => return []
  | fetch :: more => do
    let rows ← run fetch
    let rest ← answers run more
    return rows :: rest

-- Where each call takes rows from the front, so does a sequence of calls.
theorem answers_ok {σ : Type} {run : Fetch → Proc Error σ (List Row)} {arraySize : Nat} {I : σ → List Row → Prop}
    (hrun : ∀ fetch s rows, I s rows → ∃ s',
      run fetch s = .ok (rows.take (fetch.count arraySize rows)) s' ∧ I s' (rows.drop (fetch.count arraySize rows)))
    (fetches : List Fetch) {s : σ} {rows : List Row} (h : I s rows) :
    ∃ s', answers run fetches s = .ok (served arraySize fetches rows) s' := by
  induction fetches generalizing s rows
  case nil => exact ⟨s, rfl⟩
  case cons fetch more ih =>
    have ⟨s₁, hf, h₁⟩ := hrun fetch s rows h
    have ⟨s₂, hm⟩ := ih h₁
    exact ⟨s₂, by simp only [answers, Proc.bind_apply, hf, Outcome.bind_ok, hm]; rfl⟩

end Fetch

variable [Libraries]

def Cursor.fetch : Fetch → Proc Error Cursor (List Row)
  | .one       => do return (← fetchOne).toList
  | .many size => fetchMany size
  | .all       => fetchAll

def UnbufferedCursor.fetch : Fetch → Proc Error UnbufferedCursor (List Row)
  | .one       => do return (← fetchOne).toList
  | .many size => fetchMany size
  | .all       => fetchAll

theorem Alike.result {i j : MySQL.Connection} (h : Alike i j) (u : Bool) (p : Part) :
    p.result i u = p.result j u := by
  cases p <;>
    simp [Part.result, ResultSet.result, ResultSet.opened, h.decode, ResultSet.converters,
      ResultSet.fields, MySQLResult.buildConverter, h.encoding, h.useUnicode, h.converters]

-- A connection on which this query is sent next, and these results are its answer.
structure Connection.Expects (c : Connection) (sql : Text) (parts : List Part) : Prop where
  ready   : c.Ready
  chained : Owed.Chained none parts
  answer  : ∃ pieces, c.answers.head? = some (pieces.map .ok) ∧
    Cut c.inner.packetStream.maxAllowedPacket (answerSeq COM_QUERY sql.asBytes) (Call.partsPayloads parts) pieces

theorem Connection.Expects.query {c : Connection} {sql : Text} {p : Part} {ps : List Part}
    (h : c.Expects sql (p :: ps)) (u : Bool) :
    ∃ n c' a, Connection.query sql u c = .ok n c' ∧ c'.inner.result = some (p.result c.inner u) ∧
      Reads c' ⟨p.body u, ps, none⟩ a ∧ (Owes c' ⟨p.body u, ps, none⟩ a ↔ ¬(u = true ∧ ∃ d, p = .ok d)) ∧
      Alike c'.inner c.inner := by
  have ⟨pieces, ha, hp⟩ := h.answer
  have ⟨c₁, hq, hrd, hal, _⟩ := h.ready.owes.query rfl (fun _ _ => Nat.zero_le _) ha h.chained hp
  have ⟨n, c₂, hr, hres, hrd₂, howes, hk⟩ := hrd.readNext (u := u) rfl rfl rfl
  exact ⟨n, c₂, _, (hq u).trans hr, hres.trans (congrArg _ (hal.result u p)), hrd₂, howes, hk.alike.trans hal⟩

namespace Cursor

variable {c : Cursor} {rows : List Row}

-- The rows that are left on a cursor.
structure Left (arraySize : Nat) (c : Cursor) (rows : List Row) : Prop where
  executed  : c.executed.isSome
  arraySize : c.arraySize = arraySize
  within    : c.rowNumber ≤ (c.rows.getD []).length
  rows      : (c.rows.getD []).drop c.rowNumber = rows

omit [Libraries] in
theorem Left.checkExecuted {n : Nat} (h : Left n c rows) : checkExecuted c = .ok () c := by
  have := h.executed
  simp only [Cursor.checkExecuted, Proc.bind_apply, Proc.get_apply, Outcome.bind_ok]
  rw [if_neg (by simpa [Option.isSome_iff_ne_none] using this)]
  rfl

omit [Libraries] in
-- The cursor is moved past the rows that a call gives.
theorem Left.move {n : Nat} (h : Left n c rows) (k : Nat) :
    Left n { c with rowNumber := min (c.rowNumber + k) (c.rows.getD []).length } (rows.drop k) where
  executed  := h.executed
  arraySize := h.arraySize
  within    := Nat.min_le_right ..
  rows      := by
    rw [← h.rows, List.drop_drop]
    rcases Nat.le_total (c.rowNumber + k) (c.rows.getD []).length with hl | hl
    · rw [Nat.min_eq_left hl]
    · rw [Nat.min_eq_right hl, List.drop_length, List.drop_of_length_le hl]

omit [Libraries] in
theorem Left.fetchOne {n : Nat} (h : Left n c rows) : ∃ c', fetchOne c = .ok rows.head? c' ∧ Left n c' rows.tail := by
  have hm := h.move 1
  have hr : c.rows.bind (·[c.rowNumber]?) = rows.head? := by
    rw [← h.rows]
    cases c.rows <;> simp [List.head?_drop]
  simp only [Cursor.fetchOne, Proc.bind_apply, h.checkExecuted, Proc.get_apply, Outcome.bind_ok, hr]
  cases rows
  case nil           => exact ⟨c, rfl, h⟩
  case cons row rows =>
    have hl : c.rowNumber < (c.rows.getD []).length := by
      by_contra hl
      have := h.rows
      rw [List.drop_of_length_le (Nat.le_of_not_lt hl)] at this
      exact nomatch this
    rw [Nat.min_eq_left hl] at hm
    exact ⟨_, rfl, hm⟩

omit [Libraries] in
theorem Left.fetchMany {n : Nat} (h : Left n c rows) (size : Option Nat) :
    ∃ c', fetchMany size c = .ok (rows.take (size.getD n)) c' ∧ Left n c' (rows.drop (size.getD n)) := by
  have hm := h.move (size.getD n)
  simp only [Cursor.fetchMany, Proc.bind_apply, h.checkExecuted, Proc.get_apply, Outcome.bind_ok]
  cases hr : c.rows
  case none =>
    have hn : rows = [] := by simp [← h.rows, hr]
    subst hn
    simp only [List.take_nil, List.drop_nil]
    exact ⟨c, rfl, h⟩
  case some all =>
    rw [hr] at hm
    have hrows : rows = all.drop c.rowNumber := by rw [← h.rows, hr]; rfl
    refine ⟨_, ?_, hm⟩
    have ht : (all.take (min (c.rowNumber + size.getD n) all.length)).drop c.rowNumber =
        (all.drop c.rowNumber).take (size.getD n) := by
      rw [List.drop_take, List.take_eq_take_iff, List.length_drop]
      omega
    rw [h.arraySize, hrows, ← ht]
    rfl

omit [Libraries] in
theorem Left.fetchAll {n : Nat} (h : Left n c rows) : ∃ c', fetchAll c = .ok rows c' ∧ Left n c' [] := by
  have hm := h.move (c.rows.getD []).length
  rw [Nat.min_eq_right (Nat.le_add_left _ _)] at hm
  simp only [Cursor.fetchAll, Proc.bind_apply, h.checkExecuted, Proc.get_apply, Outcome.bind_ok]
  cases hr : c.rows
  case none =>
    have hn : rows = [] := by simp [← h.rows, hr]
    subst hn
    exact ⟨c, rfl, h⟩
  case some all =>
    rw [hr] at hm
    have hrows : rows = all.drop c.rowNumber := by rw [← h.rows, hr]; rfl
    refine ⟨_, by rw [hrows]; rfl, ?_⟩
    rwa [List.drop_of_length_le (by rw [hrows, List.length_drop]; exact Nat.sub_le ..)] at hm

omit [Libraries] in
theorem Left.fetch {n : Nat} (h : Left n c rows) (fetch : Fetch) :
    ∃ c', Cursor.fetch fetch c = .ok (rows.take (fetch.count n rows)) c' ∧
      Left n c' (rows.drop (fetch.count n rows)) := by
  cases fetch
  case one =>
    have ⟨c', hf, hl⟩ := h.fetchOne
    refine ⟨c', ?_, by rwa [Fetch.count, List.drop_one]⟩
    simp only [Cursor.fetch, Proc.bind_apply, hf, Outcome.bind_ok, Fetch.count]
    cases rows <;> rfl
  case many size => exact h.fetchMany size
  case all =>
    have ⟨c', hf, hl⟩ := h.fetchAll
    exact ⟨c', by rw [Fetch.count, List.take_length]; exact hf, by rwa [Fetch.count, List.drop_length]⟩

end Cursor

-- The rows that a connection still gives one by one.
def Connection.Streams (c : Connection) (rows : List Row) : Prop :=
  ∃ w a, c.Owes w a ∧ w.error = none ∧
    rows = ((w.body.map (·.rows)).getD []).map (List.zipWith FieldConverter.convert c.rowConverters)

theorem Connection.Streams.nextRow {c : Connection} {rows : List Row} (h : c.Streams rows) :
    ∃ c', nextUnbufferedRow c = .ok rows.head? c' ∧ c'.Streams rows.tail := by
  have ⟨w, a, ho, he, hrows⟩ := h
  have ⟨c', hx, hcv, ho', _⟩ := ho.takeRow he
  refine ⟨c', ?_, _, _, ho', Call.after_error .nextRow a he, ?_⟩
  · rw [hx, hrows]
    cases w.body <;> simp [List.head?_map]
  · rw [hcv, hrows, ← List.map_tail]
    congr 1
    cases hb : w.body
    case none   => simp [Call.after, hb]
    case some b =>
      obtain ⟨rows, eof⟩ := b
      simp only [Call.after, hb]
      cases rows <;> rfl

namespace UnbufferedCursor

variable {c : UnbufferedCursor} {rows : List Row} {n : Nat}

-- The rows that are left on a cursor.
structure Left (arraySize : Nat) (c : UnbufferedCursor) (rows : List Row) : Prop where
  open_     : c.closed = false
  executed  : c.executed = true
  arraySize : c.arraySize = arraySize
  streams   : c.connection.Streams rows

theorem Left.nextRow (h : Left n c rows) :
    ∃ c', onConnection Connection.nextUnbufferedRow c = .ok rows.head? c' ∧ Left n c' rows.tail := by
  have ⟨connection, hx, hs⟩ := h.streams.nextRow
  exact ⟨c.setConnection connection, Proc.zoom_eq_ok.mpr ⟨connection, hx, rfl⟩, h.open_, h.executed,
    h.arraySize, hs⟩

theorem Left.setRowNumber (h : Left n c rows) (k : Nat) : Left n { c with rowNumber := k } rows :=
  ⟨h.open_, h.executed, h.arraySize, h.streams⟩

theorem Left.checks (h : Left n c rows) : checkClosed c = .ok () c ∧ checkExecuted c = .ok () c := by
  simp [checkClosed, checkExecuted, h.open_, h.executed]

theorem Left.fetchOne (h : Left n c rows) : ∃ c', fetchOne c = .ok rows.head? c' ∧ Left n c' rows.tail := by
  have ⟨hc, hx⟩ := h.checks
  have ⟨c', hn, hl⟩ := h.nextRow
  simp only [UnbufferedCursor.fetchOne, Proc.bind_apply, hc, hx, hn, Outcome.bind_ok]
  cases rows
  case nil      => exact ⟨c', rfl, hl⟩
  case cons _ _ => exact ⟨_, rfl, hl.setRowNumber _⟩

theorem Left.fetchRows (h : Left n c rows) (size : Nat) :
    ∃ c', fetchRows size c = .ok (rows.take size) c' ∧ Left n c' (rows.drop size) := by
  induction size generalizing c rows
  case zero         => exact ⟨c, rfl, h⟩
  case succ size ih =>
    have ⟨c₁, hn, hl⟩ := h.nextRow
    rw [UnbufferedCursor.fetchRows, Proc.bind_apply, hn]
    cases rows
    case nil          => exact ⟨c₁, rfl, hl⟩
    case cons row more =>
      have ⟨c₂, hf, hl₂⟩ := ih (hl.setRowNumber (c₁.rowNumber + 1))
      refine ⟨c₂, ?_, hl₂⟩
      change (UnbufferedCursor.fetchRows size { c₁ with rowNumber := c₁.rowNumber + 1 }).bind _ = _
      rw [hf]
      rfl

theorem Left.fetchRest (h : Left n c rows) : ∃ c', fetchRest c = .ok rows c' ∧ Left n c' [] := by
  induction rows generalizing c
  case nil =>
    obtain ⟨c', hn, hl⟩ := h.nextRow
    refine ⟨c', ?_, hl⟩
    rw [UnbufferedCursor.fetchRest]
    split <;> simp_all
  case cons row rows ih =>
    obtain ⟨c₁, hn, hl⟩ := h.nextRow
    obtain ⟨c₂, hf, hl₂⟩ := ih (hl.setRowNumber (c₁.rowNumber + 1))
    refine ⟨c₂, ?_, hl₂⟩
    rw [UnbufferedCursor.fetchRest]
    split <;> simp_all

theorem Left.fetch (h : Left n c rows) (fetch : Fetch) :
    ∃ c', UnbufferedCursor.fetch fetch c = .ok (rows.take (fetch.count n rows)) c' ∧
      Left n c' (rows.drop (fetch.count n rows)) := by
  have ⟨hc, hx⟩ := h.checks
  cases fetch
  case one =>
    have ⟨c', hf, hl⟩ := h.fetchOne
    refine ⟨c', ?_, by rwa [Fetch.count, List.drop_one]⟩
    simp only [UnbufferedCursor.fetch, Proc.bind_apply, hf, Outcome.bind_ok, Fetch.count]
    cases rows <;> rfl
  case many size =>
    have ⟨c', hf, hl⟩ := h.fetchRows (size.getD n)
    refine ⟨c', ?_, hl⟩
    simp only [UnbufferedCursor.fetch, fetchMany, Proc.bind_apply, hc, hx, Outcome.bind_ok, Proc.get_apply,
      h.arraySize]
    exact hf
  case all =>
    have ⟨c', hf, hl⟩ := h.fetchRest
    refine ⟨c', ?_, by rwa [Fetch.count, List.drop_length]⟩
    simp only [UnbufferedCursor.fetch, fetchAll, Proc.bind_apply, hc, hx, Outcome.bind_ok, Fetch.count,
      List.take_length]
    exact hf

end UnbufferedCursor

section Execute

variable {query sql : Text} {args : Option (List Value)} {r : ResultSet} {ps : List Part}

-- When a result set has been read, its rows are left.
theorem Cursor.Usable.execute_left {c : Cursor} (hc : c.Usable) (hm : c.connection.mogrify query args = .ok sql)
    (h : c.connection.Expects sql (.set r :: ps)) :
    ∃ n c', execute query args c = .ok n c' ∧ c'.Left c.arraySize (r.rows.map (r.decode c.connection.inner)) := by
  have ⟨n, connection, _, hq, hres, _⟩ := h.query false
  have hrows : ((r.result c.connection.inner).rows.getD []) = r.rows.map (r.decode c.connection.inner) := by
    by_cases hr : r.rows = [] <;> simp [ResultSet.result, hr]
  refine ⟨n, _, hc.execute_ok hm hq, rfl, ?_, ?_, ?_⟩
  all_goals simp [refreshResult, setConnection, Connection.result, hres, Part.result, hrows]

theorem UnbufferedCursor.execute_left {c : UnbufferedCursor} (hc : c.closed = false)
    (hm : c.connection.mogrify query args = .ok sql) (h : c.connection.Expects sql (.set r :: ps)) :
    ∃ n c', execute query args c = .ok n c' ∧ c'.Left c.arraySize (r.rows.map (r.decode c.connection.inner)) := by
  have ⟨n, connection, _, hq, hres, _, howes, _⟩ := h.query true
  have ho := howes.mpr fun ⟨_, _, hd⟩ => nomatch hd
  have hcv : connection.rowConverters = r.converters c.connection.inner := by
    rw [rowConverters, hres]
    rfl
  refine ⟨n, _, execute_ok hc hm hq, hc, rfl, rfl, _, _, ho, rfl, ?_⟩
  change _ = r.rows.map (List.zipWith FieldConverter.convert connection.rowConverters)
  rw [hcv]
  rfl

-- A buffered and an unbuffered cursor that have executed the same query on connections with the same
-- settings give the same rows at every call, and these are the rows of the result set in their order.
theorem fetches_agree {b : Cursor} {u : UnbufferedCursor} (hb : b.Usable) (hu : u.closed = false)
    (ha : Alike u.connection.inner b.connection.inner) (hs : u.arraySize = b.arraySize)
    (hbm : b.connection.mogrify query args = .ok sql) (hum : u.connection.mogrify query args = .ok sql)
    (hbx : b.connection.Expects sql (.set r :: ps)) (hux : u.connection.Expects sql (.set r :: ps))
    (fetches : List Fetch) :
    ∃ n b' m u', b.execute query args = .ok n b' ∧ u.execute query args = .ok m u' ∧
      ∃ rows b'' u'', Fetch.answers Cursor.fetch fetches b' = .ok rows b'' ∧
        Fetch.answers UnbufferedCursor.fetch fetches u' = .ok rows u'' ∧
        rows = Fetch.served b.arraySize fetches (r.rows.map (r.decode b.connection.inner)) := by
  have ⟨n, b', hbe, hbl⟩ := hb.execute_left hbm hbx
  have ⟨m, u', hue, hul⟩ := UnbufferedCursor.execute_left hu hum hux
  have ⟨b'', hb''⟩ := Fetch.answers_ok (fun fetch _ _ h => h.fetch fetch) fetches hbl
  have ⟨u'', hu''⟩ := Fetch.answers_ok (fun fetch _ _ h => h.fetch fetch) fetches hul
  have hd : r.decode u.connection.inner = r.decode b.connection.inner := ha.decode r
  rw [hs, hd] at hu''
  exact ⟨n, b', m, u', hbe, hue, _, b'', u'', hb'', hu'', rfl⟩

end Execute

section Split

variable {r : ResultSet} {row : List (Option Bytes)} {rows : List (List (Option Bytes))} {command : UInt8} {sql : Bytes}

-- The number of bytes up to the end of the first fragment of the first row.
def firstFragmentEnd (r : ResultSet) : Nat :=
  framedLen r.header + (4 + maxPacketLen)

-- A result set in two reads. The first one ends behind the first fragment of the first row.
def splitPieces (r : ResultSet) (seq : UInt8) : List Bytes :=
  let bytes := framed seq r.payloads
  [bytes.take (firstFragmentEnd r), bytes.drop (firstFragmentEnd r)]

omit [Libraries] in
theorem splitPieces_eq (seq : UInt8) (hr : r.rows = row :: rows) (hl : maxPacketLen ≤ (rowPayload row).length) :
    splitPieces r seq =
      [framed seq r.header ++ fragment (seqAfter seq r.header) ((rowPayload row).take maxPacketLen),
        framed (seqAfter seq r.header + 1)
          ((rowPayload row).drop maxPacketLen :: (rows.map rowPayload ++ [r.rowsEof.payload]))] := by
  have hp : r.payloads = r.header ++ rowPayload row :: (rows.map rowPayload ++ [r.rowsEof.payload]) := by
    rw [ResultSet.payloads, ResultSet.body, hr]
    rfl
  have hf : framed seq r.payloads =
      (framed seq r.header ++ fragment (seqAfter seq r.header) ((rowPayload row).take maxPacketLen)) ++
        framed (seqAfter seq r.header + 1)
          ((rowPayload row).drop maxPacketLen :: (rows.map rowPayload ++ [r.rowsEof.payload])) := by
    rw [hp, framed_append, framed, framed, plainPackets_long hl]
    simp only [List.append_assoc]
  have hn : (framed seq r.header ++
      fragment (seqAfter seq r.header) ((rowPayload row).take maxPacketLen)).length = firstFragmentEnd r := by
    simp [firstFragmentEnd, hl]
  rw [splitPieces, hf, List.take_left' hn, List.drop_left' hn]

theorem Connection.readQueryResult_of_pumpRead {c c' : Connection} (h : c.inner.packetStream.recvQueue = [])
    (hp : pumpRead c = .ok () c') (u : Bool) : readQueryResult u c = readQueryResult u c' := by
  simp only [readQueryResult, readFirstPacket, Proc.bind_apply, readPacket_of_empty h, hp, Outcome.bind_ok]

-- The first fragment of the row is queued for a packet, and the rest of the row is to come as another one.
theorem Connection.Ready.awaiting_split {c : Connection} (h : c.Ready) (u : Bool) (hr : r.rows = row :: rows)
    (hl : maxPacketLen ≤ (rowPayload row).length) (hn : ¬IsError ((rowPayload row).drop maxPacketLen))
    (fits : ∀ p ∈ r.payloads, p.length ≤ c.inner.packetStream.maxAllowedPacket.toNat)
    (ha : c.answers.head? = some ((splitPieces r (answerSeq command sql)).map .ok)) :
    ∃ c' coming, readQueryResult u (c.afterCommand command sql) = readQueryResult u c' ∧
      Awaiting (c.afterCommand command sql).outline c'
        ⟨r.header ++ [(rowPayload row).take maxPacketLen], coming⟩ := by
  generalize hch : (rowPayload row).take maxPacketLen = chunk
  generalize hrs : (rowPayload row).drop maxPacketLen :: (rows.map rowPayload ++ [r.rowsEof.payload]) = rest
  have hc : chunk.length = maxPacketLen := by rw [← hch, List.length_take, Nat.min_eq_left hl]
  have hrow : rowPayload row ∈ r.payloads := by
    simp [ResultSet.payloads, ResultSet.body, hr]
  have fits₁ : ∀ p ∈ r.header ++ [chunk], p.length ≤ c.inner.packetStream.maxAllowedPacket.toNat := by
    rw [List.forall_mem_append, List.forall_mem_singleton]
    exact ⟨fun p hp => fits p (List.mem_append_left _ hp), hc.trans_le (hl.trans (fits _ hrow))⟩
  have fits₂ : ∀ p ∈ rest, p.length ≤ c.inner.packetStream.maxAllowedPacket.toNat := by
    rw [← hrs, List.forall_mem_cons, List.length_drop]
    refine ⟨(Nat.sub_le ..).trans (fits _ hrow), fun p hp => fits p ?_⟩
    rw [ResultSet.payloads, ResultSet.body, hr]
    exact List.mem_append_right _ (List.mem_cons_of_mem _ hp)
  have he₁ : ∀ p ∈ r.header ++ [chunk], ¬IsError p := by
    rw [List.forall_mem_append, List.forall_mem_singleton]
    refine ⟨r.header_not_error, ?_⟩
    have := rowPayload_not_error (r.width_ne_nil (hr ▸ List.mem_cons_self))
    rwa [← hch, IsError, MysqlPacket.isErrorPacket, MysqlPacket.new_data, List.head?_take, if_neg (by decide)]
  have he₂ : ErrorLast rest := by
    rw [← hrs]
    refine .of_forall (List.forall_mem_cons.mpr ⟨hn, fun p hp => r.body_not_error p ?_⟩)
    rw [ResultSet.body, hr]
    exact List.mem_cons_of_mem _ hp
  have hi : Idle (c.afterCommand command sql).inner.packetStream :=
    ⟨h.idle.plain, h.idle.inflated, h.idle.buffer, h.idle.queue⟩
  have hf := hi.feed_fragment hc fits₁ he₁
  rw [splitPieces_eq _ hr hl, hch, hrs] at ha
  have hin : c.answers.headD [] = _ := (List.headD_eq_head?_getD ..).trans (congrArg (Option.getD · []) ha)
  have hd : framed (answerSeq command sql) r.header ++
      fragment (seqAfter (answerSeq command sql) r.header) chunk ≠ [] := by
    intro hd
    have := congrArg List.length hd
    simp at this
  have hp := pumpRead_data (c := c.afterCommand command sql) rfl hin hd
  have hseq : (c.afterCommand command sql).inner.packetStream.nextSeqId = answerSeq command sql := rfl
  rw [hseq] at hf
  simp only [MySQL.Connection.feedBytes, MySQL.Connection.onStream_apply, hf, Outcome.mapState_ok,
    Nat.succ_pos, if_true] at hp
  refine ⟨_, batches rest 0 [framed (seqAfter (answerSeq command sql) r.header + 1) rest],
    readQueryResult_of_pumpRead hi.queue hp u,
    .of_cut ⟨hi.plain, hi.inflated, hi.buffer, rfl⟩ rfl rfl rfl (.whole ?_ fits₂ he₂)⟩
  rw [← hrs]
  exact List.cons_ne_nil _ _

-- The front of a row is not taken for a row, if it is long enough not to be taken for an EOF packet.
theorem rowStep_front (conn : MySQL.Connection) {front rest : Bytes} (hw : row.length = r.columns.length)
    (hs : (rowPayload row).length ≤ usizeMax) (hp : rowPayload row = front ++ rest) (hn : rest ≠ [])
    (hf : 9 ≤ front.length) : ∃ e t, rowStep (.new front) (r.opened conn true) = .error e t := by
  have hw : row.length = (r.converters conn).length := by simp [ResultSet.converters, ResultSet.fields, hw]
  obtain ⟨e, he⟩ := (row_consumes hw hs).fails_on_front (readRow_local _) hp hn hs
  have heof : (MysqlPacket.new front).isEofPacket = false := by
    simp [MysqlPacket.isEofPacket, Nat.not_lt.mpr hf]
  have hrun : (MysqlPacket.new front).run (FieldConverter.readRow (r.converters conn)) =
      (Proc.throw e : Proc Error MySQLResult Row) := by
    rw [MysqlPacket.run, he, Proc.ofExcept_error]
  exact ⟨e, { r.opened conn true with affectedRows := 1 }, by
    simp [rowStep, MySQLResult.readRowdataPacketUnbuffered, MySQLResult.checkPacketIsEof, heof,
      MySQLResult.readRowFromPacket, ResultSet.opened, hrun]⟩

-- The definitions are read, whatever has come behind them.
theorem Connection.Awaiting.readQueryResult_header {o c : Connection} {more : List Bytes} {coming : List (List Bytes)}
    (h : Awaiting o c ⟨r.header ++ more, coming⟩) (hs : ∀ p ∈ r.header, p.length ≤ usizeMax) :
    ∃ c', readQueryResult true c = .ok 0 c' ∧
      Awaiting (o.setInner (o.inner.setResult (r.opened o.inner true))) c' ⟨more, coming⟩ := by
  have hf := (Part.set r).feed_head o.inner (u := true) rfl hs
  obtain ⟨_, _, _, _, hrest, hf⟩ := (Arrivals.supplies_queue r.header more coming).feed_some hf
  obtain rfl := hrest.nil_eq
  have hf : Arrivals.source.feedLocal (fun p _ => step o.inner p) { unbufferedActive := true }
      ⟨r.header ++ more, coming⟩ = .ok (0, r.opened o.inner true) ⟨more, coming⟩ := by
    rw [Source.feedLocal, hf]
    rfl
  exact h.readQueryResult_ok (fun p hp => (Response.set r).not_loadLocal hp) hf

theorem UnbufferedCursor.fetchOne_error {c : UnbufferedCursor} (hc : c.closed = false) (hx : c.executed = true)
    {e : Error} {connection : Connection} (h : nextUnbufferedRow c.connection = .error e connection) :
    fetchOne c = .error e (c.setConnection connection) := by
  simp [fetchOne, checkClosed, checkExecuted, hc, hx, onConnection, h]

-- So the first row that is asked for fails.
theorem UnbufferedCursor.fetchOne_split {c : UnbufferedCursor} {query sql : Text} {args : Option (List Value)}
    (hc : c.closed = false) (hm : c.connection.mogrify query args = .ok sql) (h : c.connection.Ready)
    (hr : r.rows = row :: rows) (hl : maxPacketLen < (rowPayload row).length)
    (hn : ¬IsError ((rowPayload row).drop maxPacketLen))
    (fits : ∀ p ∈ r.payloads, p.length ≤ c.connection.inner.packetStream.maxAllowedPacket.toNat)
    (ha : c.connection.answers.head? = some ((splitPieces r (answerSeq COM_QUERY sql.asBytes)).map .ok)) :
    ∃ n c' e c'', execute query args c = .ok n c' ∧ fetchOne c' = .error e c'' := by
  obtain ⟨c₁, coming, hq, hw⟩ := h.awaiting_split true hr hl.le hn fits ha
  generalize hch : (rowPayload row).take maxPacketLen = chunk at hw
  generalize (c.connection.afterCommand COM_QUERY sql.asBytes).outline = o at hw
  have small (p : Bytes) (hp : p ∈ r.payloads) : p.length ≤ usizeMax :=
    (fits p hp).trans (Nat.le_sub_one_of_lt (UInt64.toNat_lt _))
  obtain ⟨c₂, hq₂, hw₂⟩ := hw.readQueryResult_header fun p hp => small p (List.mem_append_left _ hp)
  have hx := execute_ok hc hm ((h.query sql true).trans (hq.trans hq₂))
  -- The fragment comes next.
  have hlen : chunk.length = maxPacketLen := by rw [← hch, List.length_take, Nat.min_eq_left hl.le]
  obtain ⟨e, t, he⟩ := rowStep_front o.inner (r.widths row (hr ▸ List.mem_cons_self))
    (small _ (by simp [ResultSet.payloads, ResultSet.body, hr])) (List.take_append_drop maxPacketLen _).symm
    (List.ne_nil_of_length_pos (by rw [List.length_drop]; omega)) (hch ▸ hlen ▸ by decide)
  rw [hch] at he
  have hstep : Arrivals.source.feed (fun p _ => rowStep (.new p)) (r.opened o.inner true, ⟨[chunk], coming⟩) =
      .error e (t, ⟨[], coming⟩) := by
    rw [Arrivals.source.feed_ok (Arrivals.next_of_queue chunk [] coming), he]
  obtain ⟨c₃, hn₃, _⟩ := hw₂.onResult_error hstep
  have hu : c₂.unbufferedActive = true := by
    have hres : c₂.inner.result = some (r.opened o.inner true) := congrArg (·.inner.result) hw₂.left
    simp [unbufferedActive, hres, ResultSet.opened]
  rw [← nextUnbufferedRow_of_active hu] at hn₃
  refine ⟨0, _, e, _, hx, fetchOne_error ?_ ?_ hn₃⟩
  · exact hc
  · rfl

end Split

section Examples

open Libraries

-- The answer to a query for one row, in one read or in two.
def oneRowIn (n : Nat) : List Bytes :=
  (Exchange.inTwo select (.set oneRow) n).pieces

omit [Libraries] in
theorem oneRowIn_expects (n : Nat) :
    (established [(oneRowIn n).map .ok]).Expects select [.set oneRow] where
  ready   := established_ready _
  chained := ⟨rfl, nofun, trivial⟩
  answer  := by
    have hx : (Exchange.inTwo select (.set oneRow) n).Orderly (16 * 1024 * 1024) :=
      Exchange.inTwo_orderly n (by decide) (by decide) (by decide) (by decide)
    exact ⟨oneRowIn n, rfl, hx.cut⟩

omit [Libraries] in
theorem oneRow_fetches_agree :
    let := utf8Only
    let b := Cursor.new (established [(oneRowIn 0).map .ok])
    let u := UnbufferedCursor.new (established [(oneRowIn 4).map .ok])
    ∃ n b' m u', b.execute select none = .ok n b' ∧ u.execute select none = .ok m u' ∧
      ∃ rows b'' u'', Fetch.answers Cursor.fetch [.one, .many none, .all] b' = .ok rows b'' ∧
        Fetch.answers UnbufferedCursor.fetch [.one, .many none, .all] u' = .ok rows u'' ∧
        rows = Fetch.served 1 [.one, .many none, .all] (oneRow.rows.map (oneRow.decode b.connection.inner)) := by
  let := utf8Only
  exact fetches_agree ⟨rfl, rfl⟩ rfl ⟨rfl, rfl, rfl, rfl⟩ rfl rfl rfl (oneRowIn_expects 0) (oneRowIn_expects 4) _

-- A result set with one row, which holds one value.
def oneValue (s : Bytes) : ResultSet where
  columns    := oneRow.columns
  columnsEof := oneRow.columnsEof
  rows       := [[some s]]
  rowsEof    := oneRow.rowsEof
  nonempty   := oneRow.nonempty
  small      := oneRow.small
  widths     := by simp [oneRow]

-- A value that takes one byte more than a fragment, with its length in front of it.
def longValue : Bytes :=
  List.replicate 16777212 0

omit [Libraries] in
theorem longValue_row : rowPayload [some longValue] = lenencInt 16777212 ++ longValue := by
  rw [rowPayload, List.flatMap_singleton, MysqlPacket.lenencNullable, MysqlPacket.lenencString, longValue,
    List.length_replicate]

omit [Libraries] in
theorem longValue_length : (rowPayload [some longValue]).length = 16777216 := by
  rw [longValue_row, List.length_append, longValue, List.length_replicate]
  rfl

omit [Libraries] in
theorem longValue_rest : ¬IsError ((rowPayload [some longValue]).drop maxPacketLen) := by
  have hl : (lenencInt 16777212).length = 4 := rfl
  rw [longValue_row, List.drop_append, List.drop_of_length_le (by rw [hl]; decide), List.nil_append, longValue,
    List.drop_replicate, IsError, MysqlPacket.isErrorPacket, MysqlPacket.new_data, List.head?_replicate]
  decide

omit [Libraries] in
theorem longValue_fits : ∀ p ∈ (oneValue longValue).payloads, p.length ≤ (16 * 1024 * 1024 : UInt64).toNat := by
  have hh : ∀ p ∈ (oneValue longValue).header, p.length ≤ (16 * 1024 * 1024 : UInt64).toNat :=
    show ∀ p ∈ oneRow.header, _ by decide
  have he : oneRow.rowsEof.payload.length ≤ (16 * 1024 * 1024 : UInt64).toNat := by decide
  rw [ResultSet.payloads, List.forall_mem_append]
  refine ⟨hh, List.forall_mem_cons.mpr ⟨?_, List.forall_mem_singleton.mpr he⟩⟩
  rw [longValue_length]
  decide

omit [Libraries] in
theorem longValue_expects :
    let seq := answerSeq COM_QUERY select.asBytes
    (established [[.ok (framed seq (oneValue longValue).payloads)]]).Expects select [.set (oneValue longValue)] where
  ready   := established_ready _
  chained := ⟨rfl, nofun, trivial⟩
  answer  := ⟨[framed _ (oneValue longValue).payloads], rfl,
    .whole (List.cons_ne_nil _ _) longValue_fits (.of_forall (oneValue longValue).not_error)⟩

omit [Libraries] in
theorem longValue_fetches_differ :
    let := utf8Only
    let seq := answerSeq COM_QUERY select.asBytes
    let r := oneValue longValue
    let b := Cursor.new (established [[.ok (framed seq r.payloads)]])
    let u := UnbufferedCursor.new (established [(splitPieces r seq).map .ok])
    (splitPieces r seq).flatten = framed seq r.payloads ∧
      ∃ n b' m u', b.execute select none = .ok n b' ∧ u.execute select none = .ok m u' ∧
        (∃ b'', Fetch.answers Cursor.fetch [.one] b' = .ok [r.rows.map (r.decode b.connection.inner)] b'') ∧
        ∃ e u'', Fetch.answers UnbufferedCursor.fetch [.one] u' = .error e u'' := by
  let := utf8Only
  intro _ seq r b u
  have hm : b.connection.mogrify select none = .ok select := rfl
  have ⟨n, b', hb, hl⟩ := Cursor.Usable.execute_left (c := b) ⟨rfl, rfl⟩ hm longValue_expects
  have ⟨b'', hb'⟩ := Fetch.answers_ok (fun fetch _ _ h => h.fetch fetch) [.one] hl
  have hm : u.connection.mogrify select none = .ok select := rfl
  have ⟨m, u', e, u'', hu, hf⟩ := UnbufferedCursor.fetchOne_split (c := u) (r := r) rfl hm (established_ready _)
    rfl (by rw [longValue_length]; decide) longValue_rest longValue_fits rfl
  refine ⟨?_, n, b', m, u', hb, hu, ⟨b'', hb'⟩, e, u'', ?_⟩
  · simp [splitPieces]
  · simp only [Fetch.answers, UnbufferedCursor.fetch, Proc.bind_apply, hf, Outcome.bind_error]

end Examples
end MySQL.Tokio
