import MysqlRs.Session.Fetching

namespace MySQL.Tokio

open Command Server PacketStream Tokio.Connection

-- What a cursor offers to go through the results of a query.
structure Walk (σ : Type) where
  execute  : Proc Error σ Int64
  fetchOne : Proc Error σ (Option Row)
  nextSet  : Proc Error σ Bool
  Shows    : Part → σ → Prop

namespace Walk

variable {σ : Type} (x : Walk σ)

-- Fetches some rows of the current result.
def fetches : Nat → Proc Error σ Unit
  | 0     => pure ()
  | k + 1 => do
    let _ ← x.fetchOne
    fetches k

-- Whatever is fetched of each result, `nextSet` moves through these results, giving true each time, and
-- then gives false.
def Visits : List Part → σ → Prop
  | [],      s => ∀ k, ∃ s₁ s', x.fetches k s = .ok () s₁ ∧ x.nextSet s₁ = .ok false s'
  | p :: ps, s => ∀ k, ∃ s₁ s', x.fetches k s = .ok () s₁ ∧ x.nextSet s₁ = .ok true s' ∧ x.Shows p s' ∧
    Visits ps s'

-- Executing shows the first result, and the others are visited.
def VisitsAll : List Part → σ → Prop
  | [],      _ => False
  | p :: ps, s => ∃ n s', x.execute s = .ok n s' ∧ x.Shows p s' ∧ x.Visits ps s'

variable {x}

theorem fetches_ok {I : σ → Prop} (h : ∀ s, I s → ∃ row s', x.fetchOne s = .ok row s' ∧ I s') (k : Nat) {s : σ}
    (hs : I s) : ∃ s', x.fetches k s = .ok () s' ∧ I s' := by
  induction k generalizing s
  case zero      => exact ⟨s, rfl, hs⟩
  case succ k ih =>
    have ⟨_, s₁, hf, h₁⟩ := h s hs
    have ⟨s₂, hk, h₂⟩ := ih h₁
    exact ⟨s₂, by simp only [fetches, Proc.bind_apply, hf, Outcome.bind_ok, hk], h₂⟩

theorem Visits.nextSet {s : σ} {ps : List Part} (h : x.Visits ps s) :
    ∃ s', x.nextSet s = .ok (!ps.isEmpty) s' := by
  cases ps <;> have h := h 0
  case nil =>
    obtain ⟨_, s', hf, hn⟩ := h
    cases hf
    exact ⟨s', hn⟩
  case cons =>
    obtain ⟨_, s', hf, hn, _⟩ := h
    cases hf
    exact ⟨s', hn⟩

end Walk

variable [Libraries]

-- The cursor has been moved to this result.
def Cursor.Shows (p : Part) (c : Cursor) : Prop :=
  c.result = some (p.result c.connection.inner false) ∧ c.rows = (p.result c.connection.inner false).rows ∧
    c.rowNumber = 0

def UnbufferedCursor.Shows (p : Part) (c : UnbufferedCursor) : Prop :=
  c.connection.result = some (p.result c.connection.inner true) ∧ c.rowNumber = 0

def Cursor.walk (query : Text) (args : Option (List Value)) : Walk Cursor where
  execute  := execute query args
  fetchOne := fetchOne
  nextSet  := nextSet
  Shows    := Shows

def UnbufferedCursor.walk (query : Text) (args : Option (List Value)) : Walk UnbufferedCursor where
  execute  := execute query args
  fetchOne := fetchOne
  nextSet  := nextSet
  Shows    := Shows

-- The results of a response: row sets, and possibly an OK packet at the end.
def resultsOf (sets : List ResultSet) (final : Option Ok) : List Part :=
  sets.map .set ++ (final.map .ok).toList

namespace Cursor

variable {c : Cursor} {p : Part} {ps : List Part} {query sql : Text} {args : Option (List Value)}

-- A cursor that has shown a result and has these results before it.
structure Before (ps : List Part) (c : Cursor) : Prop where
  owes     : ∃ a, c.connection.Owes ⟨none, ps, none⟩ a
  hasNext  : c.hasNext = !ps.isEmpty
  executed : c.executed.isSome

omit [Libraries] in
theorem Before.setRowNumber (h : Before ps c) (k : Nat) : Before ps { c with rowNumber := k } :=
  ⟨h.owes, h.hasNext, h.executed⟩

omit [Libraries] in
theorem Before.fetchOne (h : Before ps c) : ∃ row c', fetchOne c = .ok row c' ∧ Before ps c' := by
  have hx : checkExecuted c = .ok () c := by
    have := h.executed
    simp only [checkExecuted, Proc.bind_apply, Proc.get_apply, Outcome.bind_ok]
    rw [if_neg (by simpa [Option.isSome_iff_ne_none] using this)]
    rfl
  simp only [Cursor.fetchOne, Proc.bind_apply, hx, Proc.get_apply, Outcome.bind_ok]
  cases c.rows.bind (·[c.rowNumber]?)
  case none   => exact ⟨none, c, rfl, h⟩
  case some _ => exact ⟨_, _, rfl, h.setRowNumber _⟩

-- What a result that has just been read makes of a cursor.
theorem refreshResult_shows {i : MySQL.Connection} {connection : Connection} {a : Arrivals} (hx : c.executed.isSome)
    (hr : connection.inner.result = some (p.result i false)) (hi : Alike connection.inner i)
    (ho : connection.Owes ⟨none, ps, none⟩ a) :
    Shows p (c.setConnection connection).refreshResult ∧
      Before ps (c.setConnection connection).refreshResult := by
  have hc : (c.setConnection connection).connection.result = some (p.result connection.inner false) :=
    hr.trans (congrArg some (hi.result false p).symm)
  have hn : ((p.result connection.inner false).hasNext) = !ps.isEmpty := by
    have := ho.recorded.right
    rw [hr, ← hi.result] at this
    simpa [Owed.follows] using this
  simp only [refreshResult, hc]
  exact ⟨⟨rfl, rfl, rfl⟩, ⟨a, ho⟩, hn, hx⟩

omit [Libraries] in
theorem body_buffered (p : Part) : p.body false = none := by
  cases p <;> simp [Part.body, Part.rest]

-- The next result is shown. Whether there was one is then not known any more.
theorem Before.nextSet (h : Before (p :: ps) c) :
    ∃ c', nextSet c = .ok (!ps.isEmpty) c' ∧ Shows p c' ∧ Before ps c' := by
  obtain ⟨a, ho⟩ := h.owes
  obtain ⟨n, connection, hq, hres, _, howes, hk⟩ := ho.toReads.readNext (u := false) rfl rfl rfl
  have ho := howes.mpr (by simp)
  rw [body_buffered] at ho
  have hn : onConnection (Connection.nextResult false) c = .ok n (c.setConnection connection) := by
    refine Proc.zoom_eq_ok.mpr ⟨connection, ?_, rfl⟩
    rw [Connection.nextResult, Proc.bind_apply, finishUnbufferedQuery_of_inactive (h.owes.choose_spec.inactive rfl),
      Outcome.bind_ok, hq]
  obtain ⟨hs, hb⟩ := refreshResult_shows h.executed hres hk.alike ho
  exact ⟨_, by simp [Cursor.nextSet, h.hasNext, hn, hb.hasNext], hs, hb⟩

-- The answer for the last result is taken for the answer that nothing is left.
theorem Before.not_visits (h : Before ps c) (hp : ps ≠ []) : ¬(walk query args).Visits ps c := by
  induction ps generalizing c
  case nil => exact absurd rfl hp
  case cons p ps ih =>
    have ⟨c', hn, _, hb⟩ := h.nextSet
    intro hv
    obtain ⟨_, _, hf, hn', _, hv⟩ := hv 0
    cases hf
    obtain ⟨hps, rfl⟩ := Outcome.ok.inj (hn.symm.trans hn')
    exact ih hb (by simpa using hps) hv

theorem Before.visits_iff (h : Before ps c) : (walk query args).Visits ps c ↔ ps = [] := by
  refine ⟨fun hv => by_contra fun hp => h.not_visits hp hv, ?_⟩
  rintro rfl k
  have ⟨c₁, hf, h₁⟩ := Walk.fetches_ok (x := walk query args) (fun _ h => h.fetchOne) k h
  exact ⟨c₁, c₁, hf, by simp [walk, Cursor.nextSet, h₁.hasNext]⟩

theorem visitsAll_iff (hc : c.Usable) (hm : c.connection.mogrify query args = .ok sql)
    (h : c.connection.Expects sql (p :: ps)) : (walk query args).VisitsAll (p :: ps) c ↔ ps = [] := by
  have ⟨n, connection, a, hq, hres, _, howes, hi⟩ := h.query false
  have ho := howes.mpr (by simp)
  rw [body_buffered] at ho
  have ⟨hs, hb⟩ := refreshResult_shows (c := { c with executed := some sql }) rfl
    hres hi ho
  have hx : execute query args c = .ok n ({ c with executed := some sql }.setConnection connection).refreshResult := by
    rw [hc.execute_ok hm hq]
    simp [refreshResult, setConnection, Connection.result, hres]
  rw [← hb.visits_iff]
  constructor
  · rintro ⟨_, c', hx', _, hv⟩
    obtain ⟨_, rfl⟩ := Outcome.ok.inj (hx.symm.trans hx')
    exact hv
  · exact fun hv => ⟨n, _, hx, hs, hv⟩

end Cursor

namespace UnbufferedCursor

variable {c : UnbufferedCursor} {p : Part} {ps : List Part} {query sql : Text} {args : Option (List Value)}

-- A cursor that has shown a row set and has these results before it.
structure Before (ps : List Part) (c : UnbufferedCursor) : Prop where
  owes     : ∃ w a, c.connection.Owes w a ∧ w.parts = ps ∧ w.error = none
  open_    : c.closed = false
  executed : c.executed = true

-- A cursor that waits for rows behind the last result.
structure Stalled (c : UnbufferedCursor) : Prop where
  reads  : ∃ a, c.connection.Reads ⟨none, [], none⟩ a
  active : c.connection.unbufferedActive = true
  open_  : c.closed = false

theorem Before.fetchOne (h : Before ps c) : ∃ row c', fetchOne c = .ok row c' ∧ Before ps c' := by
  have ⟨w, a, ho, hp, he⟩ := h.owes
  have ⟨connection, hx, _, ho', _⟩ := ho.takeRow he
  have hn : onConnection Connection.nextUnbufferedRow c = .ok _ (c.setConnection connection) :=
    Proc.zoom_eq_ok.mpr ⟨connection, hx, rfl⟩
  have hb : Before ps (c.setConnection connection) := by
    refine ⟨⟨_, _, ho', ?_, Call.after_error .nextRow a he⟩, h.open_, h.executed⟩
    rw [← hp, Call.after]
    split <;> rfl
  generalize w.body.bind _ = row at hn
  cases row
  case none   => exact ⟨none, _, by simp [UnbufferedCursor.fetchOne, checkClosed, checkExecuted, h.open_, h.executed, hn], hb⟩
  case some r =>
    exact ⟨some r, { c.setConnection connection with rowNumber := c.rowNumber + 1 },
      by simp [UnbufferedCursor.fetchOne, checkClosed, checkExecuted, h.open_, h.executed, hn]; rfl, hb.owes,
      hb.open_, hb.executed⟩

-- What a result that has just been read makes of a cursor: behind an OK packet, it waits for rows.
theorem before_of_reads {i : MySQL.Connection} {a : Arrivals} (hc : c.closed = false) (hx : c.executed = true)
    (hr : c.connection.inner.result = some (p.result i true)) (hrd : c.connection.Reads ⟨p.body true, ps, none⟩ a)
    (ho : c.connection.Owes ⟨p.body true, ps, none⟩ a ↔ ¬(true = true ∧ ∃ d, p = .ok d)) :
    (∀ r, p = .set r → Before ps c) ∧ (∀ d, p = .ok d → ps = [] → Stalled c) := by
  refine ⟨fun r hp => ⟨⟨_, a, ho.mpr ?_, rfl, rfl⟩, hc, hx⟩, ?_⟩
  · rintro ⟨_, d, hd⟩
    exact nomatch hp.symm.trans hd
  · rintro d rfl rfl
    refine ⟨⟨a, hrd⟩, ?_, hc⟩
    simp [Connection.unbufferedActive, hr, Part.result, Ok.result]

-- The rest of the current result is skipped.
theorem Before.skip (h : Before ps c) :
    ∃ connection a, onConnection Connection.finishUnbufferedQuery c = .ok () (c.setConnection connection) ∧
      connection.Owes ⟨none, ps, none⟩ a ∧ (connection.result.map (·.hasNext)).getD false = !ps.isEmpty := by
  have ⟨w, a, ho, hp, he⟩ := h.owes
  have ⟨connection, a', hf, ho', _⟩ := ho.skip he
  have hn := ho'.recorded.right
  rw [hp, he] at ho'
  exact ⟨connection, a', Proc.zoom_eq_ok.mpr ⟨connection, hf, rfl⟩, ho',
    by simpa [Connection.result, Owed.follows, hp, he] using hn⟩

-- The next result is shown.
theorem Before.nextSet_cons (h : Before (p :: ps) c) :
    ∃ c', nextSet c = .ok true c' ∧ Shows p c' ∧
      (∀ r, p = .set r → Before ps c') ∧ (∀ d, p = .ok d → ps = [] → Stalled c') := by
  have ⟨c₁, a, hf, ho, hn⟩ := h.skip
  have ⟨n, c₂, hq, hres, hrd, howes, hk⟩ := ho.toReads.readNext (u := true) rfl rfl rfl
  have hread : onConnection (Connection.nextResult true) (c.setConnection c₁) = .ok n (c.setConnection c₂) := by
    refine Proc.zoom_eq_ok.mpr ⟨c₂, ?_, rfl⟩
    rw [Connection.nextResult, Proc.bind_apply]
    change (Connection.finishUnbufferedQuery c₁).bind _ = _
    rw [finishUnbufferedQuery_of_inactive (ho.inactive rfl), Outcome.bind_ok, hq]
  have hx : UnbufferedCursor.nextSet c = .ok true { c.setConnection c₂ with rowNumber := 0 }.refreshDescription := by
    have hn : ((c.setConnection c₁).connection.result.map (·.hasNext)).getD false = true := hn
    simp [UnbufferedCursor.nextSet, checkClosed, h.open_, hf, hn, hread]
  refine ⟨_, hx, ⟨?_, rfl⟩, before_of_reads h.open_ h.executed hres hrd howes⟩
  exact hres.trans (congrArg some (hk.alike.result true p).symm)

theorem Before.nextSet_nil (h : Before [] c) : ∃ c', nextSet c = .ok false c' := by
  have ⟨c₁, a, hf, _, hn⟩ := h.skip
  have hn : ((c.setConnection c₁).connection.result.map (·.hasNext)).getD false = false := hn
  exact ⟨c.setConnection c₁, by simp [UnbufferedCursor.nextSet, checkClosed, h.open_, hf, hn]⟩

theorem Stalled.nextSet (h : Stalled c) : ∃ c', nextSet c = .pending c' := by
  have ⟨a, hrd⟩ := h.reads
  have ⟨a', hn⟩ := Arrivals.next_pending hrd.all
  have hf : Arrivals.source.feed (fun p _ => finishStep (.new p))
      (c.connection.outline.inner.result.getD {}, a) = .pending (_, a') := Arrivals.source.feed_next_pending hn
  have ⟨c', hf, _⟩ := hrd.awaiting.onResult_pending hf
  refine ⟨c.setConnection c', ?_⟩
  simp [UnbufferedCursor.nextSet, checkClosed, h.open_, onConnection, finishUnbufferedQuery_of_active h.active, hf]

-- The results are visited unless the last one is an OK packet.
theorem Before.visits_iff {sets : List ResultSet} {final : Option Ok} (h : Before (resultsOf sets final) c) :
    (walk query args).Visits (resultsOf sets final) c ↔ final = none := by
  have fetches {ps : List Part} (k : Nat) {c : UnbufferedCursor} (h : Before ps c) :=
    Walk.fetches_ok (x := walk query args) (fun _ h => h.fetchOne) k h
  induction sets generalizing c
  case nil =>
    cases final
    case none =>
      refine iff_of_true (fun k => ?_) rfl
      have ⟨c₁, hf, h₁⟩ := fetches k h
      have ⟨c₂, hn⟩ := h₁.nextSet_nil
      exact ⟨c₁, c₂, hf, hn⟩
    case some d =>
      refine iff_of_false (fun hv => ?_) nofun
      have ⟨c', hn, _, _, hst⟩ := h.nextSet_cons
      obtain ⟨_, _, hf, hn', _, hv⟩ := hv 0
      cases hf
      obtain ⟨_, rfl⟩ := Outcome.ok.inj (hn.symm.trans hn')
      have ⟨_, hp⟩ := (hst d rfl rfl).nextSet
      have ⟨_, hn⟩ := hv.nextSet
      exact nomatch hp.symm.trans hn
  case cons r sets ih =>
    constructor
    case mp =>
      intro hv
      have ⟨c', hn, _, hset, _⟩ := h.nextSet_cons
      obtain ⟨_, _, hf, hn', _, hv⟩ := hv 0
      cases hf
      obtain ⟨_, rfl⟩ := Outcome.ok.inj (hn.symm.trans hn')
      exact (ih (hset r rfl)).mp hv
    case mpr =>
      intro hfin k
      have ⟨c₁, hf, h₁⟩ := fetches k h
      have ⟨c₂, hn, hs, hset, _⟩ := h₁.nextSet_cons
      exact ⟨c₁, c₂, hf, hn, hs, (ih (hset r rfl)).mpr hfin⟩

theorem visitsAll_iff {sets : List ResultSet} {final : Option Ok} (hc : c.closed = false)
    (hm : c.connection.mogrify query args = .ok sql) (hne : resultsOf sets final ≠ [])
    (h : c.connection.Expects sql (resultsOf sets final)) :
    (walk query args).VisitsAll (resultsOf sets final) c ↔ final = none := by
  have first {p : Part} {ps : List Part} (h : c.connection.Expects sql (p :: ps)) :
      ∃ n c', execute query args c = .ok n c' ∧ Shows p c' ∧
        (∀ r, p = .set r → Before ps c') ∧ (∀ d, p = .ok d → ps = [] → Stalled c') := by
    have ⟨n, connection, a, hq, hres, hrd, howes, hi⟩ := h.query true
    refine ⟨n, _, execute_ok hc hm hq, ⟨?_, rfl⟩, before_of_reads hc rfl hres hrd howes⟩
    exact hres.trans (congrArg some (hi.result true p).symm)
  cases sets
  case nil =>
    cases final
    case none   => exact absurd rfl hne
    case some d =>
      have ⟨n, c', hx, _, _, hst⟩ := first h
      refine iff_of_false ?_ nofun
      rintro ⟨_, _, hx', _, hv⟩
      obtain ⟨_, rfl⟩ := Outcome.ok.inj (hx.symm.trans hx')
      have ⟨_, hp⟩ := (hst d rfl rfl).nextSet
      have ⟨_, hn⟩ := hv.nextSet
      exact nomatch hp.symm.trans hn
  case cons r sets =>
    have ⟨n, c', hx, hs, hset, _⟩ := first h
    have hb : Before (resultsOf sets final) c' := hset r rfl
    rw [← hb.visits_iff]
    constructor
    · rintro ⟨_, _, hx', _, hv⟩
      obtain ⟨_, rfl⟩ := Outcome.ok.inj (hx.symm.trans hx')
      exact hv
    · exact fun hv => ⟨n, c', hx, hs, hv⟩

end UnbufferedCursor

-- On a response with results that are not cut short, `nextSet` visits every result exactly if there is one
-- result, for a buffered cursor, and if the last result is a row set, for an unbuffered one.
theorem nextSet_visitsAll_iff {b : Cursor} {u : UnbufferedCursor} {query sql : Text} {args : Option (List Value)}
    {sets : List ResultSet} {final : Option Ok} (hb : b.Usable) (hu : u.closed = false)
    (hbm : b.connection.mogrify query args = .ok sql) (hum : u.connection.mogrify query args = .ok sql)
    (hne : resultsOf sets final ≠ []) (hbx : b.connection.Expects sql (resultsOf sets final))
    (hux : u.connection.Expects sql (resultsOf sets final)) :
    ((Cursor.walk query args).VisitsAll (resultsOf sets final) b ↔ (resultsOf sets final).length = 1) ∧
      ((UnbufferedCursor.walk query args).VisitsAll (resultsOf sets final) u ↔ final = none) := by
  refine ⟨?_, UnbufferedCursor.visitsAll_iff hu hum hne hux⟩
  have ⟨p, ps, hp⟩ := List.exists_cons_of_ne_nil hne
  rw [hp] at hbx ⊢
  simpa using Cursor.visitsAll_iff hb hbm hbx

section Examples

open Libraries

-- A row set behind which another result is announced.
def oneRowMore : ResultSet :=
  { oneRow with rowsEof := ⟨0, 10⟩ }

-- A connection on which these results arrive in one read.
def answering (parts : List Part) : Connection :=
  established [[.ok (framed (answerSeq COM_QUERY select.asBytes) (Call.partsPayloads parts))]]

omit [Libraries] in
theorem answering_expects {parts : List Part} (hn : Call.partsPayloads parts ≠ []) (hc : Owed.Chained none parts)
    (hs : ∀ p ∈ Call.partsPayloads parts, p.length < 100) : (answering parts).Expects select parts where
  ready   := established_ready _
  chained := hc
  answer  := by
    have ha := Call.ofParts_allowed (u := false) (w := ⟨none, [], none⟩) hn hc hs
    exact ⟨_, rfl, ha.right.right⟩

omit [Libraries] in
theorem oneSet_visited :
    let := utf8Only
    (Cursor.walk select none).VisitsAll [.set oneRow] (.new (answering [.set oneRow])) ∧
      (UnbufferedCursor.walk select none).VisitsAll [.set oneRow] (.new (answering [.set oneRow])) := by
  let := utf8Only
  have h : (answering [.set oneRow]).Expects select [.set oneRow] :=
    answering_expects (by decide) ⟨rfl, nofun, trivial⟩ (by decide)
  have ⟨hb, hu⟩ := @nextSet_visitsAll_iff _ (.new (answering [.set oneRow])) (.new (answering [.set oneRow]))
    select select none [oneRow] none ⟨rfl, rfl⟩ rfl rfl rfl (by decide) h h
  exact ⟨hb.mpr rfl, hu.mpr rfl⟩

-- What a procedure with two queries answers: two row sets and an OK packet.
def procedure : List Part :=
  resultsOf [oneRowMore, oneRowMore] (some done)

omit [Libraries] in
theorem procedure_not_visited :
    let := utf8Only
    (answering procedure).Expects select procedure ∧
      ¬(Cursor.walk select none).VisitsAll procedure (.new (answering procedure)) ∧
      ¬(UnbufferedCursor.walk select none).VisitsAll procedure (.new (answering procedure)) := by
  let := utf8Only
  have h : (answering procedure).Expects select procedure :=
    answering_expects (by decide) ⟨rfl, nofun, rfl, nofun, rfl, nofun, trivial⟩ (by decide)
  refine ⟨h, fun hv => ?_, fun hv => ?_⟩
  · exact nomatch (Cursor.visitsAll_iff ⟨rfl, rfl⟩ rfl h).mp hv
  · exact nomatch (UnbufferedCursor.visitsAll_iff rfl rfl (by decide) h).mp hv

end Examples
end MySQL.Tokio
