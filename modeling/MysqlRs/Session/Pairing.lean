import MysqlRs.Session.Exchange

namespace MySQL.Tokio

open Command Server PacketStream

-- A query, its response and the reads in which that arrives.
structure Exchange where
  sql      : Text
  response : Response
  pieces   : List Bytes

-- If the last packet is an error packet, some read ends between it and the packet before it.
def ErrorAlone (ps pieces : List Bytes) : Prop :=
  ∀ qs e, ps = qs ++ [e] → IsError e →
    ∃ k, arrived ps (pieces.take k).flatten.length = qs.length

theorem errorAlone_iff {qs pieces before : List Bytes} {e : Bytes} {bs₁ bs₂ : List (List Bytes)}
    (he : IsError e) (h : batches (qs ++ [e]) 0 pieces = bs₁ ++ (before ++ [e]) :: bs₂)
    (hq : bs₁.flatten ++ before = qs) : ErrorAlone (qs ++ [e]) pieces ↔ before = [] := by
  have hb (k : Nat) := congrArg List.length (batches_take (arrived_zero (qs ++ [e])) pieces k)
  have hle (k : Nat) := arrived_le (qs ++ [e]) (pieces.take k).flatten.length
  have hlen := congrArg List.length hq
  simp only [h, Nat.zero_add, List.length_take, List.length_append, List.length_singleton] at hb hle hlen
  constructor
  case mp =>
    intro ha
    have ⟨k, hk⟩ := ha qs e rfl he
    have hbk := hb k
    rw [hk] at hbk
    refine List.length_eq_zero_iff.mp ?_
    rcases Nat.lt_or_ge bs₁.length k with hlt | hge
    case inl =>
      obtain ⟨m, rfl⟩ := Nat.exists_eq_add_of_lt hlt
      rw [Nat.add_assoc, List.take_length_add_append, List.take_succ_cons, List.flatten_append,
        List.flatten_cons] at hbk
      simp only [List.length_append, List.length_singleton] at hbk
      omega
    case inr =>
      have hs := congrArg List.length (congrArg List.flatten (List.take_append_drop k bs₁))
      rw [List.take_append_of_le_length hge] at hbk
      rw [List.flatten_append, List.length_append] at hs
      omega
  case mpr =>
    rintro rfl qs' e' heq _
    obtain ⟨rfl, _⟩ := List.append_inj' heq rfl
    refine ⟨bs₁.length, ?_⟩
    have hbk := hb bs₁.length
    have := hle bs₁.length
    rw [List.take_left] at hbk
    rw [List.length_nil] at hlen
    omega

theorem errorAlone_of_none {ps pieces : List Bytes} (h : ∀ p ∈ ps, ¬IsError p) : ErrorAlone ps pieces := by
  rintro qs e rfl he
  exact absurd he (h e (List.mem_append_right qs (List.mem_singleton_self e)))

structure Exchange.Orderly (x : Exchange) (max : UInt64) : Prop where
  single : x.response.Single
  cut    : Cut max (answerSeq COM_QUERY x.sql.asBytes) x.response.payloads x.pieces

variable [Libraries]

-- Queries one after another, each on the connection as the one before it has left it.
def queryAll : List Text → Connection → List (Outcome Error Connection Int64)
  | [],          _ => []
  | sql :: sqls, c =>
    let outcome := Connection.query sql false c
    outcome :: queryAll sqls outcome.state

-- A query has given what the response says.
def Received (conn : MySQL.Connection) (r : Response) (outcome : Outcome Error Connection Int64) : Prop :=
  match r.content conn with
  | .ok result => ∃ c, outcome = .ok result.affectedRows c ∧ c.inner.result = some result
  | .error e   => ∃ c, outcome = .error e c

-- A query has given what the response says, and nothing of the response is left.
def Answered (conn : MySQL.Connection) (r : Response) (outcome : Outcome Error Connection Int64) : Prop :=
  outcome.state.Clear ∧ Received conn r outcome

theorem Alike.content {i j : MySQL.Connection} (h : Alike i j) :
    Response.content i = Response.content j := by
  funext r
  cases r <;>
    simp [Response.content, ResultSet.result, ResultSet.opened, h.decode, ResultSet.converters,
      ResultSet.fields, MySQLResult.buildConverter, h.encoding, h.useUnicode, h.converters]

theorem Alike.received {i j : MySQL.Connection} (h : Alike i j) : Received i = Received j := by
  funext r outcome
  rw [Received, Received, h.content]

theorem Alike.answered {i j : MySQL.Connection} (h : Alike i j) : Answered i = Answered j := by
  funext r outcome
  rw [Answered, Answered, h.received]

namespace Connection

variable {c : Connection} {x : Exchange} {rest : List (List ReadEvent)}

-- A response that ends with an error packet gives that error. What comes before it in the same read
-- is left.
theorem query_fails (h : c.Ready) {sql : Text} (qs : List Bytes) {pieces : List Bytes} {e : Bytes}
    {u : Bool} {t : MySQLResult} (ha : c.answers.head? = some (pieces.map .ok))
    (hp : Cut c.inner.packetStream.maxAllowedPacket (answerSeq COM_QUERY sql.asBytes) (qs ++ [e]) pieces)
    (he : IsError e) (hl : ∀ p ∈ (qs ++ [e]).head?, (MysqlPacket.new p).isLoadLocalPacket = false)
    (hf : Source.feedList (step (c.afterCommand COM_QUERY sql.asBytes).outline.inner) qs
      { unbufferedActive := u } = .ok none t) :
    ∃ c' a, query sql u c = .error (Error.raiseMysqlException e) c' ∧
      Awaiting (c.afterCommand COM_QUERY sql.asBytes).outline c' a ∧
      (a.all = [] ↔ ErrorAlone (qs ++ [e]) pieces) := by
  have hw := h.awaiting ha hp
  have hb := hp.batches_flatten
  have ⟨bs₁, before, bs₂, h₁, h₂, h₃⟩ := Arrivals.exists_last hb
  have hne : ∀ p ∈ qs, ¬IsError p := hp.errors.of_append_ne_nil (List.cons_ne_nil e [])
  rw [← h₂] at hne hf
  have hr := Arrivals.feedLocal_error bs₂ hne he hf
  rw [← h₁] at hr
  have ⟨c', hq, hc'⟩ := hw.readQueryResult_error (by simpa [Arrivals.all, hb] using hl) hr
  refine ⟨c', _, (h.query sql u).trans hq, hc', ?_⟩
  rw [Arrivals.all, h₃, List.append_nil, errorAlone_iff he h₁ h₂]

-- A response without an error packet is read to its end.
theorem query_succeeds (h : c.Ready) {sql : Text} {ps pieces : List Bytes} {u : Bool} {n : Int64} {r : MySQLResult}
    (ha : c.answers.head? = some (pieces.map .ok))
    (hp : Cut c.inner.packetStream.maxAllowedPacket (answerSeq COM_QUERY sql.asBytes) ps pieces)
    (he : ∀ p ∈ ps, ¬IsError p)
    (hl : ∀ p ∈ ps.head?, (MysqlPacket.new p).isLoadLocalPacket = false)
    (hf : Source.feedList (step (c.afterCommand COM_QUERY sql.asBytes).outline.inner) ps
      { unbufferedActive := u } = .ok (some (n, [])) r) :
    let o := (c.afterCommand COM_QUERY sql.asBytes).outline
    ∃ c' a, query sql u c = .ok n c' ∧
      Awaiting (o.setInner (o.inner.setResult r)) c' a ∧ a.all = [] := by
  have hw := h.awaiting ha hp
  have hb := hp.batches_flatten
  have ⟨a, hall, hr⟩ := Arrivals.feedLocal_ok (hb.symm ▸ he) (hb.symm ▸ hf)
  have ⟨c', hq, hc'⟩ := hw.readQueryResult_ok (by simpa [Arrivals.all, hb] using hl) hr
  exact ⟨c', a, (h.query sql u).trans hq, hc', hall⟩

-- What a query leaves for the next one.
structure Follows (c c' : Connection) : Prop where
  ready   : c'.Ready
  alike   : Alike c'.inner c.inner
  answers : c'.answers = c.answers.tail

omit [Libraries] in
theorem Follows.of_awaiting {c c' : Connection} {a : Arrivals} {command : UInt8} {sql : Bytes}
    (h : c.Ready) (hw : Awaiting (c.afterCommand command sql).outline c' a) (ha : a.all = []) :
    Follows c c' where
  ready   := .of_awaiting (h.afterCommand_live command sql) (fun _ hr => nomatch hr) hw ha
  alike   := by
    have ⟨hc, _⟩ := hw
    exact ⟨congrArg (·.inner.encoding) hc, congrArg (·.inner.useUnicode) hc,
      congrArg (·.inner.fieldConverters) hc, congrArg (·.inner.packetStream.maxAllowedPacket) hc⟩
  answers := answers_of_outline hw.left

omit [Libraries] in
theorem Follows.of_result {c c' : Connection} {a : Arrivals} {command : UInt8} {sql : Bytes}
    {r : MySQLResult} (h : c.Ready) (hr : r.Finished)
    (hw : Awaiting ((c.afterCommand command sql).outline.setInner
      ((c.afterCommand command sql).outline.inner.setResult r)) c' a)
    (ha : a.all = []) : Follows c c' where
  ready   := by
    have ⟨h₁, h₂, h₃⟩ := h.afterCommand_live command sql
    have hl : ((c.afterCommand command sql).outline.setInner
      ((c.afterCommand command sql).outline.inner.setResult r)).Live := ⟨h₁, h₂, h₃⟩
    refine .of_awaiting hl (fun _ he => ?_) hw ha
    cases he
    exact hr
  alike   := by
    have ⟨hc, _⟩ := hw
    exact ⟨congrArg (·.inner.encoding) hc, congrArg (·.inner.useUnicode) hc,
      congrArg (·.inner.fieldConverters) hc, congrArg (·.inner.packetStream.maxAllowedPacket) hc⟩
  answers := answers_of_outline hw.left

-- A query gives its own response. In the end nothing is left of it if and only if an error comes alone.
theorem query_received (h : c.Ready) (hx : x.Orderly c.inner.packetStream.maxAllowedPacket)
    (ha : c.answers.head? = some (x.pieces.map .ok)) :
    let outcome := query x.sql false c
    Received c.inner x.response outcome ∧ (outcome.state.Clear ↔ ErrorAlone x.response.payloads x.pieces) ∧
      (ErrorAlone x.response.payloads x.pieces → Follows c outcome.state) := by
  obtain ⟨sql, r, pieces⟩ := x
  obtain ⟨hs, hp⟩ := hx
  have hl (p : Bytes) (hp : p ∈ r.payloads.head?) := r.not_loadLocal hp
  have hsm := hp.small
  cases r
  case ok d =>
    have hf := feed_ok (c.afterCommand COM_QUERY sql.asBytes).outline.inner d false []
      (hsm _ List.mem_cons_self)
    have hne : ∀ p ∈ (Response.ok d).payloads, ¬IsError p :=
      List.forall_mem_singleton.mpr d.not_error
    have ⟨c', a, hq, hw, hall⟩ := query_succeeds h ha hp hne hl hf
    have hn := Follows.of_result (r := d.result false) h ⟨rfl, hs⟩ hw hall
    simp only [hq]
    refine ⟨⟨c', rfl, ?_⟩, iff_of_true hn.ready.toClear (errorAlone_of_none hne), fun _ => hn⟩
    exact congrArg (·.inner.result) hw.left
  case set s =>
    have hf := Response.feed_set (c.afterCommand COM_QUERY sql.asBytes).outline.inner s hsm
    have ⟨c', a, hq, hw, hall⟩ := query_succeeds h ha hp s.not_error hl hf
    have hn := Follows.of_result (r := s.result _) h ⟨rfl, hs⟩ hw hall
    simp only [hq]
    refine ⟨⟨c', rfl, ?_⟩, iff_of_true hn.ready.toClear (errorAlone_of_none s.not_error), fun _ => hn⟩
    exact congrArg (·.inner.result) hw.left
  case err body =>
    have ⟨c', a, hq, hw, hall⟩ := query_fails (u := false) h [] ha hp (isError_errPayload body) hl rfl
    simp only [hq]
    exact ⟨⟨c', rfl⟩, ⟨fun hc => hall.mp (hw.all_of_clear hc), fun hk => hw.clear (hall.mpr hk)⟩,
      fun hk => .of_awaiting h hw (hall.mpr hk)⟩
  case aborted s n body =>
    have ⟨t, hf⟩ := Response.feed_aborted (c.afterCommand COM_QUERY sql.asBytes).outline.inner s hs
      fun p hm => hsm p (List.mem_append_left _ hm)
    have ⟨c', a, hq, hw, hall⟩ := query_fails h _ ha hp (isError_errPayload body) hl hf
    simp only [hq]
    exact ⟨⟨c', rfl⟩, ⟨fun hc => hall.mp (hw.all_of_clear hc), fun hk => hw.clear (hall.mpr hk)⟩,
      fun hk => .of_awaiting h hw (hall.mpr hk)⟩

theorem query_answered (h : c.Ready) (hx : x.Orderly c.inner.packetStream.maxAllowedPacket)
    (ha : c.answers.head? = some (x.pieces.map .ok)) :
    let outcome := query x.sql false c
    (ErrorAlone x.response.payloads x.pieces →
      Answered c.inner x.response outcome ∧ Follows c outcome.state) ∧
    (Answered c.inner x.response outcome → ErrorAlone x.response.payloads x.pieces) := by
  have ⟨hr, hc, hf⟩ := query_received h hx ha
  exact ⟨fun hk => ⟨⟨hc.mpr hk, hr⟩, hf hk⟩, fun hn => hc.mp hn.left⟩

end Connection

open Tokio.Connection

-- In a run of queries, every query gives its own response exactly if every error comes alone.
theorem queryAll_answered_iff {xs : List Exchange} {c : Connection} (h : c.Ready)
    (ha : c.answers = xs.map (·.pieces.map .ok))
    (hx : ∀ x ∈ xs, x.Orderly c.inner.packetStream.maxAllowedPacket) :
    List.Forall₂ (fun x => Answered c.inner x.response) xs (queryAll (xs.map (·.sql)) c) ↔
      ∀ x ∈ xs, ErrorAlone x.response.payloads x.pieces := by
  induction xs generalizing c
  case nil => simp [queryAll]
  case cons x xs ih =>
    have ⟨hx, hxs⟩ := List.forall_mem_cons.mp hx
    have ⟨hq, hq'⟩ := query_answered h hx (by rw [ha]; rfl)
    rw [List.map_cons, queryAll, List.forall₂_cons, List.forall_mem_cons]
    have follows (hk : ErrorAlone x.response.payloads x.pieces) := by
      have ⟨_, hn⟩ := hq hk
      have hr := ih hn.ready (by rw [hn.answers, ha]; rfl) (by rwa [hn.alike.max])
      rwa [hn.alike.answered] at hr
    constructor
    case mp  => exact fun ⟨h₁, h₂⟩ => ⟨hq' h₁, (follows (hq' h₁)).mp h₂⟩
    case mpr => exact fun ⟨h₁, h₂⟩ => ⟨(hq h₁).left, (follows h₁).mpr h₂⟩

section Examples

open Libraries

-- One read for the first `n` packets, and one for the others.
def Exchange.inTwo (sql : Text) (r : Response) (n : Nat) : Exchange :=
  let seq := answerSeq COM_QUERY sql.asBytes
  let first := framed seq (r.payloads.take n)
  let second := framed (seqAfter seq (r.payloads.take n)) (r.payloads.drop n)
  ⟨sql, r, [first, second].filter (· ≠ [])⟩

omit [Libraries] in
theorem Exchange.inTwo_orderly {sql : Text} {r : Response} {max : UInt64} (n : Nat) (hs : r.Single)
    (hl : ∀ p ∈ r.payloads, p.length < maxPacketLen) (hm : ∀ p ∈ r.payloads, p.length ≤ max.toNat)
    (he : ErrorLast r.payloads) : (Exchange.inTwo sql r n).Orderly max := by
  refine ⟨hs, .of_short (by simp [inTwo]) ?_ hl hm he⟩
  simp only [inTwo, List.flatten_filter_ne_nil, List.flatten_cons, List.flatten_nil, List.append_nil]
  rw [← framed_append, List.take_append_drop]

omit [Libraries] in
theorem Exchange.inTwo_errorAlone (sql : Text) {r : Response} (qs : List Bytes) {e : Bytes}
    (h : r.payloads = qs ++ [e]) :
    ErrorAlone r.payloads (Exchange.inTwo sql r qs.length).pieces := by
  rintro qs' e' he _
  obtain ⟨rfl, _⟩ := List.append_inj' (h.symm.trans he) rfl
  by_cases hq : qs = []
  case pos => exact ⟨0, by rw [hq]; exact arrived_zero _⟩
  case neg =>
    refine ⟨1, ?_⟩
    have hf : framed (answerSeq COM_QUERY sql.asBytes) qs ≠ [] := fun hf => hq (framed_eq_nil hf)
    rw [inTwo, h, List.take_left, List.filter_cons_of_pos (by simpa using hf), List.take_succ_cons,
      List.take_zero, List.flatten_singleton, framed_length]
    simpa [arrived_zero] using arrived_append qs [e] 0

-- A row and then an error in a read of its own, a complete result set, and an OK packet.
def threeQueries : List Exchange :=
  [.inTwo select (.aborted oneRow 4 [1, 2]) 4, .inTwo select (.set oneRow) 3,
    .inTwo select (.ok done) 1]

omit [Libraries] in
theorem threeQueries_orderly : ∀ x ∈ threeQueries, x.Orderly (16 * 1024 * 1024) := by
  simp only [threeQueries, List.forall_mem_cons]
  refine ⟨?_, ?_, ?_, List.forall_mem_nil _⟩ <;>
    exact Exchange.inTwo_orderly _ (by decide) (by decide) (by decide) (by decide)

omit [Libraries] in
theorem threeQueries_answered :
    List.Forall₂ (fun x => @Answered utf8Only (established []).inner x.response) threeQueries
      (@queryAll utf8Only (threeQueries.map (·.sql))
        (established (threeQueries.map (·.pieces.map .ok)))) := by
  let := utf8Only
  refine (queryAll_answered_iff (established_ready _) rfl threeQueries_orderly).mpr ?_
  simp only [threeQueries, List.forall_mem_cons]
  refine ⟨Exchange.inTwo_errorAlone select (oneRow.payloads.take 4) rfl, ?_, ?_,
    List.forall_mem_nil _⟩
  case refine_1 =>
    intro qs e h he
    have : e ∈ (Response.set oneRow).payloads := h ▸ by simp
    exact absurd he (oneRow.not_error e this)
  case refine_2 =>
    intro qs e h he
    have : e ∈ (Response.ok done).payloads := h ▸ by simp
    exact absurd he (List.mem_singleton.mp this ▸ done.not_error)

-- The first packet of a result set and the error that cuts it short, in one read.
def errorBehind : Exchange :=
  .inTwo select (.aborted oneRow 1 [1, 2]) 0

omit [Libraries] in
theorem errorBehind_not_answered :
    errorBehind.Orderly (16 * 1024 * 1024) ∧
      ¬List.Forall₂ (fun x => @Answered utf8Only (established []).inner x.response) [errorBehind]
        (@queryAll utf8Only [select] (established [errorBehind.pieces.map .ok])) := by
  let := utf8Only
  have ho : errorBehind.Orderly (16 * 1024 * 1024) :=
    Exchange.inTwo_orderly _ (by decide) (by decide) (by decide) (by decide)
  refine ⟨ho, fun h => ?_⟩
  have hq := (query_answered (established_ready _) ho rfl).right (List.forall₂_cons.mp h).left
  have ⟨k, hk⟩ := hq (oneRow.payloads.take 1) (errPayload [1, 2]) rfl (isError_errPayload _)
  have hp : errorBehind.pieces =
      [framed (answerSeq COM_QUERY select.asBytes) errorBehind.response.payloads] := by
    have hn : framed (answerSeq COM_QUERY select.asBytes) errorBehind.response.payloads ≠ [] :=
      fun h => absurd (framed_eq_nil h) (by decide)
    exact List.filter_cons_of_pos (p := (· ≠ [])) (l := []) (decide_eq_true hn)
  rw [hp] at hk
  cases k
  case zero => exact absurd ((arrived_zero _).symm.trans hk) (by decide)
  case succ =>
    rw [List.take_succ_cons, List.take_nil, List.flatten_singleton, framed_length,
      arrived_framedLen] at hk
    exact absurd hk (by decide)

end Examples

end MySQL.Tokio
