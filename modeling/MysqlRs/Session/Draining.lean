import MysqlRs.Session.Owed

namespace MySQL

open Server MysqlPacket MySQLResult

namespace Connection

def withQueue (c : Connection) (queue : List Bytes) : Connection :=
  c.setStream { c.packetStream with recvQueue := queue.map .new }

-- The packets that are there already are handed over like a list.
theorem withQueue_holds (c : Connection) : received.Holds c.withQueue new .needMoreData where
  next _ _ := rfl
  nil      := rfl

variable [Libraries] {c : Connection} {queue rest : List Bytes}

-- What draining changes, apart from the queue.
def settle (c : Connection) (n : Int64) (status : UInt16) : Connection :=
  { c with affectedRows := n, serverStatus := status, result := none }

theorem receivedResults_some {r : MySQLResult} {m n : Int64} {s : UInt16}
    (hf : Source.feedList (step c) queue {} = .ok (some (n, rest)) r) :
    receivedResults.next ((c.settle m s).withQueue queue) =
      .ok (some r) ((c.settle n (r.serverStatus.getD s)).withQueue rest) := by
  have hl := (withQueue_holds (c.settle m s)).feedLocal_some feedStep (fun _ _ => rfl) hf
  have hn : readQueryResult false ((c.settle m s).withQueue queue) = .ok n
      { (c.settle m (r.serverStatus.getD s)).withQueue rest with result := some r } :=
    Outcome.bind_eq_ok.mpr ⟨_, _, hl, rfl⟩
  exact Outcome.bind_eq_ok.mpr ⟨n, _, Outcome.bind_eq_ok.mpr ⟨n, _, hn, rfl⟩, rfl⟩

theorem receivedResults_none {t : MySQLResult} {m : Int64} {s : UInt16}
    (hf : Source.feedList (step c) queue {} = .ok none t) :
    receivedResults.next ((c.settle m s).withQueue queue) =
      .error .needMoreData ((c.settle m s).withQueue []) := by
  have hl := (withQueue_holds (c.settle m s)).feedLocal_none feedStep (fun _ _ => rfl) hf
  have hn : readQueryResult false ((c.settle m s).withQueue queue) =
      .error .needMoreData ((c.settle m s).withQueue []) :=
    Outcome.bind_eq_error.mpr (.inl hl)
  exact Outcome.bind_eq_error.mpr (.inl (Outcome.bind_eq_error.mpr (.inl hn)))

section Parts

variable {p : Part} {ps : List Part}

omit [Libraries] in
-- Nothing is left of a result that has been read at once.
theorem rest_false {b : Option Body} (hb : p.rest false = some b) : b = none := by
  cases p
  case cut => simp [Part.rest] at hb
  all_goals exact (Option.some.inj hb).symm

omit [Libraries] in
theorem head_of_rest {follows : Bool} {b : Option Body} (ha : p.Announces follows)
    (hb : p.rest false = some b) : p.head false = p.payloads := by
  rw [Part.payloads_split false ha, Part.body, hb, rest_false hb]
  exact (List.append_nil _).symm

theorem feed_part (conn : Connection) {follows : Bool} {b : Option Body} (ha : p.Announces follows)
    (hb : p.rest false = some b) (hs : ∀ q ∈ p.payloads, q.length ≤ usizeMax) (more : List Bytes) :
    Source.feedList (step conn) (p.payloads ++ more) {} =
      .ok (some ((p.result conn false).affectedRows, more)) (p.result conn false) := by
  rw [← head_of_rest ha hb] at hs ⊢
  have hf := Part.feed_head conn hb hs
  rw [Source.feedList_append]
  exact (congrArg (Outcome.bind · _) hf).trans rfl

theorem hasNext_of_chained (conn : Connection) {error : Option Bytes} {b : Option Body}
    (h : Owed.Chained error (p :: ps)) (hb : p.rest false = some b) :
    (p.result conn false).hasNext = (!ps.isEmpty || error.isSome) := by
  have hr := (Tokio.Connection.recorded_result conn hb h).mpr (by simp)
  rw [rest_false hb] at hr
  simpa [Owed.follows] using hr.right

theorem drain_parts (h : Owed.Chained none ps) (hn : ps ≠ [])
    (hs : ∀ q ∈ ps.flatMap (·.payloads), q.length ≤ usizeMax) (m : Int64) (s : UInt16) :
    ∃ m' s', receivedResults.feedLocal lastStep ()
        ((c.settle m s).withQueue (ps.flatMap (·.payloads))) =
      .ok ((), ()) ((c.settle m' s').withQueue []) := by
  induction ps generalizing m s
  case nil => exact absurd rfl hn
  case cons p ps ih =>
    rw [List.flatMap_cons, List.forall_mem_append] at hs
    rw [List.flatMap_cons, receivedResults.feedLocal_ok
      (receivedResults_some (feed_part c h.left h.rest hs.left (ps.flatMap (·.payloads))))]
    have hl := hasNext_of_chained c h h.rest
    cases ps
    case nil => exact ⟨_, _, by simp only [lastStep, Option.map_some, hl]; rfl⟩
    case cons p' ps =>
      obtain ⟨m', s', hd⟩ := ih h.right.right (List.cons_ne_nil p' ps) hs.right
        (p.result c false).affectedRows ((p.result c false).serverStatus.getD s)
      exact ⟨m', s', by simp only [lastStep, Option.map_some, hl]; exact hd⟩

theorem drain_next_short {queue : List Bytes} {t : MySQLResult} {m : Int64} {s : UInt16}
    (hf : Source.feedList (step c) queue {} = .ok none t) :
    ∃ c', receivedResults.feedLocal lastStep () ((c.settle m s).withQueue queue) = .error .needMoreData c' ∧
      c'.result = none :=
  ⟨_, by rw [Source.feedLocal, receivedResults.feed_next_error (receivedResults_none hf)], rfl⟩

-- What is there is not all, and an error is never there.
theorem drain_parts_short {error : Option Bytes} (h : Owed.Chained error ps) {j : Nat}
    (hj : j < (ps.flatMap (·.payloads)).length ∨ error.isSome)
    (hs : ∀ q ∈ ps.flatMap (·.payloads), q.length ≤ usizeMax) (m : Int64) (s : UInt16) :
    ∃ c', receivedResults.feedLocal lastStep ()
        ((c.settle m s).withQueue ((ps.flatMap (·.payloads)).take j)) = .error .needMoreData c' ∧
      c'.result = none := by
  induction ps generalizing m s j
  case nil =>
    rw [List.flatMap_nil, List.take_nil]
    exact drain_next_short rfl
  case cons p ps ih =>
    rw [List.flatMap_cons] at hj hs ⊢
    rw [List.forall_mem_append] at hs
    cases hb : p.rest false
    case none =>
      have hcut : ∃ r n, p = .cut r n := by
        cases p
        case cut r n => exact ⟨r, n, rfl⟩
        all_goals cases hb
      obtain ⟨r, n, rfl⟩ := hcut
      obtain rfl := h.right.left ⟨r, n, rfl⟩
      have hh : (Part.cut r n).head false = (Part.cut r n).payloads := by simp [Part.head, Part.payloads]
      obtain ⟨t, hf⟩ := Part.feed_head_cut c h.left hb (hh.symm ▸ hs.left)
      rw [hh, ← List.take_append_drop j (Part.payloads _)] at hf
      obtain ⟨t, hf⟩ := Source.feedList_none_left hf
      rw [List.flatMap_nil, List.append_nil]
      exact drain_next_short hf
    case some b =>
      by_cases hp : p.payloads.length ≤ j
      case pos =>
        obtain ⟨k, rfl⟩ := Nat.exists_eq_add_of_le hp
        rw [List.length_append, Nat.add_lt_add_iff_left] at hj
        rw [List.take_length_add_append, receivedResults.feedLocal_ok
          (receivedResults_some (feed_part c h.left hb hs.left ((ps.flatMap (·.payloads)).take k)))]
        have hl : (p.result c false).hasNext = true := by
          rw [hasNext_of_chained c h hb]
          obtain hj | hj := hj
          · have hne : ps ≠ [] := fun hn => by simp [hn] at hj
            simp [hne]
          · simp [hj]
        obtain ⟨c', hd, hr⟩ := ih h.right.right hj hs.right
          (p.result c false).affectedRows ((p.result c false).serverStatus.getD s)
        refine ⟨c', ?_, hr⟩
        simp only [lastStep, Option.map_some, hl]
        exact hd
      case neg =>
        have hlt := Nat.lt_of_not_le hp
        rw [List.take_append_of_le_length (Nat.le_of_lt hlt)]
        rw [← head_of_rest h.left hb] at hs hlt ⊢
        have hj : j < p.need false := by rwa [Part.need, hb]
        obtain ⟨t, hf⟩ := Part.feed_head_take c h.left hj hs.left
        exact drain_next_short hf

end Parts

section Pending

variable {w : Owed} {b : Body} {r : MySQLResult}

omit [Libraries] in
theorem skip_to_eof {rows : List (List (Option Bytes))} (hw : ∀ row ∈ rows, row ≠ []) :
    Source.feedList (fun p => eofStep (.new p) c) (rows.map rowPayload) r = .ok none r := by
  induction rows
  case nil => rfl
  case cons row rows ih =>
    have ⟨hn, hws⟩ := List.forall_mem_cons.mp hw
    refine (Source.feedList_none _ ?_).trans (ih hws)
    simp [eofStep, checkPacketIsEof, rowPayload_not_eof hn]

omit [Libraries] in
theorem eof_body {rows : List (List (Option Bytes))} {e : Eof} (hw : ∀ row ∈ rows, row ≠ [])
    (more : List Bytes) :
    ∃ r', Source.feedList (fun p => eofStep (.new p) c) (rows.map rowPayload ++ e.payload :: more) r =
        .ok (some ((), more)) r' ∧ r'.hasNext = hasMoreResults e.status := by
  have he : eofStep (.new e.payload) c r = .ok (some ()) {
      r with
      warningCount := e.warnings
      hasNext := hasMoreResults e.status
      serverStatus := some e.status
      unbufferedActive := false
      readState := .done
    } := by
    simp [eofStep, checkPacketIsEof, e.isEofPacket, e.run, Eof.wrapper]
  rw [Source.feedList_append, skip_to_eof hw]
  exact ⟨_, Source.feedList_some (fun p => eofStep (.new p) c) he, rfl⟩

theorem drainResults_parts {ps : List Part} (h : Owed.Chained none ps)
    (hs : ∀ q ∈ ps.flatMap (·.payloads), q.length ≤ usizeMax) (hr : r.hasNext = !ps.isEmpty)
    (m : Int64) (s : UInt16) :
    ∃ m' s', drainResults r ((c.settle m s).withQueue (ps.flatMap (·.payloads))) =
      .ok () ((c.settle m' s').withQueue []) := by
  cases ps
  case nil =>
    exact ⟨m, s, by simp only [drainResults, hr]; rfl⟩
  case cons p ps =>
    obtain ⟨m', s', hd⟩ := drain_parts (c := c) h (List.cons_ne_nil p ps) hs m s
    exact ⟨m', s', by simp only [drainResults, hr]; exact Outcome.bind_eq_ok.mpr ⟨_, _, hd, rfl⟩⟩

theorem drainResults_short {error : Option Bytes} {ps : List Part} (h : Owed.Chained error ps) {j : Nat}
    (hj : j < (ps.flatMap (·.payloads)).length ∨ error.isSome)
    (hs : ∀ q ∈ ps.flatMap (·.payloads), q.length ≤ usizeMax) (hr : r.hasNext = true) (m : Int64) (s : UInt16) :
    ∃ c', drainResults r ((c.settle m s).withQueue ((ps.flatMap (·.payloads)).take j)) =
      .error .needMoreData c' ∧ c'.result = none := by
  obtain ⟨c', hd, hc⟩ := drain_parts_short (c := c) h hj hs m s
  exact ⟨c', by simp only [drainResults, hr]; exact Outcome.bind_eq_error.mpr (.inl hd), hc⟩

theorem drainPending_some (hr : c.result = some r) (queue : List Bytes) :
    drainPending (c.withQueue queue) =
      (finishUnbufferedQuery r ((c.settle c.affectedRows c.serverStatus).withQueue queue)).bind
        drainResults := by
  have h : (c.withQueue queue).result = some r := hr
  simp only [drainPending, Proc.bind_apply, Proc.get_apply, Outcome.bind_ok, h]
  rfl

omit [Libraries] in
-- Rows that end with an error packet are not the last thing that is owed.
theorem eof_of_streaming (h : w.Streaming b r) (he : w.error = none) : ∃ e, b.eof = some e := by
  cases hb : b.eof
  case none   => simpa [he] using h.cut hb
  case some e => exact ⟨e, rfl⟩

-- What is there completely is taken, and the command can be sent.
theorem drainPending_all (hc : Owed.Chained none w.parts) (he : w.error = none)
    (hs : ∀ q ∈ w.payloads, q.length ≤ usizeMax) (hr : w.Recorded c.result) :
    ∃ m s, drainPending (c.withQueue w.payloads) = .ok () ((c.settle m s).withQueue []) := by
  rw [Owed.Recorded] at hr
  cases hb : w.body
  case none =>
    rw [hb] at hr
    have hw : w.payloads = w.parts.flatMap (·.payloads) := by
      simp [Owed.payloads, Owed.later, hb, he, Part.bodyPayloads]
    rw [hw] at hs ⊢
    cases hres : c.result
    case none =>
      have hf : w.parts = [] := by simpa [hres, Owed.follows, he] using hr.right
      have hc : c.settle c.affectedRows c.serverStatus = c := by rw [settle, ← hres]
      refine ⟨c.affectedRows, c.serverStatus, ?_⟩
      rw [hf, hc]
      simp [drainPending, withQueue, hres]
    case some r =>
      rw [hres] at hr
      have hn : r.hasNext = !w.parts.isEmpty := by simpa [Owed.follows, he] using hr.right
      rw [drainPending_some hres, finishUnbufferedQuery, hr.left r rfl]
      exact drainResults_parts hc hs hn _ _
  case some b =>
    rw [hb] at hr
    obtain ⟨r, hres, hr⟩ := hr
    obtain ⟨e, hb'⟩ := eof_of_streaming hr he
    have hw : w.payloads = b.rows.map rowPayload ++ e.payload :: w.parts.flatMap (·.payloads) := by
      simp [Owed.payloads, Owed.later, hb, he, Part.bodyPayloads, Body.payloads, hb']
    obtain ⟨r', hf, hn⟩ := eof_body (c := c) (r := r) (e := e) (fun row h => (hr.widths row h).left)
      (w.parts.flatMap (·.payloads))
    have hl := (withQueue_holds (c.settle c.affectedRows c.serverStatus)).feedLocal_some eofStep (fun _ _ => rfl) hf
    rw [hw, List.forall_mem_append, List.forall_mem_cons] at hs
    rw [hr.eof e hb'] at hn
    obtain ⟨m, s, hd⟩ := drainResults_parts (c := c) hc hs.right.right
      (hn.trans (by simp [Owed.follows, he])) c.affectedRows c.serverStatus
    refine ⟨m, s, ?_⟩
    rw [drainPending_some hres, finishUnbufferedQuery, hr.active, hw]
    exact Outcome.bind_eq_ok.mpr ⟨r', _, Outcome.bind_eq_ok.mpr ⟨_, _, hl, rfl⟩, hd⟩

omit [Libraries] in
-- What is there is never all of it where an error is owed.
theorem take_later {j : Nat} (hj : j < w.later.length) :
    w.later.take j = (w.parts.flatMap (·.payloads)).take j ∧
      (j < (w.parts.flatMap (·.payloads)).length ∨ w.error.isSome) ∧ w.follows = true := by
  rw [Owed.later] at hj ⊢
  cases he : w.error
  case none =>
    simp only [he, Option.map_none, Option.toList_none, List.append_nil] at hj ⊢
    refine ⟨trivial, .inl hj, ?_⟩
    have hp : w.parts ≠ [] := fun hp => by simp [hp] at hj
    simp [Owed.follows, hp]
  case some e =>
    simp only [he, Option.map_some, Option.toList_some, List.length_append, List.length_singleton] at hj ⊢
    exact ⟨List.take_append_of_le_length (Nat.le_of_lt_succ hj), .inr rfl, by simp [Owed.follows, he]⟩

-- What is not there completely is taken all the same, and the result is forgotten.
theorem drainPending_short (hc : Owed.Chained w.error w.parts) (hs : ∀ q ∈ w.payloads, q.length ≤ usizeMax)
    (hr : w.Recorded c.result) {j : Nat} (hj : j < w.payloads.length) :
    ∃ c', drainPending (c.withQueue (w.payloads.take j)) = .error .needMoreData c' ∧
      c'.result = none := by
  have hlater : ∀ q ∈ w.parts.flatMap (·.payloads), q.length ≤ usizeMax := fun q hq =>
    hs q (List.mem_append_right _ (List.mem_append_left _ hq))
  rw [Owed.Recorded] at hr
  cases hb : w.body
  case none =>
    rw [hb] at hr
    have hw : w.payloads = w.later := by rw [Owed.payloads, hb]; rfl
    rw [hw] at hj ⊢
    obtain ⟨ht, hj, hf⟩ := take_later hj
    cases hres : c.result
    case none => simp [hres, hf] at hr
    case some r =>
      rw [hres] at hr
      have hn : r.hasNext = true := hr.right.trans hf
      rw [drainPending_some hres, finishUnbufferedQuery, hr.left r rfl, ht]
      exact drainResults_short hc hj hlater hn _ _
  case some b =>
    rw [hb] at hr
    obtain ⟨r, hres, hr⟩ := hr
    have hw : w.payloads = b.rows.map rowPayload ++ ((b.eof.map (·.payload)).toList ++ w.later) := by
      rw [Owed.payloads, hb, ← List.append_assoc]
      rfl
    rw [hw] at hj ⊢
    rw [drainPending_some hres, finishUnbufferedQuery, hr.active]
    have hrows : ∀ row ∈ b.rows, row ≠ [] := fun row h => (hr.widths row h).left
    by_cases hjb : j ≤ b.rows.length
    case pos =>
      rw [List.take_append_of_le_length (by simpa using hjb), ← List.map_take]
      have htake : ∀ row ∈ b.rows.take j, row ≠ [] := fun row h => hrows row (List.mem_of_mem_take h)
      have hl := (withQueue_holds (c.settle c.affectedRows c.serverStatus)).feedLocal_none eofStep
        (fun _ _ => rfl) (skip_to_eof (c := c) (r := r) htake)
      exact ⟨_, Outcome.bind_eq_error.mpr (.inl (Outcome.bind_eq_error.mpr (.inl hl))), rfl⟩
    case neg =>
      obtain ⟨k, rfl⟩ := Nat.exists_eq_add_of_lt (Nat.lt_of_not_le hjb)
      rw [List.length_append, List.length_map, Nat.add_assoc, Nat.add_lt_add_iff_left] at hj
      cases heof : b.eof
      case none =>
        obtain ⟨hp, he⟩ := hr.cut heof
        obtain ⟨e, he⟩ := Option.isSome_iff_exists.mp he
        simp [heof, Owed.later, hp, he] at hj
      case some e =>
        rw [heof, Option.map_some, Option.toList_some, List.singleton_append, List.length_cons] at hj
        obtain ⟨ht, hj, hf⟩ := take_later (Nat.lt_of_succ_lt_succ hj)
        have ht : (b.rows.map rowPayload ++ (([e.payload] : List Bytes) ++ w.later)).take
            (b.rows.length + k + 1) =
            b.rows.map rowPayload ++ e.payload :: (w.parts.flatMap (·.payloads)).take k := by
          rw [Nat.add_assoc, ← List.length_map (f := rowPayload), List.take_length_add_append,
            List.singleton_append, List.take_succ_cons, ht]
        obtain ⟨r', hfeed, hn⟩ := eof_body (c := c) (r := r) (e := e) hrows
          ((w.parts.flatMap (·.payloads)).take k)
        have hl := (withQueue_holds (c.settle c.affectedRows c.serverStatus)).feedLocal_some eofStep
          (fun _ _ => rfl) hfeed
        rw [hr.eof e heof, hf] at hn
        obtain ⟨c', hd, hc'⟩ := drainResults_short (c := c) hc hj hlater hn c.affectedRows c.serverStatus
        refine ⟨c', ?_, hc'⟩
        rw [Option.map_some, Option.toList_some, ht]
        exact Outcome.bind_eq_error.mpr (.inr ⟨r', _, Outcome.bind_eq_ok.mpr ⟨_, _, hl, rfl⟩, hd⟩)

end Pending

end Connection
end MySQL
