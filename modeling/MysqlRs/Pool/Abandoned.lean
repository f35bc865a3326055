import MysqlRs.Pool.Reuse
import MysqlRs.Session.Abandoning

namespace MySQL.Pool

open Tokio Tokio.Connection Command

-- A borrower leaves its connection as `c` and drops it, and somebody else asks for one.
def passOn (id : Nat) (c : Tokio.Connection) : List (Label Tokio.Connection) :=
  [.use id c, .drop id, .receive] ++ [.rolledBack (.ok c), .reserve, .sendAcquire, .receive]

variable [Libraries] {config : PoolConfig} {s s₀ : State Tokio.Connection} {labels : List (Label Tokio.Connection)} {id : Nat}
  {pooled : PooledConnection Tokio.Connection}

-- A connection that seems to be in order is not rolled back, and is handed out as it is.
theorem passOn_handsOut (hs : Started config s₀) (hr : Runs (State.step config) s₀ labels s) (h : s.AtRest)
    (hl : lookup id s.lent = some pooled) (hi : 0 < config.maxIdleTime)
    (hy : s.now - pooled.createdAt < config.maxLifetime) {c : Tokio.Connection} (ho : c.isOpen) (ha : c.asks = false) :
    ∃ s', Runs (State.step config) s (passOn id c) s' ∧ Along (State.step config) State.Serves s (passOn id c) ∧
      s'.HandsOut c := by
  have ⟨manager, connects, now, hst, _⟩ := hs.initial
  have hm := (start_ok.mp hst).left
  have hq := reaches_queues hs hr
  have hd := h.drop config hm hl (k := c) ho
  have hq' := hd.invariant (I := State.Queues) (fun _ _ _ h hl => h.step hl) hq
  have ⟨s', hn, hh⟩ := State.handsOut_next config hq' rfl h.queue h.reserved hm hi hy ho
  refine ⟨s', hd.append hn, .append hd (.of_forall ?_) ?_, hh⟩
  case refine_1 =>
    intro l hl s
    simp only [List.mem_cons, List.not_mem_nil, or_false] at hl
    rcases hl with rfl | rfl | rfl
    all_goals trivial
  case refine_2 =>
    refine ⟨?_, fun _ _ => .of_forall ?_⟩
    case refine_1 =>
      rintro _ _ ⟨⟩
      refine ⟨?_, fun ht => ?_⟩
      · simp only [rollbackDirtyTransaction, Proc.bind_apply, Proc.get_apply, Outcome.bind_ok]
        rw [if_neg (by rw [← asks, ha]; exact Bool.false_ne_true)]
        rfl
      · exact absurd (ha.symm.trans ht) Bool.false_ne_true
    case refine_2 =>
      intro l hl s
      simp only [List.mem_cons, List.not_mem_nil, or_false] at hl
      rcases hl with rfl | rfl | rfl
      all_goals trivial

section Abandoned

variable {x y : Exchange} (hs : Started config s₀) (hr : Runs (State.step config) s₀ labels s) (h : s.AtRest)
  (hl : lookup id s.lent = some pooled) (hi : 0 < config.maxIdleTime)
  (hy : s.now - pooled.createdAt < config.maxLifetime) (hc : pooled.conn.conn.Ready)
  (ha : pooled.conn.conn.asks = false) (hx : x.Orderly pooled.conn.conn.inner.packetStream.maxAllowedPacket)

include hs hr h hl hi hy hc ha hx

-- Wherever a borrower abandons a query that has been written and has not been answered to the end, its connection is
-- handed out with the rest of the answer outstanding.
theorem abandoned_handedOut (hh : pooled.conn.conn.answers.head? = some (x.pieces.map .ok))
    (he : ErrorAlone x.response.payloads x.pieces) {got late : List Bytes} (hp : x.pieces = got ++ late)
    (hn : late ≠ []) :
    ∃ c s', Abandons (.query x.sql false) (got.map .ok) (late.map .ok) pooled.conn.conn c ∧
      Runs (State.step config) s (passOn id c) s' ∧ Along (State.step config) State.Serves s (passOn id c) ∧
      s'.HandsOut c ∧ ¬c.CaughtUp := by
  have ⟨c, hab, ho, hk, hcu⟩ := hc.abandoned hx hh he hp hn
  have ⟨s', hrun, hserve, hout⟩ := passOn_handsOut hs hr h hl hi hy ho (hk.trans ha)
  exact ⟨c, s', hab, hrun, hserve, hout, hcu⟩

-- Whoever is handed such a connection is given the answer to the abandoned query when it sends its own.
theorem abandoned_misleads (hq : answerSeq COM_QUERY x.sql.asBytes = answerSeq COM_QUERY y.sql.asBytes) :
    ∃ c s', Abandons (.query x.sql false) [] (x.pieces.map .ok) pooled.conn.conn c ∧
      Runs (State.step config) s (passOn id c) s' ∧ Along (State.step config) State.Serves s (passOn id c) ∧
      s'.HandsOut c ∧ Received pooled.conn.conn.inner x.response (Tokio.Connection.query y.sql false c) := by
  have ⟨c, hab, ho, hk, hrec⟩ := hc.misled hx hq
  have ⟨s', hrun, hserve, hout⟩ := passOn_handsOut hs hr h hl hi hy ho (hk.trans ha)
  exact ⟨c, s', hab, hrun, hserve, hout, hrec⟩

end Abandoned

section Examples

open Libraries Server PacketStream

omit [Libraries]

-- The columns of a result set come in one read, and its row in another one.
def selectOne : Exchange :=
  .inTwo select (.set oneRow) 3

theorem selectOne_orderly : selectOne.Orderly (16 * 1024 * 1024) :=
  Exchange.inTwo_orderly 3 (by decide) (by decide) (by decide) (by decide)

theorem selectOne_pieces : ∃ first second, selectOne.pieces = [first] ++ [second] := by
  have hn {seq : UInt8} {ps : List Bytes} (hp : ps ≠ []) : framed seq ps ≠ [] := fun hf => hp (framed_eq_nil hf)
  have h₁ : (Response.set oneRow).payloads.take 3 ≠ [] := by decide
  have h₂ : (Response.set oneRow).payloads.drop 3 ≠ [] := by decide
  simp only [selectOne, Exchange.inTwo, List.filter, hn h₁, hn h₂, ne_eq, not_false_eq_true, decide_true]
  exact ⟨_, _, rfl⟩

theorem established_asks (answers : List (List ReadEvent)) : (established answers).asks = false := by
  have ht : (established answers).inTransaction = false := inTransaction_eq (s := 0) rfl
  rw [asks, ht]
  rfl

-- The row has not come in.
theorem selectOne_handedOut :
    ∃ k c s', k.isOpen ∧ Runs (State.step single) empty (lending k ++ passOn 0 c) s' ∧ s'.HandsOut c ∧ ¬c.CaughtUp := by
  let := utf8Only
  let k := established [selectOne.pieces.map .ok]
  have ⟨first, second, hp⟩ := selectOne_pieces
  have he : ErrorAlone selectOne.response.payloads selectOne.pieces := errorAlone_of_none oneRow.not_error
  have ⟨c, s', _, hr, _, ho, hc⟩ := abandoned_handedOut empty_started (lending_runs k) (borrowed_atRest k)
    (borrowed_lookup k) (by decide) (by decide) (established_ready _) (established_asks _) selectOne_orderly rfl
    he hp (List.cons_ne_nil _ _)
  exact ⟨k, c, s', rfl, (lending_runs k).append hr, ho, hc⟩

-- Somebody else's COMMIT is answered with the row.
theorem selectOne_misleads :
    ∃ k c s', Runs (State.step single) empty (lending k ++ passOn 0 c) s' ∧ s'.HandsOut c ∧
      @Received utf8Only k.inner (.set oneRow) (@Tokio.Connection.query utf8Only "COMMIT".toList false c) := by
  let := utf8Only
  let k := established [selectOne.pieces.map .ok]
  have short {sql : Text} (h : (COM_QUERY :: sql.asBytes).length < maxPacketLen) : answerSeq COM_QUERY sql.asBytes = 1 := by
    rw [answerSeq, plainPackets_short h]
    rfl
  obtain ⟨c, s', _, hr, _, ho, hc⟩ := abandoned_misleads (y := ⟨"COMMIT".toList, .ok done, []⟩) empty_started
    (lending_runs k) (borrowed_atRest k) (borrowed_lookup k) (by decide) (by decide) (established_ready _)
    (established_asks _) selectOne_orderly ((short (by decide)).trans (short (by decide)).symm)
  exact ⟨k, c, s', (lending_runs k).append hr, ho, hc⟩

end Examples
end MySQL.Pool
