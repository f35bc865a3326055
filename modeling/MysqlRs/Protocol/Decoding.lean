import MysqlRs.Protocol.Responses

namespace MySQL.Server

open MysqlPacket MySQLResult

section

variable [Libraries] (conn : Connection)

-- Feeds the packets one after another and collects what comes of them.
def feedPackets : List Bytes → Proc Error MySQLResult (List FeedResult)
  | []      => pure []
  | p :: ps => do
    let fed ← feedPacket (new p) conn
    return fed :: (← feedPackets ps)

variable {conn} {p : Bytes} {ps : List Bytes} {t t' : MySQLResult} {a : Int64}

theorem feedPacket_of_none (h : step conn p t = .ok none t') :
    feedPacket (new p) conn t = .ok .needMore t' := by
  have ⟨fed, t₁, h₁, h₂⟩ := Outcome.bind_eq_ok.mp h
  cases fed
  case needMore =>
    obtain ⟨_, rfl⟩ := Outcome.ok.inj h₂
    exact h₁
  all_goals exact nomatch h₂

theorem feedPacket_unbufferedReady (h : feedPacket (new p) conn t = .ok .unbufferedReady t') :
    t'.readState = .unbufferedReady := by
  have row : (feedRow (new p)).Yields (· ≠ .unbufferedReady) :=
    .bind fun _ => .ite (.bind fun _ => .pure (by decide)) (.bind fun _ => .bind fun _ => .pure (by decide))
  rw [feedPacket, Proc.bind_apply, Proc.get_apply, Outcome.bind_ok] at h
  cases hs : t.readState
  all_goals rw [hs] at h
  case initial =>
    have hi : (feedInitial (new p) conn).Yields (· ≠ .unbufferedReady) :=
      .ite (.bind fun _ => .bind fun _ => .pure (by decide))
        (.ite (.throw _) (.bind fun _ => .bind fun _ => .pure (by decide)))
    exact absurd rfl (hi h)
  case rows            => exact absurd rfl (row h)
  case unbufferedReady => exact absurd rfl (row h)
  case done            => cases h
  case descriptions    =>
    simp only [feedDescription, Proc.bind_apply, Proc.get_apply, Outcome.bind_ok] at h
    split_ifs at h with hf he hu
    · cases (Outcome.bind_eq_ok.mp h).choose_spec.choose_spec.right
    · cases h
    · obtain ⟨wp, t₁, hw, h⟩ := Outcome.bind_eq_ok.mp h
      have ht : t₁ = t := Proc.Keeps.ofExcept (f := id) _ hw
      obtain ⟨_, rfl⟩ := Outcome.ok.inj h
      rw [ht]
      exact if_pos hu
    · cases (Outcome.bind_eq_ok.mp h).choose_spec.choose_spec.right

-- A result that is complete has been reached by `Done`.
theorem feedPacket_of_some (h : step conn p t = .ok (some a) t') (hd : t'.readState = .done) :
    feedPacket (new p) conn t = .ok .done t' := by
  have ⟨fed, t₁, h₁, h₂⟩ := Outcome.bind_eq_ok.mp h
  cases fed
  case needMore => exact nomatch h₂
  case done     =>
    obtain ⟨_, rfl⟩ := Outcome.ok.inj h₂
    exact h₁
  case unbufferedReady =>
    obtain ⟨_, rfl⟩ := Outcome.ok.inj h₂
    exact nomatch (feedPacket_unbufferedReady h₁).symm.trans hd

theorem feedPackets_of_feedList (h : Source.feedList (step conn) ps t = .ok (some (a, [])) t')
    (hd : t'.readState = .done) :
    feedPackets conn ps t = .ok (List.replicate (ps.length - 1) .needMore ++ [.done]) t' := by
  induction ps generalizing t
  case nil          => exact nomatch h
  case cons p ps ih =>
    have ⟨r, t₁, h₁, h₂⟩ := Outcome.bind_eq_ok.mp h
    rw [feedPackets, Proc.bind_apply]
    cases r
    case some b =>
      obtain ⟨hr, rfl⟩ := Outcome.ok.inj h₂
      obtain ⟨_, rfl⟩ := Prod.mk.inj (Option.some.inj hr)
      rw [feedPacket_of_some h₁ hd]
      rfl
    case none   =>
      have hps : ps ≠ [] := by
        rintro rfl
        exact nomatch h₂
      rw [feedPacket_of_none h₁, Outcome.bind_ok, Proc.bind_apply, ih h₂]
      obtain ⟨q, ps, rfl⟩ := List.exists_cons_of_ne_nil hps
      rfl

-- A text result set is read as it was written: the reader wants more until the last packet, and ends up with
-- the definitions, the rows in order and what the last packet says. The bytes of a cell decide nothing.
theorem feedPackets_resultSet (conn : Connection) (r : ResultSet)
    (h : ∀ p ∈ r.payloads, p.length ≤ usizeMax) :
    ∃ t, feedPackets conn r.payloads {} =
        .ok (List.replicate (r.payloads.length - 1) .needMore ++ [.done]) t ∧
      t.fields = r.columns.map (·.field conn.encoding) ∧
      t.rows.getD [] = r.rows.map (fun row => List.zipWith
        (fun column cell => (buildConverter (column.field conn.encoding) conn).convert cell) r.columns row) ∧
      t.hasNext = hasMoreResults r.rowsEof.status ∧ t.warningCount = r.rowsEof.warnings ∧
      t.serverStatus = some r.rowsEof.status ∧
      ∀ row ∈ r.rows, (new (rowPayload row)).isEofPacket = false := by
  refine ⟨r.result conn, feedPackets_of_feedList (Response.feed_set conn r h) rfl, rfl, ?_, rfl, rfl, rfl,
    fun row hr => rowPayload_not_eof (r.width_ne_nil hr)⟩
  have hd (row : List (Option Bytes)) : r.decode conn row = List.zipWith
      (fun column cell => (buildConverter (column.field conn.encoding) conn).convert cell) r.columns row := by
    rw [ResultSet.decode, ResultSet.converters, ResultSet.fields, List.map_map, List.zipWith_map_left]
    rfl
  simp only [← hd]
  by_cases hr : r.rows = []
  · simp [ResultSet.result, hr]
  · simp [ResultSet.result, hr]

end

section Examples

attribute [local instance] Libraries.utf8Only

-- The first row has the bytes of an OK packet.
def lookalike : ResultSet where
  columns    := [⟨[], [], [], [], [97], [], 63, 5, 252, 0, 0⟩, ⟨[], [], [], [], [98], [], 63, 5, 252, 0, 0⟩]
  columnsEof := ⟨0, 2⟩
  rows       := [[some [], some [1, 2, 3, 4, 5]], [none, some [0xFE]]]
  rowsEof    := ⟨3, 10⟩
  nonempty   := by decide
  small      := by decide
  widths     := by decide

theorem lookalike_decodes :
    ∃ t, feedPackets (.fresh {} ⟨45, "utf8mb4", true⟩) lookalike.payloads {} =
        .ok (List.replicate 6 .needMore ++ [.done]) t ∧
      t.rows.getD [] = [[.bytes [], .bytes [1, 2, 3, 4, 5]], [.null, .bytes [0xFE]]] ∧
      t.hasNext = true ∧ t.warningCount = 3 := by
  have ⟨t, hf, _, hr, hn, hw, _⟩ :=
    feedPackets_resultSet (.fresh {} ⟨45, "utf8mb4", true⟩) lookalike (by decide)
  exact ⟨t, hf, hr, hn, hw⟩

end Examples
end MySQL.Server
