import MysqlRs.Tokio.Operations

namespace MySQL

open MysqlPacket

variable [Libraries]

theorem FieldConverter.readRow_length {cs : List FieldConverter} {p p' : MysqlPacket} {row : Row}
    (h : FieldConverter.readRow cs p = .ok (row, p')) : row.length = cs.length := by
  induction cs generalizing p row p'
  case nil =>
    cases h
    rfl
  case cons c cs ih =>
    simp only [FieldConverter.readRow, bind, StateT.bind, Except.bind] at h
    cases hd : readLengthCodedString p
    case error e =>
      rw [hd] at h
      cases h
    case ok d =>
      rw [hd] at h
      simp only at h
      cases hr : FieldConverter.readRow cs d.2
      case error e =>
        rw [hr] at h
        cases h
      case ok r =>
        rw [hr] at h
        cases h
        rw [List.length_cons, List.length_cons, ih hr]

namespace MySQLResult

-- As long as a result is read, its rows have as many values as it has columns.
structure Aligned (r : MySQLResult) : Prop where
  fields  : r.converters.length = r.fields.length
  columns : r.readState ≠ .descriptions → r.converters.length = (r.description.getD []).length
  rows    : ∀ rows ∈ r.rows, ∀ row ∈ rows, row.length = (r.description.getD []).length
  early   : r.readState = .descriptions → r.rows = none

-- Its columns are known.
structure Described (r : MySQLResult) : Prop extends r.Aligned where
  described : r.readState ≠ .descriptions

section Aligned

variable {r : MySQLResult}

omit [Libraries] in
theorem Described.new (unbuffered : Bool) : ({ unbufferedActive := unbuffered } : MySQLResult).Described where
  fields    := rfl
  columns   := fun _ => rfl
  rows      := fun _ h => nomatch h
  early     := fun _ => rfl
  described := fun h => nomatch h

theorem run_readRow {cs : List FieldConverter} {packet : MysqlPacket} {row : Row}
    (h : (FieldConverter.readRow cs).run' packet = .ok row) : row.length = cs.length := by
  rw [StateT.run'] at h
  cases hr : FieldConverter.readRow cs packet
  case error e =>
    rw [hr] at h
    cases h
  case ok x =>
    rw [hr] at h
    cases h
    exact FieldConverter.readRow_length hr

omit [Libraries] in
-- What an EOF packet says has to do with neither the columns nor the rows.
theorem maintains_checkPacketIsEof {P : MySQLResult → Prop} (packet : MysqlPacket)
    (h : ∀ r w n s, P r → P { r with warningCount := w, hasNext := n, serverStatus := s }) :
    (checkPacketIsEof packet).Maintains P := by
  refine .ite (.pure _) ?_
  exact .bind (.ofExcept _) fun _ => .bind (.modify fun r hr => h r _ _ _ hr) fun _ => .pure _

omit [Libraries] in
theorem Aligned.addRow (h : r.Aligned) (hs : r.readState ≠ .descriptions) {row : Row} (rows : List Row)
    (hr : row.length = r.converters.length) (hrows : ∀ q ∈ rows, q ∈ r.rows.getD []) :
    ({ r with rows := some (rows ++ [row]) } : MySQLResult).Aligned where
  fields  := h.fields
  columns := h.columns
  rows    := by
    intro rs hrs q hq
    obtain rfl := Option.some.inj hrs
    obtain hq | hq := List.mem_append.mp hq
    · have hq := hrows q hq
      cases hro : r.rows
      case none =>
        rw [hro] at hq
        cases hq
      case some rs =>
        rw [hro] at hq
        exact h.rows rs hro q hq
    · rw [List.mem_singleton.mp hq, hr]
      exact h.columns hs
  early   := fun he => absurd he hs

omit [Libraries] in
theorem Described.eof (h : r.Described) {w : UInt16} {n : Bool} {s : Option UInt16} :
    ({ r with warningCount := w, hasNext := n, serverStatus := s } : MySQLResult).Described :=
  ⟨⟨h.fields, h.columns, h.rows, h.early⟩, h.described⟩

omit [Libraries] in
theorem Described.done (h : r.Described) : ({ r with readState := .done } : MySQLResult).Described :=
  ⟨⟨h.fields, fun _ => h.columns h.described, h.rows, fun h => nomatch h⟩, fun h => nomatch h⟩

omit [Libraries] in
theorem Aligned.addField (h : r.Aligned) (hs : r.readState = .descriptions) (c : FieldConverter)
    (f : FieldDescriptorPacket) :
    ({ r with converters := r.converters ++ [c], fields := r.fields ++ [f] } : MySQLResult).Aligned where
  fields  := by rw [List.length_append, List.length_append, h.fields, List.length_singleton, List.length_singleton]
  columns := fun hn => absurd hs hn
  rows    := h.rows
  early   := h.early

omit [Libraries] in
-- The last column has been read: there are no rows yet.
theorem Aligned.describe (h : r.Aligned) (hs : r.readState = .descriptions) {w : UInt16} {n : Bool}
    {st : Option UInt16} {state : ReadState} :
    ({
      r with
      warningCount := w
      hasNext := n
      serverStatus := st
      description := some (r.fields.map (·.description))
      readState := state
    } : MySQLResult).Aligned where
  fields  := h.fields
  columns := by
    intro _
    rw [Option.getD_some, List.length_map]
    exact h.fields
  rows    := by
    intro _ hrows
    rw [h.early hs] at hrows
    cases hrows
  early   := fun _ => h.early hs

theorem maintains_readRow {P Q : MySQLResult → Prop} {α : Type} (packet : MysqlPacket)
    {k : Row → Proc Error MySQLResult α} (hP : ∀ r, P r → Q r)
    (hk : ∀ r row, P r → row.length = r.converters.length → Q (k row r).state) :
    ∀ r, P r → Q ((readRowFromPacket packet >>= k) r).state := by
  intro r h
  simp only [readRowFromPacket, MysqlPacket.run, Proc.bind_apply, Proc.get_apply, Outcome.bind_ok]
  cases hr : (FieldConverter.readRow r.converters).run' packet
  case error e => exact hP r h
  case ok row  => exact hk r row h (run_readRow hr)

theorem maintains_feedRow (packet : MysqlPacket) : (feedRow packet).Maintains Described := by
  refine .bind (maintains_checkPacketIsEof packet fun _ _ _ _ h => h.eof) fun eof => ?_
  refine .ite (.bind (.modify fun _ h => h.done) fun _ => .pure _) ?_
  refine maintains_readRow packet (fun _ h => h) fun r row h hr => ?_
  exact ⟨h.addRow h.described (r.rows.getD []) hr fun _ h => h, h.described⟩

omit [Libraries] in
theorem maintains_feedInitial (packet : MysqlPacket) (conn : Connection) :
    ∀ r : MySQLResult, r.Aligned → r.readState = .initial → (feedInitial packet conn r).state.Aligned := by
  intro r h hi
  have hd : r.readState ≠ .descriptions := by simp [hi]
  rw [feedInitial]
  split_ifs
  case pos =>
    simp only [MysqlPacket.run, Proc.bind_apply]
    cases OkPacketWrapper.fromPacket.run' packet
    case error e => exact h
    case ok d    => exact ⟨h.fields, fun _ => h.columns hd, h.rows, fun h => nomatch h⟩
  case pos => exact h
  case neg =>
    simp only [MysqlPacket.run, Proc.bind_apply]
    cases MysqlPacket.readLengthEncodedInteger.run' packet
    case error e => exact h
    case ok n    => exact ⟨rfl, fun _ => rfl, (fun _ h => nomatch h), fun _ => rfl⟩

theorem maintains_feedDescription (packet : MysqlPacket) (conn : Connection) :
    ∀ r : MySQLResult, r.Aligned → r.readState = .descriptions → (feedDescription packet conn r).state.Aligned := by
  intro r h hi
  simp only [feedDescription, Proc.bind_apply, Proc.get_apply, Outcome.bind_ok]
  split_ifs
  case pos =>
    simp only [Proc.bind_apply]
    cases FieldDescriptorPacket.parse packet.data conn.encoding
    case error e => exact h
    case ok f    => exact h.addField hi _ f
  case pos => exact h
  all_goals
    simp only [MysqlPacket.run, Proc.bind_apply]
    cases EofPacketWrapper.fromPacket.run' packet
    case error e => exact h
    case ok d    => exact h.describe hi

theorem maintains_feedPacket (packet : MysqlPacket) (conn : Connection) :
    (feedPacket packet conn).Maintains Aligned := by
  intro r h
  simp only [feedPacket, Proc.bind_apply, Proc.get_apply, Outcome.bind_ok]
  cases hs : r.readState
  case initial      => exact maintains_feedInitial packet conn r h hs
  case descriptions => exact maintains_feedDescription packet conn r h hs
  case done         => exact h
  all_goals exact (maintains_feedRow packet r ⟨h, by simp [hs]⟩).toAligned

theorem maintains_feedStep (packet : MysqlPacket) (conn : Connection) :
    (feedStep packet conn).Maintains Aligned := by
  refine .bind (maintains_feedPacket packet conn) fun fed => ?_
  cases fed
  case needMore => exact .pure _
  all_goals exact .bind .get fun _ => .pure _

-- A reader stops at a result whose columns are known.
theorem feedStep_some {packet : MysqlPacket} {conn : Connection} {r' : MySQLResult} {n : Int64}
    (h : feedStep packet conn r = .ok (some n) r') : r'.readState ≠ .descriptions := by
  have ⟨fed, r₁, hf, h⟩ := Outcome.bind_eq_ok.mp h
  have hr : fed ≠ .needMore ∧ r' = r₁ := by
    cases fed
    case needMore => cases h
    all_goals
      cases h
      exact ⟨by simp, rfl⟩
  rw [hr.right]
  have hfed := hr.left
  simp only [feedPacket, Proc.bind_apply, Proc.get_apply, Outcome.bind_ok] at hf
  cases hs : r.readState
  case initial =>
    rw [hs] at hf
    simp only [feedInitial] at hf
    split_ifs at hf
    case pos =>
      have ⟨_, _, _, hf⟩ := Outcome.bind_eq_ok.mp hf
      cases hf
      exact fun h => nomatch h
    case pos => cases hf
    case neg =>
      have ⟨_, _, _, hf⟩ := Outcome.bind_eq_ok.mp hf
      cases hf
      exact absurd rfl hfed
  case descriptions =>
    rw [hs] at hf
    simp only [feedDescription, Proc.bind_apply, Proc.get_apply, Outcome.bind_ok] at hf
    split_ifs at hf
    case pos =>
      have ⟨_, _, _, hf⟩ := Outcome.bind_eq_ok.mp hf
      cases hf
      exact absurd rfl hfed
    case pos => cases hf
    case pos hu =>
      have ⟨_, _, hp, hf⟩ := Outcome.bind_eq_ok.mp hf
      have ⟨_, hp⟩ := Proc.ofExcept_eq_ok.mp hp
      cases hf
      simp [hp, hu]
    case neg =>
      have ⟨_, _, _, hf⟩ := Outcome.bind_eq_ok.mp hf
      cases hf
      exact absurd rfl hfed
  case done =>
    rw [hs] at hf
    cases hf
    simp [hs]
  all_goals
    rw [hs] at hf
    have ⟨eof, _, _, hf⟩ := Outcome.bind_eq_ok.mp hf
    cases eof
    case true =>
      cases hf
      exact fun h => nomatch h
    case false =>
      have ⟨_, _, _, hf⟩ := Outcome.bind_eq_ok.mp hf
      cases hf
      exact absurd rfl hfed

-- The rows that are still to come have these columns.
structure Streaming (d : Option (List ColumnDescription)) (r : MySQLResult) : Prop extends r.Described where
  active : r.unbufferedActive → r.description = d

theorem maintains_readRowdata (d : Option (List ColumnDescription)) (packet : MysqlPacket) :
    (readRowdataPacketUnbuffered packet).Maintains (Streaming d) := by
  refine .bind .get fun r => .ite (.pure _) ?_
  refine .bind (maintains_checkPacketIsEof packet fun _ _ _ _ h => ⟨h.toDescribed.eof, h.active⟩) fun eof => ?_
  refine .ite (.bind (.modify fun r h => ?_) fun _ => .pure _) (.bind (.modify fun r h => ?_) fun _ => ?_)
  · exact ⟨⟨⟨h.fields, fun _ => h.columns h.described, h.rows, fun h => nomatch h⟩, fun h => nomatch h⟩,
      fun h => nomatch h⟩
  · exact ⟨⟨⟨h.fields, h.columns, h.rows, h.early⟩, h.described⟩, h.active⟩
  · refine maintains_readRow packet (fun _ h => h) fun r row h hr => ?_
    exact ⟨⟨h.addRow h.described [] hr (fun _ h => nomatch h), h.described⟩, h.active⟩

theorem readRowdata_length {d : Option (List ColumnDescription)} {packet : MysqlPacket} {r' : MySQLResult} {row : Row}
    (hr : r.Streaming d) (h : readRowdataPacketUnbuffered packet r = .ok (some row) r') :
    row.length = (d.getD []).length := by
  simp only [readRowdataPacketUnbuffered, Proc.bind_apply, Proc.get_apply, Outcome.bind_ok] at h
  split_ifs at h with hu
  case pos => cases h
  case neg =>
    have ⟨eof, r₁, heof, h⟩ := Outcome.bind_eq_ok.mp h
    have hr₁ : r₁.Streaming d ∧ r₁.unbufferedActive = r.unbufferedActive := by
      have hm := maintains_checkPacketIsEof (P := fun r' => r'.Streaming d ∧ r'.unbufferedActive = r.unbufferedActive)
        packet fun _ _ _ _ h => ⟨⟨h.left.toDescribed.eof, h.left.active⟩, h.right⟩
      exact hm.of_ok ⟨hr, rfl⟩ heof
    cases eof
    case true  => cases h
    case false =>
      have ⟨_, r₂, hrow, h⟩ := Outcome.bind_eq_ok.mp h
      have hrow := (Proc.ofExcept_eq_ok.mp hrow).left
      cases h
      have hactive : r₁.unbufferedActive = true := by
        rw [hr₁.right]
        simpa using hu
      rw [run_readRow hrow, ← hr₁.left.active hactive]
      exact hr₁.left.columns hr₁.left.described

end Aligned

end MySQLResult

namespace Connection

omit [Libraries] in
theorem onStream_result {α : Type} (x : Proc Error PacketStream α) : (onStream x).Leaves (·.result) :=
  .zoom x fun _ _ => rfl

omit [Libraries] in
theorem received_result : received.next.Leaves (·.result) :=
  onStream_result _

-- A result that has been received on the way is taken away again.
theorem receivedResults_result (c : Connection) : (receivedResults.next c).state.result = none := by
  have feed (t : MySQLResult) := received.feedLocal_leaves received_result MySQLResult.feedStep t
  simp only [receivedResults, nextResult, readQueryResult, Proc.bind_apply, Proc.get_apply, Proc.modify_apply,
    Outcome.bind_ok]
  generalize (if ((c.result.filter (!·.isDone)).getD {}).isInitial then _ else _) = t
  have h := feed t { c with result := none }
  cases hf : received.feedLocal MySQLResult.feedStep t { c with result := none }
  case ok x c' => rfl
  all_goals
    rw [hf] at h
    exact h

section Command

variable (P : MySQLResult → Prop)

theorem maintains_drainPending : drainPending.Maintains fun c => ∀ r ∈ c.result, P r := by
  have none_ {c : Connection} (h : c.result = none) : ∀ r ∈ c.result, P r := by
    intro r hr
    rw [h] at hr
    cases hr
  have drain (r : MySQLResult) : (drainResults r).Maintains (·.result = none) := by
    rw [drainResults]
    split
    case isTrue  => exact .pure _
    case isFalse =>
      refine .bind (receivedResults.feedLocal_maintains (fun c _ => receivedResults_result c) _ _) fun _ => .pure _
  have finish (r : MySQLResult) : (finishUnbufferedQuery r).Maintains (·.result = none) := by
    rw [finishUnbufferedQuery]
    split
    case isTrue  => exact .pure _
    case isFalse =>
      refine .bind (.of_leaves (received.feedLocal_leaves received_result _ _) ?_) fun _ => .pure _
      exact fun _ _ h hr => h.trans hr
  intro c h
  rw [drainPending, Proc.bind_apply, Proc.get_apply, Outcome.bind_ok]
  cases hr : c.result
  case none   => exact h
  case some r =>
    have hm := Proc.Maintains.bind (finish r) drain { c with result := none } rfl
    exact none_ hm

theorem maintains_executeCommand (command : UInt8) (sql : Bytes) :
    (executeCommand command sql).Maintains fun c => ∀ r ∈ c.result, P r := by
  have write : (writeCommand command sql).Leaves (·.result) :=
    .bind (.modify fun _ => rfl) fun _ => onStream_result _
  refine .bind .get fun c => .guard _ fun _ => .bind (maintains_drainPending P) fun _ => .of_leaves write ?_
  intro s t hr h
  rw [hr]
  exact h

end Command
end Connection

namespace Tokio.Connection

open Command

-- What holds of the result that the connection has.
def Results (P : MySQLResult → Prop) (c : Connection) : Prop :=
  ∀ r ∈ c.inner.result, P r

omit [Libraries] in
theorem lasting_result : Lasting (·.result) where
  stream _ _ := rfl
  closed _ _ := rfl

section Results

variable {P : MySQLResult → Prop}

omit [Libraries] in
theorem Results.of_eq {c c' : Connection} (h : c.Results P) (hr : c'.inner.result = c.inner.result) : c'.Results P := by
  rw [Results, hr]
  exact h

omit [Libraries] in
theorem maintains_of_leaves {α : Type} {x : Proc Error Connection α} (h : x.Leaves (·.inner.result)) :
    x.Maintains (Results P) :=
  .of_leaves h fun _ _ hr h => h.of_eq hr

theorem maintains_command (command : UInt8) (sql : Bytes) :
    (onInner (MySQL.Connection.executeCommand command sql)).Maintains (Results P) :=
  .zoom (MySQL.Connection.maintains_executeCommand P command sql) (fun _ h => h) fun _ _ _ h => h

-- An operation of the current result.
theorem maintains_onResult {α : Type} {step : MysqlPacket → Proc Error MySQLResult (Option α)} (h₀ : P {})
    (hs : ∀ packet, (step packet).Maintains P) : (onResult step).Maintains (Results P) := by
  refine packets.feedWithin_maintains (T := fun _ => P) lasting_result.readPacket (fun _ packet _ => hs packet) ?_ ?_
  · intro c h
    cases hr : c.inner.result
    case none   => exact h₀
    case some r => exact h r hr
  · rintro _ _ r _ _ h r' hr'
    obtain rfl := Option.some.inj hr'
    exact h

end Results

section Streaming

variable (d : Option (List ColumnDescription))

omit [Libraries] in
theorem streaming_new : ({} : MySQLResult).Streaming d :=
  ⟨.new false, fun h => nomatch h⟩

theorem maintains_finishUnbufferedQuery : finishUnbufferedQuery.Maintains (Results (·.Streaming d)) := by
  refine .bind .get fun _ => .ite (.pure _) (maintains_onResult (streaming_new d) fun packet => ?_)
  exact .bind (MySQLResult.maintains_readRowdata d packet) fun _ => .bind .get fun _ => .pure _

-- Where no rows are to come, none are to come afterwards.
theorem maintains_inactive {α : Type} {step : MysqlPacket → Proc Error MySQLResult (Option α)}
    {k : Option Row → Proc Error MySQLResult (Option α)}
    (hs : ∀ packet, step packet = MySQLResult.readRowdataPacketUnbuffered packet >>= k)
    (hk : ∀ row, (k row).Leaves (·.unbufferedActive)) :
    (onResult step).Maintains (Results (·.unbufferedActive = false)) := by
  refine maintains_onResult rfl fun packet => ?_
  rw [hs]
  refine .bind ?_ fun row => .of_leaves (hk row) fun _ _ h hr => h.trans hr
  intro r hr
  simp only [MySQLResult.readRowdataPacketUnbuffered, Proc.bind_apply, Proc.get_apply, Outcome.bind_ok, hr]
  exact hr

theorem finishUnbufferedQuery_inactive : finishUnbufferedQuery.Maintains (Results (·.unbufferedActive = false)) := by
  refine .bind .get fun _ => .ite (.pure _) (maintains_inactive (fun _ => rfl) fun _ => ?_)
  exact .bind .get fun _ => .pure _

theorem nextUnbufferedRow_inactive : nextUnbufferedRow.Maintains (Results (·.unbufferedActive = false)) := by
  refine .bind .get fun _ => .ite (.pure _) (maintains_inactive (fun _ => rfl) fun row => .bind .get fun r => ?_)
  split
  · exact .pure _
  · exact .pure _

theorem nextUnbufferedRow_none {c c' : Connection} {row : Row} (hc : c.Results (·.unbufferedActive = false)) :
    nextUnbufferedRow c ≠ .ok (some row) c' := by
  intro h
  have hi : c.unbufferedActive = false := by
    rw [unbufferedActive]
    cases hr : c.inner.result
    case none   => rfl
    case some r => exact hc r hr
  rw [nextUnbufferedRow, Proc.bind_apply, Proc.get_apply, Outcome.bind_ok, hi] at h
  cases h

theorem maintains_nextUnbufferedRow : nextUnbufferedRow.Maintains (Results (·.Streaming d)) := by
  refine .bind .get fun _ => .ite (.pure _) (maintains_onResult (streaming_new d) fun packet => ?_)
  refine .bind (MySQLResult.maintains_readRowdata d packet) fun row => .bind .get fun _ => ?_
  exact .ite (.pure _) (.pure _)

theorem nextUnbufferedRow_length {c c' : Connection} {row : Row} (hc : c.Results (·.Streaming d))
    (h : nextUnbufferedRow c = .ok (some row) c') : row.length = (d.getD []).length := by
  simp only [nextUnbufferedRow, Proc.bind_apply, Proc.get_apply, Outcome.bind_ok] at h
  split_ifs at h
  case pos => cases h
  case neg =>
    -- What a reader of rows stops at comes from the last packet alone.
    have hstream : (c.inner.result.getD {}).Streaming d := by
      cases hr : c.inner.result
      case none   => exact streaming_new d
      case some r => exact hc r hr
    have step {packet : MysqlPacket} {r r' : MySQLResult} {x : Option Row} (hr : r.Streaming d)
        (h : rowStep packet r = .ok (some x) r') : ∀ row ∈ x, row.length = (d.getD []).length := by
      obtain ⟨x, r₁, hx, h⟩ := Outcome.bind_eq_ok.mp h
      simp only [Proc.bind_apply, Proc.get_apply, Outcome.bind_ok] at h
      split_ifs at h
      case pos =>
        cases h
        rintro row rfl
        exact MySQLResult.readRowdata_length hr hx
      case neg => cases h
    have steps (packet : MysqlPacket) : (rowStep packet).Maintains (·.Streaming d) := by
      refine .bind (MySQLResult.maintains_readRowdata d packet) fun row => .bind .get fun _ => ?_
      exact .ite (.pure _) (.pure _)
    rw [onResult, Source.feedWithin] at h
    cases hf : packets.feed (fun packet _ => rowStep packet) (c.inner.result.getD {}, c)
    case ok x y =>
      rw [hf] at h
      cases h
      obtain ⟨_, _, hlast⟩ := Source.Supplies.of_feed
        (P := fun t _ (x : Option Row) _ => t.Streaming d → ∀ row ∈ x, row.length = (d.getD []).length)
        (fun _ _ _ _ _ hs ht => step ht hs) (fun _ _ _ _ _ _ _ hs ih ht => ih ((steps _).of_ok ht hs)) hf
      exact hlast hstream row rfl
    all_goals
      rw [hf] at h
      cases h

end Streaming

section Read

variable {c c' : Connection} {u : Bool} {n : Int64}

theorem leaves_sendLoadLocalFile {δ : Type} {f : MySQL.Connection → δ} (hf : Lasting f) (packet : MysqlPacket) :
    (sendLoadLocalFile packet).Leaves fun c => f c.inner := by
  have write (data : Bytes) : (onInner (MySQL.Connection.writePacket data)).Leaves fun c => f c.inner :=
    leaves_onInner (hf.onStream _)
  have chunks (data : Bytes) : (writeChunks data).Leaves fun c => f c.inner := by
    fun_induction writeChunks data
    case case1    => exact .pure ()
    case case2 ih => exact .bind (write _) fun _ => ih
  have send (data : Bytes) : Proc.Leaves (fun c => f c.inner) (do
      writeChunks data
      onInner (MySQL.Connection.writePacket [])
      pumpWrite) :=
    .bind (chunks data) fun _ => .bind (write []) fun _ => hf.pumpWrite
  refine .bind .get fun c => ?_
  split
  case isTrue  =>
    refine .bind (.throw _) fun _ => .bind (.ofExcept _) fun _ => .bind (.ofExcept _) fun data => send data
  case isFalse => exact .bind (.ofExcept _) fun _ => .bind (.ofExcept _) fun data => send data

theorem readFirstPacket_result (t : MySQLResult) : (readFirstPacket t).Leaves (·.inner.result) := by
  refine .bind lasting_result.readPacket fun packet => ?_
  split
  case isTrue  => exact .bind (leaves_sendLoadLocalFile lasting_result packet) fun _ => .pure _
  case isFalse =>
    refine .bind .get fun c => ?_
    intro c₁
    rw [Proc.onLocal]
    cases feedStep packet c t <;> rfl

-- What is read is a new result. It replaces the one before it when it is known to be a result.
theorem readQueryResult_kept (h : ∀ n c', readQueryResult u c ≠ .ok n c') :
    (readQueryResult u c).state.inner.result = c.inner.result := by
  have hfirst := readFirstPacket_result { unbufferedActive := u } c
  rw [readQueryResult, Proc.bind_apply] at h ⊢
  cases hx : readFirstPacket { unbufferedActive := u } c
  case ok x c₁ =>
    obtain ⟨affected, t⟩ := x
    rw [hx] at h hfirst
    simp only [Outcome.bind_ok] at h ⊢
    cases affected
    case some n => exact absurd rfl (h _ _)
    case none   =>
      have hfeed := packets.feedLocal_leaves lasting_result.readPacket feedStep t c₁
      cases hf : packets.feedLocal feedStep t c₁
      case ok y c₂ =>
        simp only [Proc.bind_apply, hf] at h
        exact absurd rfl (h _ _)
      all_goals
        rw [hf] at hfeed
        simp only [Proc.bind_apply, hf]
        exact hfeed.trans hfirst
  all_goals
    rw [hx] at hfirst
    exact hfirst

theorem readQueryResult_described (h : readQueryResult u c = .ok n c') :
    ∃ r, c'.inner.result = some r ∧ r.Described := by
  obtain ⟨x, c₁, hx, h⟩ := Outcome.bind_eq_ok.mp h
  obtain ⟨affected, t⟩ := x
  have hfirst : t.Aligned ∧ (affected.isSome → t.readState ≠ .descriptions) := by
    obtain ⟨packet, c₂, _, hx⟩ := Outcome.bind_eq_ok.mp hx
    by_cases hl : packet.isLoadLocalPacket = true
    case pos =>
      rw [if_pos hl] at hx
      obtain ⟨_, _, _, hx⟩ := Outcome.bind_eq_ok.mp hx
      cases hx
      exact ⟨(MySQLResult.Described.new u).toAligned, fun h => nomatch h⟩
    case neg =>
      rw [if_neg hl] at hx
      simp only [Proc.bind_apply, Proc.get_apply, Outcome.bind_ok, Proc.onLocal] at hx
      have hstep := MySQLResult.maintains_feedStep packet c₂.inner _ (MySQLResult.Described.new u).toAligned
      cases hs : feedStep packet c₂ { unbufferedActive := u }
      case ok a t' =>
        rw [hs] at hx
        cases hx
        change MySQLResult.feedStep packet c₁.inner _ = _ at hs
        rw [hs] at hstep
        refine ⟨hstep, fun ha => ?_⟩
        obtain ⟨n, hn⟩ := Option.isSome_iff_exists.mp ha
        exact MySQLResult.feedStep_some (hn ▸ hs)
      all_goals
        rw [hs] at hx
        cases hx
  cases affected
  case some n =>
    cases h
    exact ⟨t, rfl, hfirst.left, hfirst.right rfl⟩
  case none   =>
    obtain ⟨y, c₂, hf, h⟩ := Outcome.bind_eq_ok.mp h
    obtain ⟨k, t'⟩ := y
    cases h
    have haligned := packets.feedLocal_ok_maintains
      (fun packet c => MySQLResult.maintains_feedStep packet c.inner) hfirst.left hf
    obtain ⟨_, _, hlast⟩ := Source.Supplies.of_feedLocal (P := fun _ _ _ (t : MySQLResult) => t.readState ≠ .descriptions)
      (fun _ _ _ _ _ h => MySQLResult.feedStep_some h) (fun _ _ _ _ _ _ _ _ ih => ih) hf
    exact ⟨t', rfl, haligned, hlast⟩

variable (P : MySQLResult → Prop)

theorem readQueryResult_retains (u : Bool) : (readQueryResult u).Retains (Results P) :=
  fun _ h hf => h.of_eq (readQueryResult_kept hf)

variable {P}

theorem nextResult_retains (hf : finishUnbufferedQuery.Maintains (Results P)) (u : Bool) :
    (nextResult u).Retains (Results P) :=
  .bind hf fun _ => readQueryResult_retains P u

theorem query_retains (hf : finishUnbufferedQuery.Maintains (Results P)) (sql : Text) (u : Bool) :
    (query sql u).Retains (Results P) :=
  .bind hf fun _ => .bind (maintains_command _ _) fun _ =>
    .bind (maintains_of_leaves lasting_result.pumpWrite) fun _ => readQueryResult_retains P u

-- The result that is there afterwards is the one that has been read.
structure Renewed (c : Connection) : Prop where
  some      : c.inner.result.isSome
  described : c.Results (·.Described)

theorem readQueryResult_renewed (u : Bool) : (readQueryResult u).Establishes Renewed := by
  intro c n c' h
  have ⟨r, hr, hd⟩ := readQueryResult_described h
  refine ⟨by rw [hr]; rfl, fun r' hr' => ?_⟩
  obtain rfl := Option.some.inj (hr.symm.trans hr')
  exact hd

theorem nextResult_renewed (u : Bool) : (nextResult u).Establishes Renewed :=
  .bind fun _ => readQueryResult_renewed u

theorem query_renewed (sql : Text) (u : Bool) : (query sql u).Establishes Renewed :=
  .bind fun _ => .bind fun _ => .bind fun _ => readQueryResult_renewed u

omit [Libraries] in
-- Whatever has been read so far, its columns are those of the result.
theorem Results.streaming {c : Connection} (h : c.Results (·.Described)) :
    c.Results (·.Streaming (c.inner.result.bind (·.description))) := by
  intro r hr
  refine ⟨h r hr, fun _ => ?_⟩
  rw [Option.mem_def.mp hr]
  rfl

end Read
end Tokio.Connection
end MySQL
