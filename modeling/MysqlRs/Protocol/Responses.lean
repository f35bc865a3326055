import MysqlRs.Protocol.Packets

namespace MySQL.Server

open MysqlPacket MySQLResult

structure ResultSet where
  columns    : List Column
  columnsEof : Eof
  rows       : List (List (Option Bytes))
  rowsEof    : Eof
  nonempty   : columns ≠ []
  small      : columns.length < 2 ^ 64
  widths     : ∀ row ∈ rows, row.length = columns.length

namespace ResultSet

def header (r : ResultSet) : List Bytes :=
  lenencInt r.columns.length :: (r.columns.map (·.payload) ++ [r.columnsEof.payload])

def body (r : ResultSet) : List Bytes :=
  r.rows.map rowPayload ++ [r.rowsEof.payload]

def payloads (r : ResultSet) : List Bytes :=
  r.header ++ r.body

variable [Libraries] (r : ResultSet) (conn : Connection)

def fields : List FieldDescriptorPacket :=
  r.columns.map (·.field conn.encoding)

def converters : List FieldConverter :=
  (r.fields conn).map (buildConverter · conn)

def decode (row : List (Option Bytes)) : Row :=
  List.zipWith FieldConverter.convert (r.converters conn) row

-- A result whose column definitions have been read.
def opened (unbuffered : Bool) : MySQLResult where
  serverStatus     := some r.columnsEof.status
  warningCount     := r.columnsEof.warnings
  fieldCount       := UInt64.ofNat r.columns.length
  description      := some ((r.fields conn).map (·.description))
  fields           := r.fields conn
  hasNext          := hasMoreResults r.columnsEof.status
  unbufferedActive := unbuffered
  converters       := r.converters conn
  readState        := if unbuffered then .unbufferedReady else .rows

-- A result that has been read to its end.
def result : MySQLResult :=
  {
    r.opened conn false with
    serverStatus := some r.rowsEof.status
    warningCount := r.rowsEof.warnings
    hasNext      := hasMoreResults r.rowsEof.status
    rows         := if r.rows = [] then none else some (r.rows.map (r.decode conn))
    readState    := .done
  }

end ResultSet

def Ok.result (d : Ok) (unbuffered : Bool) : MySQLResult where
  affectedRows     := d.affectedRows.toInt64
  insertId         := some d.insertId
  serverStatus     := some d.status
  warningCount     := d.warnings
  message          := some d.message
  hasNext          := hasMoreResults d.status
  unbufferedActive := unbuffered
  readState        := .done

section Kinds

theorem lenencInt_head (n : Nat) :
    ∃ b bs, lenencInt n = b :: bs ∧ b ≠ 0xFB ∧ b ≠ 0xFF ∧ (b = 0 → n = 0) ∧
      (b = 0xFE → 2 ^ 24 ≤ n) := by
  rw [lenencInt]
  split_ifs with h₁ h₂ h₃
  · have hc : (UInt8.ofNat n).toNat = n := by simp; omega
    have ne (b : UInt8) (hb : 0xFB ≤ b.toNat) : UInt8.ofNat n ≠ b := fun he => by
      rw [← he, hc] at hb
      omega
    refine ⟨_, [], rfl, ne _ (by decide), ne _ (by decide), fun he => ?_, fun he => ?_⟩
    · rw [← hc, he]
      rfl
    · exact absurd he (ne _ (by decide))
  · exact ⟨_, _, rfl, by decide, by decide, (absurd · (by decide)), (absurd · (by decide))⟩
  · exact ⟨_, _, rfl, by decide, by decide, (absurd · (by decide)), (absurd · (by decide))⟩
  · exact ⟨_, _, rfl, by decide, by decide, (absurd · (by decide)), fun _ => Nat.le_of_not_lt h₃⟩

theorem lenencNullable_head (s : Option Bytes) :
    ∃ b bs, lenencNullable s = b :: bs ∧ b ≠ 0xFF ∧ (b = 0xFE → 2 ^ 24 ≤ bs.length) := by
  cases s
  case none   => exact ⟨_, _, rfl, by decide, by decide⟩
  case some s =>
    have ⟨b, bs, hb, _, hf, _, he⟩ := lenencInt_head s.length
    refine ⟨b, bs ++ s, by rw [lenencNullable, lenencString, hb]; rfl, hf, fun h => ?_⟩
    have := he h
    rw [List.length_append]
    omega

theorem rowPayload_not_eof {row : List (Option Bytes)} (h : row ≠ []) :
    (new (rowPayload row)).isEofPacket = false := by
  have ⟨s, row, hr⟩ := List.exists_cons_of_ne_nil h
  have ⟨b, bs, hb, _, he⟩ := lenencNullable_head s
  simp only [hr, rowPayload, List.flatMap_cons, hb, MysqlPacket.isEofPacket, new_data,
    List.cons_append, List.head?_cons, List.length_cons, List.length_append, decide_eq_false_iff_not]
  rintro ⟨hf, hl⟩
  have := he (Option.some.inj hf)
  omega

theorem rowPayload_not_error {row : List (Option Bytes)} (h : row ≠ []) :
    ¬IsError (rowPayload row) := by
  have ⟨s, row, hr⟩ := List.exists_cons_of_ne_nil h
  have ⟨b, bs, hb, hf, _⟩ := lenencNullable_head s
  simpa [hr, rowPayload, hb, IsError, isErrorPacket] using hf

theorem Column.not_error (d : Column) : ¬IsError d.payload := by
  have ⟨b, bs, hb, _, hf, _⟩ := lenencInt_head d.catalog.length
  simpa [payload, lenencString, hb, IsError, isErrorPacket] using hf

theorem Eof.not_error (d : Eof) : ¬IsError d.payload := by
  simp [IsError, isErrorPacket, payload]

namespace ResultSet

variable (r : ResultSet)

theorem width_ne_nil {row : List (Option Bytes)} (h : row ∈ r.rows) : row ≠ [] := fun hn => by
  have := r.widths row h
  rw [hn] at this
  exact r.nonempty (List.length_eq_zero_iff.mp this.symm)

theorem header_not_error : ∀ p ∈ r.header, ¬IsError p := by
  have ⟨b, bs, hb, _, hf, _⟩ := lenencInt_head r.columns.length
  have h₁ : ¬IsError (lenencInt r.columns.length) := by
    simpa [hb, IsError, isErrorPacket] using hf
  rw [header, List.forall_mem_cons, List.forall_mem_append, List.forall_mem_map,
    List.forall_mem_singleton]
  exact ⟨h₁, fun d _ => d.not_error, r.columnsEof.not_error⟩

theorem body_not_error : ∀ p ∈ r.body, ¬IsError p := by
  rw [body, List.forall_mem_append, List.forall_mem_map, List.forall_mem_singleton]
  exact ⟨fun row h => rowPayload_not_error (r.width_ne_nil h), r.rowsEof.not_error⟩

theorem not_error : ∀ p ∈ r.payloads, ¬IsError p := by
  rw [payloads, List.forall_mem_append]
  exact ⟨r.header_not_error, r.body_not_error⟩

end ResultSet

theorem Ok.not_error (d : Ok) : ¬IsError d.payload := by
  simp [IsError, isErrorPacket, payload]

end Kinds

section Feeding

variable [Libraries] (conn : Connection)

-- The step with which a connection reads its results.
abbrev step (p : Bytes) : Proc Error MySQLResult (Option Int64) :=
  feedStep (new p) conn

theorem feed_ok (d : Ok) (unbuffered : Bool) (more : List Bytes) (h : d.payload.length ≤ usizeMax) :
    Source.feedList (step conn) (d.payload :: more) { unbufferedActive := unbuffered } =
      .ok (some (d.affectedRows.toInt64, more)) (d.result unbuffered) := by
  refine Source.feedList_some _ ?_
  simp [feedStep, feedPacket, feedInitial, d.isOkPacket, d.run h, Ok.wrapper, Ok.result]

theorem step_column {d : Column} {t : MySQLResult} (hs : t.readState = .descriptions)
    (hf : t.fields.length < t.fieldCount.toNat) (h : d.payload.length ≤ usizeMax) :
    step conn d.payload t = .ok none {
      t with
      converters := t.converters ++ [buildConverter (d.field conn.encoding) conn]
      fields := t.fields ++ [d.field conn.encoding]
    } := by
  simp [feedStep, feedPacket, hs, feedDescription, hf, d.parse conn.encoding h]

theorem step_columnsEof {d : Eof} {t : MySQLResult} (hs : t.readState = .descriptions)
    (hf : t.fieldCount.toNat ≤ t.fields.length) :
    step conn d.payload t = .ok (if t.unbufferedActive then some t.affectedRows else none) {
      t with
      warningCount := d.warnings
      hasNext := hasMoreResults d.status
      serverStatus := some d.status
      description := some (t.fields.map (·.description))
      readState := if t.unbufferedActive then .unbufferedReady else .rows
    } := by
  cases hu : t.unbufferedActive <;>
    simp [feedStep, feedPacket, hs, feedDescription, Nat.not_lt.mpr hf, d.isEofPacket,
      d.run, Eof.wrapper, hu]

theorem step_row {row : List (Option Bytes)} {t : MySQLResult} (hs : t.readState = .rows)
    (hl : row.length = t.converters.length) (hn : row ≠ []) (h : (rowPayload row).length ≤ usizeMax) :
    step conn (rowPayload row) t = .ok none {
      t with
      rows := some (t.rows.getD [] ++ [List.zipWith FieldConverter.convert t.converters row])
    } := by
  simp [feedStep, feedPacket, hs, feedRow, checkPacketIsEof, rowPayload_not_eof hn, readRowFromPacket,
    run_of_finishes (row_finishes hl h) h]

theorem step_rowsEof {d : Eof} {t : MySQLResult} (hs : t.readState = .rows) :
    step conn d.payload t = .ok (some t.affectedRows) {
      t with
      warningCount := d.warnings
      hasNext := hasMoreResults d.status
      serverStatus := some d.status
      readState := .done
    } := by
  simp [feedStep, feedPacket, hs, feedRow, checkPacketIsEof, d.isEofPacket, d.run,
    Eof.wrapper]

theorem step_count {n : Nat} (u : Bool) (h0 : n ≠ 0) (hn : n < 2 ^ 64) :
    step conn (lenencInt n) { unbufferedActive := u } = .ok none {
      unbufferedActive := u
      fieldCount := UInt64.ofNat n
      readState := .descriptions
    } := by
  have ⟨b, bs, hb, hfb, _, hz, _⟩ := lenencInt_head n
  have hl : (lenencInt n).length ≤ usizeMax := by
    rw [lenencInt]
    split_ifs <;> simp [usizeMax]
  have hr := (consumes_readLengthEncodedInteger hn).finishes []
  rw [List.append_nil] at hr
  have hok : (new (lenencInt n)).isOkPacket = false := by
    simp [MysqlPacket.isOkPacket, hb]
    exact fun h => absurd (hz h) h0
  have hload : (new (lenencInt n)).isLoadLocalPacket = false := by
    simpa [MysqlPacket.isLoadLocalPacket, hb] using hfb
  simp [feedStep, feedPacket, feedInitial, hok, hload, run_of_finishes hr hl]

theorem feed_columns (ds : List Column) {t : MySQLResult} (more : List Bytes)
    (hs : t.readState = .descriptions) (hf : t.fields.length + ds.length ≤ t.fieldCount.toNat)
    (h : ∀ d ∈ ds, d.payload.length ≤ usizeMax) :
    Source.feedList (step conn) (ds.map (·.payload) ++ more) t =
      Source.feedList (step conn) more {
        t with
        converters := t.converters ++ (ds.map (·.field conn.encoding)).map (buildConverter · conn)
        fields := t.fields ++ ds.map (·.field conn.encoding)
      } := by
  induction ds generalizing t
  case nil => simp
  case cons d ds ih =>
    have ⟨hd, hds⟩ := List.forall_mem_cons.mp h
    rw [List.length_cons] at hf
    rw [List.map_cons, List.cons_append,
      Source.feedList_none _ (step_column conn hs (by omega) hd)]
    refine (ih ?_ ?_ hds).trans ?_
    · exact hs
    · simp only [List.length_append, List.length_singleton]
      omega
    · simp

theorem feed_rowList {rows : List (List (Option Bytes))} {t : MySQLResult} (more : List Bytes)
    (hs : t.readState = .rows)
    (hw : ∀ row ∈ rows, row ≠ [] ∧ row.length = t.converters.length)
    (h : ∀ row ∈ rows, (rowPayload row).length ≤ usizeMax) :
    Source.feedList (step conn) (rows.map rowPayload ++ more) t =
      Source.feedList (step conn) more {
        t with
        rows :=
          if rows = [] then t.rows
          else some (t.rows.getD [] ++ rows.map (List.zipWith FieldConverter.convert t.converters))
      } := by
  induction rows generalizing t
  case nil => simp
  case cons row rows ih =>
    have ⟨hr, hrs⟩ := List.forall_mem_cons.mp h
    have ⟨⟨hn, hl⟩, hws⟩ := List.forall_mem_cons.mp hw
    rw [List.map_cons, List.cons_append, Source.feedList_none _ (step_row conn hs hl hn hr)]
    refine (ih ?_ ?_ hrs).trans ?_
    · exact hs
    · exact hws
    · by_cases hz : rows = [] <;> simp [hz]

namespace ResultSet

variable (r : ResultSet)

theorem feed_header (unbuffered : Bool) (more : List Bytes)
    (h : ∀ p ∈ r.header, p.length ≤ usizeMax) :
    Source.feedList (step conn) (r.header ++ more) { unbufferedActive := unbuffered } =
      if unbuffered then .ok (some (0, more)) (r.opened conn true)
      else Source.feedList (step conn) more (r.opened conn false) := by
  rw [header, List.forall_mem_cons, List.forall_mem_append, List.forall_mem_map] at h
  have hn : (UInt64.ofNat r.columns.length).toNat = r.columns.length :=
    UInt64.toNat_ofNat_of_lt' r.small
  have h0 : r.columns.length ≠ 0 := fun h0 => r.nonempty (List.length_eq_zero_iff.mp h0)
  rw [header, List.cons_append, List.append_assoc,
    Source.feedList_none _ (step_count conn unbuffered h0 r.small),
    feed_columns conn r.columns _ rfl (by simp [hn]) h.right.left]
  have hc := step_columnsEof conn (d := r.columnsEof) (t := {
    unbufferedActive := unbuffered
    fieldCount := UInt64.ofNat r.columns.length
    readState := .descriptions
    converters := r.converters conn
    fields := r.fields conn
  }) rfl (by simp [hn, fields])
  cases unbuffered
  case false => exact Source.feedList_none _ hc
  case true  => exact Source.feedList_some _ hc

-- Without the EOF packet after the definitions, there is no value yet.
theorem feed_header_cut (unbuffered : Bool) {n : Nat} (hn : n < r.header.length)
    (h : ∀ p ∈ r.header.take n, p.length ≤ usizeMax) :
    ∃ t, Source.feedList (step conn) (r.header.take n) { unbufferedActive := unbuffered } =
      .ok none t := by
  have hc : (UInt64.ofNat r.columns.length).toNat = r.columns.length :=
    UInt64.toNat_ofNat_of_lt' r.small
  have h0 : r.columns.length ≠ 0 := fun h0 => r.nonempty (List.length_eq_zero_iff.mp h0)
  cases n
  case zero   => exact ⟨_, rfl⟩
  case succ k =>
    simp only [ResultSet.header, List.length_cons, List.length_append, List.length_map,
      List.length_nil] at hn
    rw [ResultSet.header, List.take_succ_cons, List.take_append_of_le_length (by simp; omega),
      ← List.map_take] at h ⊢
    have ⟨_, h⟩ := List.forall_mem_cons.mp h
    rw [List.forall_mem_map] at h
    have hf := feed_columns conn (r.columns.take k) (t := {
      unbufferedActive := unbuffered
      fieldCount := UInt64.ofNat r.columns.length
      readState := .descriptions
    }) [] rfl (by simp [hc]) h
    rw [List.append_nil] at hf
    exact ⟨_, (Source.feedList_none _ (step_count conn unbuffered h0 r.small)).trans hf⟩

theorem feed_body (more : List Bytes) (h : ∀ p ∈ r.body, p.length ≤ usizeMax) :
    Source.feedList (step conn) (r.body ++ more) (r.opened conn false) =
      .ok (some (0, more)) (r.result conn) := by
  rw [body, List.forall_mem_append, List.forall_mem_map] at h
  have hw : ∀ row ∈ r.rows, row ≠ [] ∧ row.length = (r.opened conn false).converters.length :=
    fun row hr => ⟨r.width_ne_nil hr, by simp [r.widths row hr, opened, converters, fields]⟩
  rw [body, List.append_assoc, feed_rowList conn _ rfl hw h.left]
  exact Source.feedList_some _ (step_rowsEof conn rfl)

end ResultSet

end Feeding

-- What a server answers to a command.
inductive Response
  | ok (d : Ok)
  | err (body : Bytes)
  | set (r : ResultSet)
  -- The first `n` packets of a result set, and then an error.
  | aborted (r : ResultSet) (n : Nat) (body : Bytes)

namespace Response

def payloads : Response → List Bytes
  | ok d             => [d.payload]
  | err body         => [errPayload body]
  | set r            => r.payloads
  | aborted r n body => r.payloads.take n ++ [errPayload body]

-- No further result is announced, and what is cut short is not complete.
def Single : Response → Prop
  | ok d          => hasMoreResults d.status = false
  | err _         => True
  | set r         => hasMoreResults r.rowsEof.status = false
  | aborted r n _ => n < r.payloads.length

instance : DecidablePred Single
  | ok d          => inferInstanceAs (Decidable (hasMoreResults d.status = false))
  | err _         => inferInstanceAs (Decidable True)
  | set r         => inferInstanceAs (Decidable (hasMoreResults r.rowsEof.status = false))
  | aborted r n _ => inferInstanceAs (Decidable (n < r.payloads.length))

variable [Libraries] (conn : Connection)

-- What a buffered query is to give for this response.
def content : Response → Except Error MySQLResult
  | ok d                           => .ok (d.result false)
  | set r                          => .ok (r.result conn)
  | err body | aborted _ _ body => .error (Error.raiseMysqlException (errPayload body))

theorem feed_set (r : ResultSet) (h : ∀ p ∈ r.payloads, p.length ≤ usizeMax) :
    Source.feedList (step conn) r.payloads { unbufferedActive := false } =
      .ok (some (0, [])) (r.result conn) := by
  rw [ResultSet.payloads, List.forall_mem_append] at h
  rw [ResultSet.payloads, r.feed_header conn false _ h.left, if_neg Bool.false_ne_true]
  have hb := r.feed_body conn [] h.right
  rwa [List.append_nil] at hb

theorem feed_aborted (r : ResultSet) {n : Nat} (hn : n < r.payloads.length)
    (h : ∀ p ∈ r.payloads.take n, p.length ≤ usizeMax) :
    ∃ t, Source.feedList (step conn) (r.payloads.take n) { unbufferedActive := false } =
      .ok none t := by
  by_cases hh : n < r.header.length
  case pos =>
    rw [ResultSet.payloads, List.take_append_of_le_length (Nat.le_of_lt hh)] at h ⊢
    exact r.feed_header_cut conn false hh h
  case neg =>
    obtain ⟨m, rfl⟩ := Nat.exists_eq_add_of_le (Nat.not_lt.mp hh)
    have hm : m ≤ (r.rows.map rowPayload).length := by
      simp only [ResultSet.payloads, ResultSet.body, List.length_append, List.length_singleton] at hn
      omega
    rw [ResultSet.payloads, List.take_length_add_append, ResultSet.body,
      List.take_append_of_le_length hm, ← List.map_take] at h ⊢
    rw [List.forall_mem_append, List.forall_mem_map] at h
    have hw : ∀ row ∈ r.rows.take m,
        row ≠ [] ∧ row.length = (r.opened conn false).converters.length := fun row hr =>
      ⟨r.width_ne_nil (List.mem_of_mem_take hr), by
        simp [r.widths row (List.mem_of_mem_take hr), ResultSet.opened, ResultSet.converters,
          ResultSet.fields]⟩
    have hf := feed_rowList conn (t := r.opened conn false) [] rfl hw h.right
    rw [List.append_nil] at hf
    rw [r.feed_header conn false _ h.left, if_neg Bool.false_ne_true]
    exact ⟨_, hf⟩

omit [Libraries] in
theorem not_loadLocal (a : Response) {p : Bytes} (h : p ∈ a.payloads.head?) :
    (new p).isLoadLocalPacket = false := by
  have count (r : ResultSet) : (new (lenencInt r.columns.length)).isLoadLocalPacket = false := by
    have ⟨b, bs, hb, hl, _⟩ := lenencInt_head r.columns.length
    simpa [isLoadLocalPacket, hb] using hl
  cases a
  case ok d =>
    cases h
    simp [isLoadLocalPacket, Ok.payload]
  case err =>
    cases h
    simp [isLoadLocalPacket, errPayload]
  case set r =>
    cases h
    exact count r
  case aborted r n _ =>
    cases n <;> cases h
    case zero => simp [isLoadLocalPacket, errPayload]
    case succ => exact count r

end Response

end MySQL.Server
