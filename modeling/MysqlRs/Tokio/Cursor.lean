import MysqlRs.Tokio.Operations

namespace MySQL.Tokio

open ClientError

-- The groups of the pattern for `INSERT` and `REPLACE` queries.
structure InsertValues where
  prefixText : Text
  values : Text
  postfixText : Text

-- `\s`: the characters with the property White_Space.
def isWhiteSpace (c : Char) : Bool :=
  ('\u0009' ≤ c && c ≤ '\u000D') || ('\u2000' ≤ c && c ≤ '\u200A') ||
    c ∈ [' ', '\u0085', '\u00A0', '\u1680', '\u2028', '\u2029', '\u202F', '\u205F', '\u3000']

-- `(\(\s*%s\s*(?:,\s*%s\s*)*\))`, the second group, where case does not matter.
def Placeholders (values : Text) : Prop :=
  ∃ fields : List (Text × Char × Text), fields ≠ [] ∧
    (∀ f ∈ fields, f.1.all isWhiteSpace ∧ f.2.1 ∈ ['s', 'S', '\u017F'] ∧ f.2.2.all isWhiteSpace) ∧
    values = "(".toList ++ [','].intercalate (fields.map fun f => f.1 ++ ['%', f.2.1] ++ f.2.2) ++ ")".toList

-- What `execute_many` uses of a cursor.
structure Executor (σ : Type) where
  checkClosed : Proc Error σ Unit
  mogrify     : Text → List Value → Proc Error σ Text
  execute     : Text → Option (List Value) → Proc Error σ Int64
  setRowCount : Int64 → Proc Error σ Unit

namespace Executor

variable {σ : Type}

def maxLen : Nat := 1024000

def rowTooLong : Error :=
  .dataError CR_INVALID_PARAMETER_NO "execute_many row exceeds maximum query length"

-- The loop over the rows, of which `i` have been appended.
def appendRows (x : Executor σ) (m : InsertValues) (i : Nat) (sql : Text) (rows : Int64) :
    List (List Value) → Proc Error σ Int64
  | []               => do
    let affected ← x.execute (sql ++ m.postfixText) none
    return rows + affected
  | args :: argsList => do
    let valueStr ← x.mogrify m.values args
    let separatorLen := if 0 < i then 1 else 0
    let (sql, rows) ←
      if maxLen < sql.len + valueStr.len + m.postfixText.len + separatorLen then
        if i = 0 then Proc.throw rowTooLong
        else do
          let affected ← x.execute (sql ++ m.postfixText) none
          pure (m.prefixText, rows + affected)
      else pure (sql, rows)
    -- The comma depends on the number of rows, not on whether the statement has been started anew.
    let sql := if 0 < i then sql ++ [','] else sql
    appendRows x m (i + 1) (sql ++ valueStr) rows argsList

def insertRows (x : Executor σ) (m : InsertValues) (argsList : List (List Value)) : Proc Error σ Int64 := do
  let rows ← appendRows x m 0 m.prefixText 0 argsList
  x.setRowCount rows
  return rows

def executeEach (x : Executor σ) (query : Text) (total : Int64) : List (List Value) → Proc Error σ Int64
  | []               => return total
  | args :: argsList => do
    let affected ← x.execute query (some args)
    executeEach x query (total + affected) argsList

-- `captures` is the pattern, `bulk` what is done with the groups.
def executeMany (x : Executor σ) (captures : Text → Option InsertValues)
    (bulk : InsertValues → List (List Value) → Proc Error σ Int64) (query : Text)
    (argsList : List (List Value)) : Proc Error σ Int64 := do
  x.checkClosed
  if argsList.isEmpty then return 0
  match captures query with
  | some m => bulk m argsList
  | none   =>
    let total ← executeEach x query 0 argsList
    x.setRowCount total
    return total

end Executor

def cursorClosed : Error :=
  .programmingError CR_COMMANDS_OUT_OF_SYNC "Cursor closed"

def executeFirst : Error :=
  .programmingError CR_NO_RESULT_SET "execute() first"

def noResultSet : Error :=
  .programmingError CR_NO_RESULT_SET "No result set"

def unknownScrollMode (mode : String) : Error :=
  .programmingError CR_INVALID_PARAMETER_NO s!"unknown scroll mode {mode}"

def outOfRange : Error :=
  .programmingError CR_INVALID_PARAMETER_NO "out of range"

def backwardsScrolling : Error :=
  .notSupportedError CR_UNKNOWN_ERROR "Backwards scrolling not supported by this cursor"

def noOutputVariables : Error :=
  .programmingError CR_NO_RESULT_SET "Failed to fetch procedure output variables"

-- The position that a scroll asks for, where its mode is known.
def scrollTarget? (rowNumber : Nat) (value : Int) (mode : String) : Option Int :=
  if mode = "relative" then some (rowNumber + value) else if mode = "absolute" then some value else none

structure Cursor where
  connection   : Connection
  warningCount : UInt16
  description  : Option (List ColumnDescription)
  rowNumber    : Nat
  rowCount     : Int64
  arraySize    : Nat
  executed     : Option Text
  result       : Option MySQLResult
  rows         : Option (List Row)
  closed       : Bool

structure UnbufferedCursor where
  connection  : Connection
  arraySize   : Nat
  rowNumber   : Nat
  rowCount    : Int64
  description : Option (List ColumnDescription)
  executed    : Bool
  closed      : Bool

variable [Libraries]

namespace Cursor

def new (connection : Connection) : Cursor where
  connection   := connection
  warningCount := 0
  description  := none
  rowNumber    := 0
  rowCount     := -1
  arraySize    := 1
  executed     := none
  result       := none
  rows         := none
  closed       := false

def setConnection (c : Cursor) (connection : Connection) : Cursor :=
  { c with connection := connection }

-- Runs an operation of the connection.
def onConnection {α : Type} (x : Proc Error Connection α) : Proc Error Cursor α :=
  x.zoom connection fun connection c => c.setConnection connection

def checkClosed : Proc Error Cursor Unit := do
  if (← get).closed then Proc.throw cursorClosed

def checkExecuted : Proc Error Cursor Unit := do
  if (← get).executed.isNone then Proc.throw executeFirst

def mogrify (query : Text) (args : Option (List Value)) : Proc Error Cursor Text := do
  checkClosed
  Proc.ofExcept ((← get).connection.mogrify query args)

def refreshResult (c : Cursor) : Cursor :=
  match c.connection.result with
  | none        => c
  | some result => {
      c with
      rowCount := result.affectedRows
      warningCount := result.warningCount
      description := result.description
      rows := result.rows
      result := some result
      rowNumber := 0
    }

def hasNext (c : Cursor) : Bool :=
  (c.result.map (·.hasNext)).getD false

def nextSet : Proc Error Cursor Bool := do
  if !(← get).hasNext then return false
  let _ ← onConnection (Connection.nextResult false)
  modify refreshResult
  return (← get).hasNext

omit [Libraries] in
@[simp]
theorem refreshResult_connection (c : Cursor) : c.refreshResult.connection = c.connection := by
  rw [refreshResult]
  split <;> rfl

omit [Libraries] in
@[simp]
theorem refreshResult_closed (c : Cursor) : c.refreshResult.closed = c.closed := by
  rw [refreshResult]
  split <;> rfl

omit [Libraries] in
theorem onConnection_ok {α : Type} {x : Proc Error Connection α} {c c' : Cursor} {a : α}
    (h : onConnection x c = .ok a c') :
    ∃ connection, x c.connection = .ok a connection ∧ c' = c.setConnection connection :=
  Proc.zoom_eq_ok.mp h

theorem nextSet_lt {c c' : Cursor} (h : nextSet c = .ok true c') :
    c'.connection.remaining < c.connection.remaining := by
  simp only [nextSet, Proc.bind_apply, Proc.get_apply, Outcome.bind_ok] at h
  split at h
  case isTrue  => exact nomatch h
  case isFalse =>
    have ⟨_, _, hn, h⟩ := Outcome.bind_eq_ok.mp h
    have ⟨connection, hn, hc⟩ := onConnection_ok hn
    obtain ⟨_, rfl⟩ := Outcome.ok.inj h
    rw [refreshResult_connection, hc]
    exact Connection.nextResult_lt hn

-- Consumes the remaining results.
def drain : Proc Error Cursor Unit := fun c =>
  match _h : nextSet c with
  | .ok true c  => drain c
  | .ok false c => .ok () c
  | .error e c  => .error e c
  | .pending c  => .pending c
termination_by c => c.connection.remaining
decreasing_by exact nextSet_lt _h

def close : Proc Error Cursor Unit := do
  if (← get).closed then return
  drain
  modify ({ · with closed := true })

def execute (query : Text) (args : Option (List Value)) : Proc Error Cursor Int64 := do
  checkClosed
  drain
  let query ← Proc.ofExcept ((← get).connection.mogrify query args)
  let affected ← onConnection (Connection.query query false)
  modify refreshResult
  modify ({ · with executed := some query })
  return affected

-- A cursor that has not been closed, and whose current result is the last one.
structure Usable (c : Cursor) : Prop where
  open_ : c.closed = false
  last  : c.hasNext = false

theorem Usable.drain {c : Cursor} (h : c.Usable) : drain c = .ok () c := by
  have hn : nextSet c = .ok false c := by simp [nextSet, h.last]
  rw [Cursor.drain]
  split <;> simp_all

-- On such a cursor, a query is all there is to executing.
theorem Usable.execute_ok {c : Cursor} (h : c.Usable) {query sql : Text} {args : Option (List Value)}
    {n : Int64} {connection : Connection} (hm : c.connection.mogrify query args = .ok sql)
    (hq : Connection.query sql false c.connection = .ok n connection) :
    execute query args c = .ok n { (c.setConnection connection).refreshResult with executed := some sql } := by
  simp [execute, checkClosed, h.open_, h.drain, hm, onConnection, hq]

def executor : Executor Cursor where
  checkClosed         := checkClosed
  mogrify values args := do Proc.ofExcept ((← get).connection.mogrify values (some args))
  execute             := execute
  setRowCount rows    := modify ({ · with rowCount := rows })

-- `do_execute_many` checks a second time whether the cursor is closed.
def doExecuteMany {σ : Type} (x : Executor σ) (m : InsertValues) (argsList : List (List Value)) :
    Proc Error σ Int64 := do
  x.checkClosed
  x.insertRows m argsList

def executeMany (captures : Text → Option InsertValues) (query : Text) (argsList : List (List Value)) :
    Proc Error Cursor Int64 :=
  executor.executeMany captures (doExecuteMany executor) query argsList

def fetchOne : Proc Error Cursor (Option Row) := do
  checkExecuted
  let c ← get
  match c.rows.bind (·[c.rowNumber]?) with
  | none     => return none
  | some row =>
    set { c with rowNumber := c.rowNumber + 1 }
    return some row

def fetchMany (size : Option Nat) : Proc Error Cursor (List Row) := do
  checkExecuted
  let c ← get
  match c.rows with
  | none      => return []
  | some rows =>
    let stop := min (c.rowNumber + size.getD c.arraySize) rows.length
    set { c with rowNumber := stop }
    return (rows.take stop).drop c.rowNumber

def fetchAll : Proc Error Cursor (List Row) := do
  checkExecuted
  let c ← get
  match c.rows with
  | none      => return []
  | some rows =>
    set { c with rowNumber := rows.length }
    return rows.drop c.rowNumber

def scroll (value : Int) (mode : String) : Proc Error Cursor Unit := do
  checkExecuted
  let c ← get
  match c.rows with
  | none      => Proc.throw noResultSet
  | some rows =>
    let newPos ← Proc.ofExcept ((scrollTarget? c.rowNumber value mode).elim (.error (unknownScrollMode mode)) .ok)
    if newPos < 0 ∨ rows.length ≤ newPos.toNat then Proc.throw outOfRange
    set { c with rowNumber := newPos.toNat }

-- The user variable for an argument of a procedure.
def procedureVariable (escapedProcname : Text) (i : Nat) : Text :=
  "@`_".toList ++ escapedProcname ++ ['_'] ++ Text.ofNat i ++ ['`']

def setVariables (escapedProcname : Text) (args : List Value) : Proc Error Cursor Unit :=
  if args.isEmpty then return ()
  else do
    let c ← get
    let setQueryParts ← Proc.ofExcept <| args.zipIdx.mapM fun arg => do
      return procedureVariable escapedProcname arg.2 ++ ['='] ++ (← c.connection.literal arg.1)
    let _ ← execute ("SET ".toList ++ Text.join [','] setQueryParts) none

def selectVariables (escapedProcname : Text) (args : List Value) : Proc Error Cursor (List Value) :=
  if args.isEmpty then return []
  else do
    let selectParts := (List.range args.length).map fun i =>
      procedureVariable escapedProcname i ++ " AS `".toList ++ Text.ofNat i ++ ['`']
    let _ ← execute ("SELECT ".toList ++ Text.join [','] selectParts) none
    match ← fetchOne with
    | none     => Proc.throw noOutputVariables
    | some row => return args.mapIdx fun i arg => row[i]?.getD arg

def callProcedure (procname : Text) (args : List Value) : Proc Error Cursor (List Value) := do
  checkClosed
  let escapedProcname := procname.replace '`' "``".toList
  setVariables escapedProcname args
  let callArgs := Text.join [','] ((List.range args.length).map (procedureVariable escapedProcname))
  let _ ← execute ("CALL `".toList ++ escapedProcname ++ "`(".toList ++ callArgs ++ [')']) none
  drain
  selectVariables escapedProcname args

end Cursor

namespace UnbufferedCursor

def new (connection : Connection) : UnbufferedCursor where
  connection  := connection
  arraySize   := 1
  rowNumber   := 0
  rowCount    := -1
  description := none
  executed    := false
  closed      := false

def setConnection (c : UnbufferedCursor) (connection : Connection) : UnbufferedCursor :=
  { c with connection := connection }

def onConnection {α : Type} (x : Proc Error Connection α) : Proc Error UnbufferedCursor α :=
  x.zoom connection fun connection c => c.setConnection connection

def checkClosed : Proc Error UnbufferedCursor Unit := do
  if (← get).closed then Proc.throw cursorClosed

def checkExecuted : Proc Error UnbufferedCursor Unit := do
  if !(← get).executed then Proc.throw executeFirst

def refreshDescription (c : UnbufferedCursor) : UnbufferedCursor :=
  { c with description := c.connection.result.bind (·.description) }

def mogrify (query : Text) (args : Option (List Value)) : Proc Error UnbufferedCursor Text := do
  checkClosed
  Proc.ofExcept ((← get).connection.mogrify query args)

def close : Proc Error UnbufferedCursor Unit := do
  if (← get).closed then return
  onConnection Connection.finishUnbufferedQuery
  modify ({ · with closed := true })

def execute (query : Text) (args : Option (List Value)) : Proc Error UnbufferedCursor Int64 := do
  checkClosed
  let query ← Proc.ofExcept ((← get).connection.mogrify query args)
  let affected ← onConnection (Connection.query query true)
  modify ({ · with executed := true, rowNumber := 0, rowCount := affected })
  modify refreshDescription
  return affected

theorem execute_ok {c : UnbufferedCursor} (hc : c.closed = false) {query sql : Text}
    {args : Option (List Value)} {n : Int64} {connection : Connection}
    (hm : c.connection.mogrify query args = .ok sql)
    (hq : Connection.query sql true c.connection = .ok n connection) :
    execute query args c = .ok n
      { c.setConnection connection with executed := true, rowNumber := 0, rowCount := n }.refreshDescription := by
  simp [execute, checkClosed, hc, hm, onConnection, hq]

def executor : Executor UnbufferedCursor where
  checkClosed         := checkClosed
  mogrify values args := do Proc.ofExcept ((← get).connection.mogrify values (some args))
  execute             := execute
  setRowCount rows    := modify ({ · with rowCount := rows })

def executeMany (captures : Text → Option InsertValues) (query : Text) (argsList : List (List Value)) :
    Proc Error UnbufferedCursor Int64 :=
  executor.executeMany captures executor.insertRows query argsList

def fetchOne : Proc Error UnbufferedCursor (Option Row) := do
  checkClosed
  checkExecuted
  let row ← onConnection Connection.nextUnbufferedRow
  if row.isSome then
    modify fun c => { c with rowNumber := c.rowNumber + 1 }
  return row

def fetchRows : Nat → Proc Error UnbufferedCursor (List Row)
  | 0        => return []
  | size + 1 => do
    match ← onConnection Connection.nextUnbufferedRow with
    | none     => return []
    | some row =>
      modify fun c => { c with rowNumber := c.rowNumber + 1 }
      let rows ← fetchRows size
      return row :: rows

def fetchMany (size : Option Nat) : Proc Error UnbufferedCursor (List Row) := do
  checkClosed
  checkExecuted
  fetchRows (size.getD (← get).arraySize)

omit [Libraries] in
theorem onConnection_ok {α : Type} {x : Proc Error Connection α} {c c' : UnbufferedCursor} {a : α}
    (h : onConnection x c = .ok a c') :
    ∃ connection, x c.connection = .ok a connection ∧ c' = c.setConnection connection :=
  Proc.zoom_eq_ok.mp h

theorem nextUnbufferedRow_lt {c c' : UnbufferedCursor} {row : Row}
    (h : onConnection Connection.nextUnbufferedRow c = .ok (some row) c') :
    c'.connection.remaining < c.connection.remaining := by
  have ⟨_, hx, hc⟩ := onConnection_ok h
  exact hc ▸ Connection.nextUnbufferedRow_lt hx

-- Fetches rows up to the end of the result set.
def fetchRest : Proc Error UnbufferedCursor (List Row) := fun c =>
  match _h : onConnection Connection.nextUnbufferedRow c with
  | .ok (some row) c => (fetchRest { c with rowNumber := c.rowNumber + 1 }).bind fun rows => pure (row :: rows)
  | .ok none c       => .ok [] c
  | .error e c       => .error e c
  | .pending c       => .pending c
termination_by c => c.connection.remaining
decreasing_by exact nextUnbufferedRow_lt _h

def fetchAll : Proc Error UnbufferedCursor (List Row) := do
  checkClosed
  checkExecuted
  fetchRest

def nextSet : Proc Error UnbufferedCursor Bool := do
  checkClosed
  onConnection Connection.finishUnbufferedQuery
  if !((← get).connection.result.map (·.hasNext)).getD false then return false
  let _ ← onConnection (Connection.nextResult true)
  modify ({ · with rowNumber := 0 })
  modify refreshDescription
  return true

-- The number of rows that are passed over. An absolute position is taken as it is in memory, without its sign.
def rowsToSkip (rowNumber : Nat) (value : Int64) (mode : String) : Except Error Nat :=
  if mode = "relative" then
    if value < 0 then .error backwardsScrolling else .ok value.toUInt64.toNat
  else if mode = "absolute" then
    if value.toUInt64.toNat < rowNumber then .error backwardsScrolling
    else .ok (value.toUInt64.toNat - rowNumber)
  else .error (unknownScrollMode mode)

def skipRows : Nat → Proc Error UnbufferedCursor Unit
  | 0        => return ()
  | skip + 1 => do
    match ← onConnection Connection.nextUnbufferedRow with
    | none   => Proc.throw outOfRange
    | some _ =>
      modify fun c => { c with rowNumber := c.rowNumber + 1 }
      skipRows skip

def scroll (value : Int64) (mode : String) : Proc Error UnbufferedCursor Unit := do
  checkClosed
  checkExecuted
  let skip ← Proc.ofExcept (rowsToSkip (← get).rowNumber value mode)
  skipRows skip

end UnbufferedCursor
end MySQL.Tokio
