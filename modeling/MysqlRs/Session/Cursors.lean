import MysqlRs.Session.Columns
import MysqlRs.Session.Fetching

namespace MySQL.Tokio

-- The parts of `execute_many` lead from states with `P` to such states.
structure Executor.Maintaining {σ : Type} (P : σ → Prop) (x : Executor σ) : Prop where
  checkClosed : x.checkClosed.Maintains P
  mogrify     : ∀ values args, (x.mogrify values args).Maintains P
  execute     : ∀ query args, (x.execute query args).Maintains P
  setRowCount : ∀ rows, (x.setRowCount rows).Maintains P

namespace Executor.Maintaining

variable {σ : Type} {P : σ → Prop} {x : Executor σ} (h : x.Maintaining P)

include h

theorem appendRows (m : InsertValues) (i : Nat) (sql : Text) (rows : Int64) (argsList : List (List Value)) :
    (x.appendRows m i sql rows argsList).Maintains P := by
  induction argsList generalizing i sql rows
  case nil              => exact .bind (h.execute _ _) fun _ => .pure _
  case cons _ argsList ih =>
    refine .bind (h.mogrify _ _) fun row => .ite (.ite ?_ ?_) ?_
    · exact .bind (.throw _) fun _ => ih _ _ _
    · exact .bind (h.execute _ _) fun _ => .bind (.pure _) fun _ => ih _ _ _
    · exact .bind (.pure _) fun _ => ih _ _ _

theorem insertRows (m : InsertValues) (argsList : List (List Value)) : (x.insertRows m argsList).Maintains P :=
  .bind (h.appendRows m _ _ _ argsList) fun _ => .bind (h.setRowCount _) fun _ => .pure _

theorem executeEach (query : Text) (total : Int64) (argsList : List (List Value)) :
    (x.executeEach query total argsList).Maintains P := by
  induction argsList generalizing total
  case nil         => exact .pure _
  case cons _ _ ih => exact .bind (h.execute _ _) fun _ => ih _

theorem executeMany (captures : Text → Option InsertValues)
    {bulk : InsertValues → List (List Value) → Proc Error σ Int64} (hb : ∀ m argsList, (bulk m argsList).Maintains P)
    (query : Text) (argsList : List (List Value)) : (x.executeMany captures bulk query argsList).Maintains P := by
  refine .bind h.checkClosed fun _ => .ite (.pure _) ?_
  cases captures query
  case some m => exact hb m argsList
  case none   => exact .bind (h.executeEach _ _ _) fun _ => .bind (h.setRowCount _) fun _ => .pure _

end Executor.Maintaining

variable [Libraries]

namespace Cursor

-- The rows have a value for each of the columns.
def Columned (c : Cursor) : Prop :=
  ∀ rows ∈ c.rows, ∀ row ∈ rows, row.length = (c.description.getD []).length

def NoRows (c : Cursor) : Prop :=
  c.rows.getD [] = []

variable {P : Cursor → Prop}

omit [Libraries] in
theorem maintains_checkClosed : checkClosed.Maintains P :=
  .bind .get fun _ => .guard _ fun _ => .pure _

omit [Libraries] in
theorem Columned.refreshResult {c : Cursor} (h : c.connection.Renewed) : c.refreshResult.Columned := by
  have ⟨r, hr⟩ := Option.isSome_iff_exists.mp h.some
  rw [Cursor.refreshResult, show c.connection.result = some r from hr]
  exact (h.described r hr).rows

omit [Libraries] in
-- Neither the description nor the rows change as long as an operation of the connection has not succeeded.
theorem onConnection_maintains {α : Type} {x : Proc Error Connection Int64} {k : Int64 → Proc Error Cursor α}
    (hx : x.Establishes Connection.Renewed) (hk : ∀ n c, c.connection.Renewed → Columned (k n c).state) :
    (onConnection x >>= k).Maintains Columned :=
  Proc.Establishes.maintains (.zoom hx fun _ _ h => h) (.zoom (Q := fun _ => True) (.of_maintains fun _ _ => trivial)
    (fun _ _ => trivial) fun _ _ h _ => h) hk

theorem nextSet_maintains : nextSet.Maintains Columned :=
  .bind .get fun _ => .ite (.pure _) <|
    onConnection_maintains (Connection.nextResult_renewed _) fun _ _ h => Columned.refreshResult h

theorem drain_maintains : drain.Maintains Columned := by
  intro c h
  have next {c : Cursor} {o : Outcome Error Cursor Bool} (h : c.Columned) (ho : nextSet c = o) : o.state.Columned :=
    ho ▸ nextSet_maintains c h
  fun_induction drain c
  case case1 ho ih => exact ih (next h ho)
  all_goals
    rename_i ho
    exact next h ho

theorem execute_maintains (query : Text) (args : Option (List Value)) : (execute query args).Maintains Columned := by
  refine .bind maintains_checkClosed fun _ => .bind drain_maintains fun _ => .bind .get fun _ => ?_
  refine .bind (.ofExcept _) fun sql => onConnection_maintains (Connection.query_renewed _ _) fun n c h => ?_
  exact Columned.refreshResult h

theorem executor_maintaining : executor.Maintaining Columned where
  checkClosed        := maintains_checkClosed
  mogrify _ _        := .bind .get fun _ => .ofExcept _
  execute query args := execute_maintains query args
  setRowCount _      := .modify fun _ h => h

theorem executeMany_maintains (captures : Text → Option InsertValues) (query : Text) (argsList : List (List Value)) :
    (executeMany captures query argsList).Maintains Columned :=
  executor_maintaining.executeMany captures
    (fun m argsList => .bind maintains_checkClosed fun _ => executor_maintaining.insertRows m argsList) query argsList

theorem close_maintains : close.Maintains Columned :=
  .bind .get fun _ => .ite (.pure _) <| .bind drain_maintains fun _ => .modify fun _ h => h

-- What the calls that move the cursor leave as it is.
def resultSet (c : Cursor) : Option (List ColumnDescription) × Option (List Row) :=
  (c.description, c.rows)

omit [Libraries] in
theorem Columned.of_eq {c c' : Cursor} (h : c.Columned) (he : c'.resultSet = c.resultSet) : c'.Columned := by
  obtain ⟨hd, hr⟩ := Prod.mk.inj he
  rw [Columned, hd, hr]
  exact h

omit [Libraries] in
theorem NoRows.of_eq {c c' : Cursor} (h : c.NoRows) (he : c'.resultSet = c.resultSet) : c'.NoRows := by
  rw [NoRows, (Prod.mk.inj he).right]
  exact h

omit [Libraries] in
theorem fetchOne_leaves : fetchOne.Leaves resultSet := by
  intro c
  simp only [fetchOne, checkExecuted, Proc.bind_apply, Proc.get_apply, Outcome.bind_ok]
  split_ifs
  case pos => rfl
  case neg =>
    simp only [Proc.pure_apply, Proc.bind_apply, Proc.get_apply, Outcome.bind_ok]
    cases c.rows.bind (·[c.rowNumber]?) <;> rfl

omit [Libraries] in
theorem scroll_leaves (value : Int) (mode : String) : (scroll value mode).Leaves resultSet := by
  intro c
  simp only [scroll, checkExecuted, Proc.bind_apply, Proc.get_apply, Outcome.bind_ok]
  split_ifs
  case pos => rfl
  case neg =>
    simp only [Proc.pure_apply, Proc.bind_apply, Proc.get_apply, Outcome.bind_ok]
    cases hr : c.rows
    case none      => rfl
    case some rows =>
      cases scrollTarget? c.rowNumber value mode
      case none   => rfl
      case some n =>
        simp only [Option.elim_some, Proc.ofExcept_ok, Proc.bind_apply, Proc.pure_apply, Outcome.bind_ok]
        split_ifs
        case pos => rfl
        case neg => exact Prod.ext rfl hr.symm

theorem callProcedure_maintains (procname : Text) (args : List Value) : (callProcedure procname args).Maintains Columned := by
  have set (name : Text) : (setVariables name args).Maintains Columned := by
    rw [setVariables]
    split_ifs
    case pos => exact .pure _
    case neg =>
      exact .bind .get fun _ => .bind (.ofExcept _) fun _ => .bind (execute_maintains _ _) fun _ => .pure _
  have select (name : Text) : (selectVariables name args).Maintains Columned := by
    rw [selectVariables]
    split_ifs
    case pos => exact .pure _
    case neg =>
      refine .bind (execute_maintains _ _) fun _ => .bind (fun c h => ?_) fun row => ?_
      · exact h.of_eq (fetchOne_leaves c)
      · cases row
        case none   => exact .throw _
        case some _ => exact .pure _
  exact .bind maintains_checkClosed fun _ => .bind (set _) fun _ => .bind (execute_maintains _ _) fun _ =>
    .bind drain_maintains fun _ => select _

-- The methods of a cursor.
inductive Op
  | execute (query : Text) (args : Option (List Value))
  | executeMany (query : Text) (argsList : List (List Value))
  | callProcedure (procname : Text) (args : List Value)
  | close
  | nextSet
  | scroll (value : Int) (mode : String)
  | fetch (fetch : Fetch)

variable (captures : Text → Option InsertValues)

-- The state that a call leaves, whatever comes of it.
def after (c : Cursor) : Op → Cursor
  | .execute query args          => (execute query args c).state
  | .executeMany query argsList  => (executeMany captures query argsList c).state
  | .callProcedure procname args => (callProcedure procname args c).state
  | .close                       => (close c).state
  | .nextSet                     => (nextSet c).state
  | .scroll value mode           => (scroll value mode c).state
  | .fetch fetch                 => (Cursor.fetch fetch c).state

def step (c : Cursor) (op : Op) : Option Cursor :=
  some (after captures c op)

omit [Libraries] in
theorem fetch_leaves (fetch : Fetch) : (Cursor.fetch fetch).Leaves resultSet := by
  cases fetch
  case one  => exact .bind fetchOne_leaves fun _ => .pure _
  all_goals
    intro c
    simp only [Cursor.fetch, fetchMany, fetchAll, checkExecuted, Proc.bind_apply, Proc.get_apply, Outcome.bind_ok]
    split_ifs
    case pos => rfl
    case neg =>
      simp only [Proc.pure_apply, Proc.bind_apply, Proc.get_apply, Outcome.bind_ok]
      cases hr : c.rows
      case none      => rfl
      case some rows => exact Prod.ext rfl hr.symm

theorem after_columned {c : Cursor} (h : c.Columned) (op : Op) : (after captures c op).Columned := by
  cases op
  case execute query args          => exact execute_maintains query args c h
  case executeMany query argsList  => exact executeMany_maintains captures query argsList c h
  case callProcedure procname args => exact callProcedure_maintains procname args c h
  case close                       => exact close_maintains c h
  case nextSet                     => exact nextSet_maintains c h
  case scroll value mode           => exact h.of_eq (scroll_leaves value mode c)
  case fetch fetch                 => exact h.of_eq (fetch_leaves fetch c)

end Cursor

namespace UnbufferedCursor

open Tokio.Connection (Results)

-- The rows that are still to come have a value for each of the columns.
def Columned (c : UnbufferedCursor) : Prop :=
  c.executed = true → c.connection.Results (·.Streaming c.description)

def NoRows (c : UnbufferedCursor) : Prop :=
  c.connection.Results (·.unbufferedActive = false)

-- Holds on, as long as the connection does not come to a new result.
structure Undisturbed (P : UnbufferedCursor → Prop) : Prop where
  finish    : (onConnection Connection.finishUnbufferedQuery).Maintains P
  nextRow   : (onConnection Connection.nextUnbufferedRow).Maintains P
  query     : ∀ sql, (onConnection (Connection.query sql true)).Retains P
  nextSet   : (onConnection (Connection.nextResult true)).Retains P
  rowNumber : ∀ c n, P c → P { c with rowNumber := n }

omit [Libraries] in
theorem onConnection_state {α : Type} (x : Proc Error Connection α) (c : UnbufferedCursor) :
    (onConnection x c).state = c.setConnection (x c.connection).state := by
  rw [onConnection, Proc.zoom_apply]
  cases x c.connection <;> rfl

theorem undisturbed_description (d : Option (List ColumnDescription)) : Undisturbed (·.description = d) where
  finish      := .of_leaves (.zoom _ fun _ _ => rfl) fun _ _ h hs => h.trans hs
  nextRow     := .of_leaves (.zoom _ fun _ _ => rfl) fun _ _ h hs => h.trans hs
  query _     := .of_maintains <| .of_leaves (.zoom _ fun _ _ => rfl) fun _ _ h hs => h.trans hs
  nextSet     := .of_maintains <| .of_leaves (.zoom _ fun _ _ => rfl) fun _ _ h hs => h.trans hs
  rowNumber _ _ h := h

theorem undisturbed_noRows : Undisturbed NoRows where
  finish    := .zoom Connection.finishUnbufferedQuery_inactive (fun _ h => h) fun _ _ _ h => h
  nextRow   := .zoom Connection.nextUnbufferedRow_inactive (fun _ h => h) fun _ _ _ h => h
  query sql :=
    .zoom (Connection.query_retains Connection.finishUnbufferedQuery_inactive sql true) (fun _ h => h) fun _ _ _ h => h
  nextSet   :=
    .zoom (Connection.nextResult_retains Connection.finishUnbufferedQuery_inactive true) (fun _ h => h) fun _ _ _ h => h
  rowNumber _ _ h := h

omit [Libraries] in
theorem maintains_columned {α : Type} {x : Proc Error Connection α} (hx : ∀ d, x.Maintains (Results (·.Streaming d))) :
    (onConnection x).Maintains Columned := by
  intro c h
  rw [onConnection_state]
  exact fun hexec => hx c.description c.connection (h hexec)

omit [Libraries] in
theorem retains_columned {α : Type} {x : Proc Error Connection α} (hx : ∀ d, x.Retains (Results (·.Streaming d))) :
    (onConnection x).Retains Columned := by
  intro c h hf
  rw [onConnection_state]
  refine fun hexec => hx c.description c.connection (h hexec) fun a t ht => hf a (c.setConnection t) ?_
  rw [onConnection, Proc.zoom_apply, ht]
  rfl

theorem undisturbed_columned : Undisturbed Columned where
  finish    := maintains_columned Connection.maintains_finishUnbufferedQuery
  nextRow   := maintains_columned Connection.maintains_nextUnbufferedRow
  query sql := retains_columned fun d => Connection.query_retains (Connection.maintains_finishUnbufferedQuery d) sql true
  nextSet   := retains_columned fun d => Connection.nextResult_retains (Connection.maintains_finishUnbufferedQuery d) true
  rowNumber _ _ h := h

section Undisturbed

variable {P : UnbufferedCursor → Prop}

omit [Libraries] in
theorem maintains_checkClosed : checkClosed.Maintains P :=
  .bind .get fun _ => .guard _ fun _ => .pure _

omit [Libraries] in
theorem maintains_checkExecuted : checkExecuted.Maintains P :=
  .bind .get fun _ => .guard _ fun _ => .pure _

variable (h : Undisturbed P)

include h

theorem Undisturbed.execute (query : Text) (args : Option (List Value)) : (execute query args).Retains P :=
  .bind maintains_checkClosed fun _ => .bind .get fun _ => .bind (.ofExcept _) fun _ =>
    .before (h.query _) fun _ _ => ⟨_, _, rfl⟩

theorem Undisturbed.nextSet_retains : UnbufferedCursor.nextSet.Retains P :=
  .bind maintains_checkClosed fun _ => .bind h.finish fun _ => .bind .get fun _ =>
    .ite (.of_maintains (.pure _)) (.before h.nextSet fun _ _ => ⟨_, _, rfl⟩)

theorem Undisturbed.close (hc : ∀ c, P c → P { c with closed := true }) : close.Maintains P :=
  .bind .get fun _ => .ite (.pure _) <| .bind h.finish fun _ => .modify hc

theorem Undisturbed.fetchOne : fetchOne.Maintains P :=
  .bind maintains_checkClosed fun _ => .bind maintains_checkExecuted fun _ => .bind h.nextRow fun _ =>
    .ite (.bind (.modify fun _ hc => h.rowNumber _ _ hc) fun _ => .pure _) (.pure _)

theorem Undisturbed.skipRows (skip : Nat) : (skipRows skip).Maintains P := by
  induction skip
  case zero      => exact .pure _
  case succ n ih =>
    refine .bind h.nextRow fun row => ?_
    cases row
    case none   => exact .throw _
    case some _ => exact .bind (.modify fun _ hc => h.rowNumber _ _ hc) fun _ => ih

theorem Undisturbed.scroll (value : Int64) (mode : String) : (scroll value mode).Maintains P :=
  .bind maintains_checkClosed fun _ => .bind maintains_checkExecuted fun _ => .bind .get fun _ =>
    .bind (.ofExcept _) fun _ => h.skipRows _

theorem Undisturbed.fetchRows (size : Nat) : (fetchRows size).Maintains P := by
  induction size
  case zero      => exact .pure _
  case succ n ih =>
    refine .bind h.nextRow fun row => ?_
    cases row
    case none   => exact .pure _
    case some _ => exact .bind (.modify fun _ hc => h.rowNumber _ _ hc) fun _ => .bind ih fun _ => .pure _

theorem Undisturbed.fetchRest : fetchRest.Maintains P := by
  intro c hc
  have next {c : UnbufferedCursor} {o : Outcome Error UnbufferedCursor (Option Row)} (hc : P c)
      (ho : onConnection Connection.nextUnbufferedRow c = o) : P o.state := ho ▸ h.nextRow c hc
  fun_induction UnbufferedCursor.fetchRest c
  case case1 ho ih =>
    exact Proc.Maintains.bind (x := fun _ => UnbufferedCursor.fetchRest _) (fun _ _ => ih (h.rowNumber _ _ (next hc ho)))
      (fun _ => .pure _) _ hc
  all_goals
    rename_i ho
    exact next hc ho

theorem Undisturbed.fetch (fetch : Fetch) : (UnbufferedCursor.fetch fetch).Maintains P := by
  cases fetch
  case one  => exact .bind h.fetchOne fun _ => .pure _
  case many =>
    exact .bind maintains_checkClosed fun _ => .bind maintains_checkExecuted fun _ => .bind .get fun _ => h.fetchRows _
  case all  => exact .bind maintains_checkClosed fun _ => .bind maintains_checkExecuted fun _ => h.fetchRest

end Undisturbed

omit [Libraries] in
-- A new result is the one that is described.
theorem Columned.refreshDescription {c : UnbufferedCursor} (h : c.connection.Renewed) : c.refreshDescription.Columned :=
  fun _ => h.described.streaming

theorem execute_maintains (query : Text) (args : Option (List Value)) : (execute query args).Maintains Columned := by
  refine .bind maintains_checkClosed fun _ => .bind .get fun _ => .bind (.ofExcept _) fun sql => ?_
  refine Proc.Establishes.maintains (Q := (·.connection.Renewed)) (.zoom (Connection.query_renewed sql true) fun _ _ h => h)
    (undisturbed_columned.query sql) fun n c h => ?_
  exact Columned.refreshDescription (c := { c with executed := true, rowNumber := 0, rowCount := n }) h

theorem nextSet_maintains : nextSet.Maintains Columned := by
  refine .bind maintains_checkClosed fun _ => .bind undisturbed_columned.finish fun _ => .bind .get fun _ => ?_
  refine .ite (.pure _) <| Proc.Establishes.maintains (Q := (·.connection.Renewed))
    (.zoom (Connection.nextResult_renewed true) fun _ _ h => h)
    undisturbed_columned.nextSet fun n c h => ?_
  exact Columned.refreshDescription (c := { c with rowNumber := 0 }) h

theorem executor_maintaining : executor.Maintaining Columned where
  checkClosed        := maintains_checkClosed
  mogrify _ _        := .bind .get fun _ => .ofExcept _
  execute query args := execute_maintains query args
  setRowCount _      := .modify fun _ h => h

inductive Op
  | execute (query : Text) (args : Option (List Value))
  | executeMany (query : Text) (argsList : List (List Value))
  | close
  | nextSet
  | scroll (value : Int64) (mode : String)
  | fetch (fetch : Fetch)

variable (captures : Text → Option InsertValues)

def after (c : UnbufferedCursor) : Op → UnbufferedCursor
  | .execute query args         => (execute query args c).state
  | .executeMany query argsList => (executeMany captures query argsList c).state
  | .close                      => (close c).state
  | .nextSet                    => (nextSet c).state
  | .scroll value mode          => (scroll value mode c).state
  | .fetch fetch                => (UnbufferedCursor.fetch fetch c).state

def step (c : UnbufferedCursor) (op : Op) : Option UnbufferedCursor :=
  some (after captures c op)

theorem executeMany_maintains (query : Text) (argsList : List (List Value)) :
    (executeMany captures query argsList).Maintains Columned :=
  executor_maintaining.executeMany captures executor_maintaining.insertRows query argsList

theorem after_columned {c : UnbufferedCursor} (h : c.Columned) (op : Op) : (after captures c op).Columned := by
  have hu := undisturbed_columned
  cases op
  case execute query args         => exact execute_maintains query args c h
  case executeMany query argsList => exact executeMany_maintains captures query argsList c h
  case close                      => exact hu.close (fun _ h => h) c h
  case nextSet                    => exact nextSet_maintains c h
  case scroll value mode          => exact hu.scroll value mode c h
  case fetch fetch                => exact hu.fetch fetch c h

end UnbufferedCursor
end MySQL.Tokio
