import MysqlRs.Sql.Escape
import MysqlRs.Tokio.Cursor
import MysqlRs.Tokio.Status

namespace MySQL.Tokio

open ClientError

namespace Executor

variable {σ : Type}

-- The rows that have been filled in, and the statements that have been executed.
structure Log where
  rows       : List Text
  statements : List Text

def onCursor {α : Type} (x : Proc Error σ α) : Proc Error (σ × Log) α :=
  x.zoom Prod.fst fun c s => (c, s.2)

theorem onCursor_leaves {α : Type} (x : Proc Error σ α) : (onCursor x).Leaves Prod.snd :=
  .zoom x fun _ _ => rfl

-- A cursor that keeps a log.
def logged (x : Executor σ) : Executor (σ × Log) where
  checkClosed := onCursor x.checkClosed
  mogrify values args := do
    let valueStr ← onCursor (x.mogrify values args)
    modify fun s => (s.1, { s.2 with rows := s.2.rows ++ [valueStr] })
    return valueStr
  execute query args := do
    modify fun s => (s.1, { s.2 with statements := s.2.statements ++ [query] })
    onCursor (x.execute query args)
  setRowCount rows := onCursor (x.setRowCount rows)

-- The statements are the blocks of a partition of the rows, each with its prefix and postfix.
def Faithful (m : InsertValues) (rows statements : List Text) : Prop :=
  ∃ blocks : List (List Text), blocks.flatten = rows ∧ [] ∉ blocks ∧
    statements = blocks.map fun block => m.prefixText ++ [','].intercalate block ++ m.postfixText

-- The length of the statement that has all of the rows.
def statementLen (m : InsertValues) (rows : List Text) : Nat :=
  m.prefixText.len + (rows.map Text.len).sum + (rows.length - 1) + m.postfixText.len

-- What is executed for the rows that come after those in `sql`.
def statementsAfter (m : InsertValues) (sql : Text) : List Text → List Text
  | []           => [sql ++ m.postfixText]
  | row :: rows =>
    if maxLen < sql.len + row.len + m.postfixText.len + 1 then
      (sql ++ m.postfixText) :: statementsAfter m (m.prefixText ++ [','] ++ row) rows
    else
      statementsAfter m (sql ++ [','] ++ row) rows

section Statements

variable {m : InsertValues} {sql : Text} {rows : List Text}

theorem len_comma : Text.len [','] = 1 := by
  decide

theorem intercalate_cons (row : Text) (rows : List Text) :
    [','].intercalate (row :: rows) = row ++ rows.flatMap (',' :: ·) := by
  induction rows generalizing row
  case nil          => simp [List.intercalate]
  case cons r rs ih =>
    have := ih r
    simp only [List.intercalate, List.intersperse, List.flatten_cons, List.flatMap_cons] at this ⊢
    rw [this]
    simp

-- Where everything fits, there is one statement.
theorem statementsAfter_fits
    (h : sql.len + (rows.map fun row => row.len + 1).sum + m.postfixText.len ≤ maxLen) :
    statementsAfter m sql rows = [sql ++ rows.flatMap (',' :: ·) ++ m.postfixText] := by
  induction rows generalizing sql
  case nil            => simp [statementsAfter]
  case cons row rs ih =>
    rw [List.map_cons, List.sum_cons] at h
    rw [statementsAfter, if_neg (by omega), ih]
    · simp
    · rw [Text.len_append, Text.len_append, len_comma]
      omega

-- A statement that starts with a comma is executed sooner or later.
theorem statementsAfter_comma (h : m.prefixText ++ [','] <+: sql) :
    ∃ s ∈ statementsAfter m sql rows, m.prefixText ++ [','] <+: s := by
  induction rows generalizing sql
  case nil            => exact ⟨_, List.mem_singleton.mpr rfl, h.trans (List.prefix_append ..)⟩
  case cons row rs ih =>
    rw [statementsAfter]
    split_ifs
    · exact ⟨_, List.mem_cons_self, h.trans (List.prefix_append ..)⟩
    · refine ih (h.trans ?_)
      rw [List.append_assoc]
      exact List.prefix_append ..

theorem statementsAfter_overflow
    (h : maxLen < sql.len + (rows.map fun row => row.len + 1).sum + m.postfixText.len) (hr : rows ≠ []) :
    ∃ s ∈ statementsAfter m sql rows, m.prefixText ++ [','] <+: s := by
  induction rows generalizing sql
  case nil            => exact absurd rfl hr
  case cons row rs ih =>
    rw [List.map_cons, List.sum_cons] at h
    rw [statementsAfter]
    split_ifs with hm
    case pos =>
      have ⟨s, hs, hp⟩ := @statementsAfter_comma m _ rs (List.prefix_append (m.prefixText ++ [',']) row)
      exact ⟨s, List.mem_cons_of_mem _ hs, hp⟩
    case neg =>
      cases rs
      case nil =>
        rw [List.map_nil, List.sum_nil] at h
        omega
      case cons =>
        refine ih ?_ (by simp)
        rw [Text.len_append, Text.len_append, len_comma]
        omega

-- A faithful statement goes on with a row, which does not start with a comma.
theorem Faithful.no_comma {statements : List Text} (h : Faithful m rows statements)
    (hr : ∀ row ∈ rows, row.head? = some '(') : ∀ s ∈ statements, ¬m.prefixText ++ [','] <+: s := by
  have ⟨blocks, hb, hne, hs⟩ := h
  intro s hmem hp
  rw [hs] at hmem
  have ⟨block, hblock, hs⟩ := List.mem_map.mp hmem
  cases block
  case nil            => exact hne hblock
  case cons row block =>
    have hrow := hr row (hb ▸ List.mem_flatten.mpr ⟨_, hblock, List.mem_cons_self⟩)
    have ⟨rest, hrow⟩ := List.head?_eq_some_iff.mp hrow
    rw [← hs, intercalate_cons, List.append_assoc, List.prefix_append_right_inj, hrow] at hp
    have := (List.cons_prefix_cons.mp hp).left
    exact absurd this (by decide)

-- What is executed is faithful if and only if it is one statement.
theorem statementsAfter_faithful_iff {row : Text} (hr : ∀ r ∈ row :: rows, r.head? = some '(')
    (hm : m.prefixText.len + row.len + m.postfixText.len ≤ maxLen) :
    Faithful m (row :: rows) (statementsAfter m (m.prefixText ++ row) rows) ↔
      statementLen m (row :: rows) ≤ maxLen := by
  have hsum : (rows.map fun row => row.len + 1).sum = (rows.map Text.len).sum + rows.length := by
    induction rows
    case nil         => rfl
    case cons r rs ih =>
      have := ih fun q hq => hr q (by simp at hq ⊢; tauto)
      simp only [List.map_cons, List.sum_cons, List.length_cons] at this ⊢
      omega
  have hlen : statementLen m (row :: rows) =
      (m.prefixText ++ row).len + (rows.map fun row => row.len + 1).sum + m.postfixText.len := by
    rw [hsum, statementLen, Text.len_append, List.map_cons, List.sum_cons, List.length_cons]
    omega
  rw [hlen]
  constructor
  · intro h
    by_contra hmax
    have hne : rows ≠ [] := by
      rintro rfl
      rw [List.map_nil, List.sum_nil, Text.len_append] at hmax
      omega
    have ⟨s, hs, hp⟩ := statementsAfter_overflow (m := m) (Nat.lt_of_not_le hmax) hne
    exact h.no_comma hr s hs hp
  · intro h
    refine ⟨[row :: rows], by simp, by simp, ?_⟩
    rw [statementsAfter_fits h, List.map_singleton, intercalate_cons, List.append_assoc m.prefixText]

end Statements

section Runs

variable {x : Executor σ} {m : InsertValues} {c c' : σ} {log log' : Log} {n : Int64}
  {argsList : List (List Value)}

theorem onCursor_ok {α : Type} {y : Proc Error σ α} {a : α} (h : onCursor y (c, log) = .ok a (c', log')) :
    y c = .ok a c' ∧ log' = log := by
  rw [onCursor, Proc.zoom_apply] at h
  cases hy : y c
  case ok a c₁ =>
    rw [hy] at h
    cases h
    exact ⟨rfl, rfl⟩
  all_goals
    rw [hy] at h
    exact nomatch h

-- A row is filled in with these arguments.
def Fills (x : Executor σ) (m : InsertValues) (args : List Value) (row : Text) : Prop :=
  ∃ c c', x.mogrify m.values args c = .ok row c'

theorem logged_execute_ok {query : Text} {args : Option (List Value)}
    (h : x.logged.execute query args (c, log) = .ok n (c', log')) :
    log' = { log with statements := log.statements ++ [query] } :=
  (onCursor_ok h).right

theorem logged_mogrify_ok {args : List Value} {row : Text}
    (h : x.logged.mogrify m.values args (c, log) = .ok row (c', log')) :
    Fills x m args row ∧ log' = { log with rows := log.rows ++ [row] } := by
  have ⟨row, ⟨c₁, log₁⟩, hm, h⟩ := Outcome.bind_eq_ok.mp h
  have ⟨hm, hlog⟩ := onCursor_ok hm
  cases h
  exact ⟨⟨c, c₁, hm⟩, by rw [hlog]⟩

-- After the first row.
theorem appendRows_logged {i : Nat} {sql : Text} {rows : Int64}
    (h : x.logged.appendRows m (i + 1) sql rows argsList (c, log) = .ok n (c', log')) :
    ∃ rs, List.Forall₂ (Fills x m) argsList rs ∧
      log' = ⟨log.rows ++ rs, log.statements ++ statementsAfter m sql rs⟩ := by
  induction argsList generalizing i sql rows c log
  case nil =>
    have ⟨_, ⟨c₁, log₁⟩, he, h⟩ := Outcome.bind_eq_ok.mp h
    cases h
    refine ⟨[], .nil, ?_⟩
    rw [logged_execute_ok he, List.append_nil, statementsAfter]
  case cons args argsList ih =>
    have ⟨row, ⟨c₁, log₁⟩, hm, h⟩ := Outcome.bind_eq_ok.mp h
    have ⟨hrow, hlog⟩ := logged_mogrify_ok hm
    simp only [Nat.zero_lt_succ, if_true, Nat.succ_ne_zero, if_false] at h
    split at h
    case isTrue hmax =>
      have ⟨_, ⟨c₂, log₂⟩, he, h⟩ := Outcome.bind_eq_ok.mp h
      have ⟨rs, hrs, hlog'⟩ := ih h
      refine ⟨row :: rs, .cons hrow hrs, ?_⟩
      rw [hlog', logged_execute_ok he, hlog, statementsAfter, if_pos hmax]
      simp
    case isFalse hmax =>
      have ⟨rs, hrs, hlog'⟩ := ih h
      refine ⟨row :: rs, .cons hrow hrs, ?_⟩
      rw [hlog', hlog, statementsAfter, if_neg hmax]
      simp

-- The first row is refused where the statement would be too long with it.
theorem insertRows_logged (hne : argsList ≠ [])
    (h : x.logged.insertRows m argsList (c, ⟨[], []⟩) = .ok n (c', log)) :
    ∃ row rs, List.Forall₂ (Fills x m) argsList (row :: rs) ∧
      m.prefixText.len + row.len + m.postfixText.len ≤ maxLen ∧
      log = ⟨row :: rs, statementsAfter m (m.prefixText ++ row) rs⟩ := by
  have ⟨_, ⟨c₁, log₁⟩, h, hset⟩ := Outcome.bind_eq_ok.mp h
  have ⟨_, ⟨c₂, log₂⟩, hset, hret⟩ := Outcome.bind_eq_ok.mp hset
  cases hret
  obtain rfl := (onCursor_ok hset).right
  cases argsList
  case nil                 => exact absurd rfl hne
  case cons args argsList =>
    have ⟨row, ⟨c₃, log₃⟩, hm, h⟩ := Outcome.bind_eq_ok.mp h
    have ⟨hrow, hlog⟩ := logged_mogrify_ok hm
    simp only [Nat.lt_irrefl, if_false, if_true, Nat.add_zero] at h
    split at h
    case isTrue  => exact nomatch h
    case isFalse hmax =>
      have ⟨rs, hrs, hlog'⟩ := appendRows_logged h
      refine ⟨row, rs, .cons hrow hrs, by omega, ?_⟩
      rw [hlog', hlog]
      rfl

end Runs

-- Apart from the log, a run with a log is the same run.
section Erasure

variable (x : Executor σ) (m : InsertValues)

theorem onCursor_erases {α : Type} (y : Proc Error σ α) : (onCursor y).Erases Prod.fst y := by
  intro s
  rw [onCursor, Proc.zoom_apply]
  cases y s.1 <;> rfl

theorem logged_execute (query : Text) (args : Option (List Value)) :
    (x.logged.execute query args).Erases Prod.fst (x.execute query args) :=
  .skip (fun _ => ⟨_, _, rfl, rfl⟩) fun _ => onCursor_erases _

theorem logged_mogrify (values : Text) (args : List Value) :
    (x.logged.mogrify values args).Erases Prod.fst (x.mogrify values args) := by
  intro s
  have h := onCursor_erases (x.mogrify values args) s
  change ((onCursor (x.mogrify values args) s).bind _).mapState _ = _
  rw [← h]
  cases onCursor (x.mogrify values args) s <;> rfl

theorem logged_appendRows (i : Nat) (sql : Text) (rows : Int64) (argsList : List (List Value)) :
    (x.logged.appendRows m i sql rows argsList).Erases Prod.fst (x.appendRows m i sql rows argsList) := by
  induction argsList generalizing i sql rows
  case nil              => exact .bind (x.logged_execute _ _) fun _ => .pure _
  case cons _ argsList ih =>
    refine .bind (x.logged_mogrify _ _) fun row => ?_
    have next (r : Text × Int64) :
        (x.logged.appendRows m (i + 1) ((if 0 < i then r.1 ++ [','] else r.1) ++ row) r.2 argsList).Erases
          Prod.fst (x.appendRows m (i + 1) ((if 0 < i then r.1 ++ [','] else r.1) ++ row) r.2 argsList) :=
      ih _ _ _
    refine .ite (.ite ?_ ?_) ?_
    · exact .bind (.throw _) next
    · exact .bind (x.logged_execute _ _) fun _ => .bind (.pure _) next
    · exact .bind (.pure _) next

theorem logged_insertRows (argsList : List (List Value)) :
    (x.logged.insertRows m argsList).Erases Prod.fst (x.insertRows m argsList) :=
  .bind (x.logged_appendRows m _ _ _ argsList) fun _ => .bind (onCursor_erases _) fun _ => .pure _

theorem logged_executeEach (query : Text) (total : Int64) (argsList : List (List Value)) :
    (x.logged.executeEach query total argsList).Erases Prod.fst (x.executeEach query total argsList) := by
  induction argsList generalizing total
  case nil         => exact .pure _
  case cons _ _ ih => exact .bind (x.logged_execute _ _) fun _ => ih _

variable {x}

theorem logged_executeMany (captures : Text → Option InsertValues)
    {bulk : InsertValues → List (List Value) → Proc Error σ Int64}
    {bulk' : InsertValues → List (List Value) → Proc Error (σ × Log) Int64}
    (hb : ∀ m argsList, (bulk' m argsList).Erases Prod.fst (bulk m argsList)) (query : Text)
    (argsList : List (List Value)) :
    (x.logged.executeMany captures bulk' query argsList).Erases Prod.fst
      (x.executeMany captures bulk query argsList) := by
  refine .bind (onCursor_erases _) fun _ => .ite (.pure _) ?_
  cases captures query
  case some m => exact hb m argsList
  case none   =>
    exact .bind (x.logged_executeEach _ _ _) fun _ => .bind (onCursor_erases _) fun _ => .pure _

end Erasure

section Groups

variable {x : Executor σ} {m : InsertValues} {c c' : σ} {log : Log} {n : Int64}
  {argsList : List (List Value)}

-- `execute_many` comes to inserting the rows.
theorem executeMany_logged {captures : Text → Option InsertValues} {query : Text}
    {bulk : InsertValues → List (List Value) → Proc Error (σ × Log) Int64}
    (hm : captures query = some m) (hne : argsList ≠ [])
    (h : x.logged.executeMany captures bulk query argsList (c, ⟨[], []⟩) = .ok n (c', log)) :
    ∃ c₁, bulk m argsList (c₁, ⟨[], []⟩) = .ok n (c', log) := by
  have ⟨_, ⟨c₁, log₁⟩, hc, h⟩ := Outcome.bind_eq_ok.mp h
  obtain rfl := (onCursor_ok hc).right
  rw [if_neg (by simpa using hne), hm] at h
  exact ⟨c₁, h⟩

-- What is executed is faithful if and only if one statement has room for all of the rows.
def FaithfulIff (x : Executor σ) (m : InsertValues) (argsList : List (List Value)) (log : Log) : Prop :=
  List.Forall₂ (Fills x m) argsList log.rows ∧
    (Faithful m log.rows log.statements ↔ statementLen m log.rows ≤ maxLen)

theorem heads_of_fills {rows : List Text} (hr : ∀ args row, Fills x m args row → row.head? = some '(')
    (h : List.Forall₂ (Fills x m) argsList rows) : ∀ row ∈ rows, row.head? = some '(' := by
  induction h
  case nil         => exact fun _ hr => nomatch hr
  case cons h _ ih => exact List.forall_mem_cons.mpr ⟨hr _ _ h, ih⟩

theorem insertRows_faithful (hr : ∀ args row, Fills x m args row → row.head? = some '(') (hne : argsList ≠ [])
    (h : x.logged.insertRows m argsList (c, ⟨[], []⟩) = .ok n (c', log)) : FaithfulIff x m argsList log := by
  have ⟨row, rs, hrows, hmax, hlog⟩ := insertRows_logged hne h
  rw [hlog]
  exact ⟨hrows, statementsAfter_faithful_iff (heads_of_fills hr hrows) hmax⟩

end Groups
end Executor

variable [Libraries]

omit [Libraries] in
theorem substitute_cons {d : Char} (hd : d ≠ '%') (rest : Text) (args : List Text) :
    Mogrify.substitute (d :: rest) args = (Mogrify.substitute rest args).map fun r => (d :: r.1, r.2) := by
  rw [Mogrify.substitute]
  · cases Mogrify.substitute rest args <;> rfl
  all_goals
    rintro _ h
    exact absurd h hd

omit [Libraries] in
theorem mogrifyQuery_cons {d : Char} (hd : d ≠ '%') (rest : Text) (args : List Value)
    (literal : Value → Except Error Text) :
    mogrifyQuery (d :: rest) (some args) literal = (mogrifyQuery rest (some args) literal).map (d :: ·) := by
  simp only [mogrifyQuery, substitute_cons hd]
  cases args.mapM literal
  case error      => rfl
  case ok escaped =>
    cases hs : Mogrify.substitute rest escaped
    case error => simp only [bind, Except.bind, hs, Except.map]
    case ok r  =>
      simp only [bind, Except.bind, hs, Except.map]
      split_ifs <;> rfl

-- The rows start as the values do.
theorem mogrify_head {c : Connection} {values : Text} {args : List Value} {row : Text}
    (hv : Placeholders values) (h : c.mogrify values (some args) = .ok row) : row.head? = some '(' := by
  have ⟨fields, _, _, hv⟩ := hv
  have hv : ∃ rest, values = '(' :: rest := ⟨_, by rw [hv, List.append_assoc]; rfl⟩
  have ⟨rest, hv⟩ := hv
  rw [hv, Connection.mogrify, mogrifyQuery_cons (by decide)] at h
  cases hr : mogrifyQuery rest (some args) c.literal
  all_goals
    rw [hr] at h
    cases h
  rfl

open Executor Command Server

namespace Cursor

-- A statement that is answered by an OK packet.
theorem execute_ok {c : Cursor} (hr : c.connection.Ready) (hc : c.closed = false) (hn : c.hasNext = false)
    {d : Ok} {pieces : List Bytes} {sql : Text} (hs : hasMoreResults d.status = false)
    (ha : c.connection.answers.head? = some (pieces.map .ok))
    (hp : Cut c.connection.inner.packetStream.maxAllowedPacket (answerSeq COM_QUERY sql.asBytes) [d.payload]
      pieces) :
    ∃ n c', execute sql none c = .ok n c' ∧ Connection.Follows c.connection c'.connection ∧
      c'.closed = false ∧ c'.hasNext = false := by
  have ⟨n, connection, hq, hf, _⟩ := hr.query_ok hs ha hp
  have hm : c.connection.mogrify sql none = .ok sql := rfl
  have hx := Usable.execute_ok ⟨hc, hn⟩ hm hq
  refine ⟨n, _, hx, ?_, ?_, ?_⟩
  · rw [refreshResult_connection]
    exact hf
  · rw [refreshResult_closed]
    exact hc
  · have hfin := hf.ready.result
    cases hres : connection.inner.result
    case none   =>
      have : (c.setConnection connection).refreshResult = c.setConnection connection := by
        simp [refreshResult, setConnection, Connection.result, hres]
      rw [this]
      exact hn
    case some r =>
      simp [refreshResult, setConnection, Connection.result, hres, hasNext]
      exact (hfin r hres).right

-- `execute_many`, with a log.
def logMany (captures : Text → Option InsertValues) (query : Text) (argsList : List (List Value)) :
    Proc Error (Cursor × Log) Int64 :=
  executor.logged.executeMany captures (doExecuteMany executor.logged) query argsList

theorem logMany_erases (captures : Text → Option InsertValues) (query : Text) (argsList : List (List Value)) :
    (logMany captures query argsList).Erases Prod.fst (executeMany captures query argsList) :=
  logged_executeMany captures (fun m argsList => .bind (onCursor_erases _) fun _ => logged_insertRows _ m argsList)
    query argsList

theorem fills_head {m : InsertValues} (hv : Placeholders m.values) (args : List Value) (row : Text)
    (h : Fills executor m args row) : row.head? = some '(' := by
  have ⟨_, _, h⟩ := h
  exact mogrify_head hv (Proc.ofExcept_eq_ok.mp h).left

end Cursor

namespace UnbufferedCursor

def logMany (captures : Text → Option InsertValues) (query : Text) (argsList : List (List Value)) :
    Proc Error (UnbufferedCursor × Log) Int64 :=
  executor.logged.executeMany captures executor.logged.insertRows query argsList

theorem logMany_erases (captures : Text → Option InsertValues) (query : Text) (argsList : List (List Value)) :
    (logMany captures query argsList).Erases Prod.fst (executeMany captures query argsList) :=
  logged_executeMany captures (logged_insertRows _) query argsList

theorem fills_head {m : InsertValues} (hv : Placeholders m.values) (args : List Value) (row : Text)
    (h : Fills executor m args row) : row.head? = some '(' := by
  have ⟨_, _, h⟩ := h
  exact mogrify_head hv (Proc.ofExcept_eq_ok.mp h).left

end UnbufferedCursor

section ExecuteMany

variable {captures : Text → Option InsertValues} {query : Text} {m : InsertValues} {argsList : List (List Value)}

theorem Cursor.logMany_faithful (hm : captures query = some m) (hv : Placeholders m.values)
    (hne : argsList ≠ []) {c c' : Cursor} {n : Int64}
    (h : Cursor.executeMany captures query argsList c = .ok n c') :
    ∃ log, Cursor.logMany captures query argsList (c, ⟨[], []⟩) = .ok n (c', log) ∧
      FaithfulIff Cursor.executor m argsList log := by
  have ⟨⟨_, log⟩, hl, hc⟩ := (Cursor.logMany_erases captures query argsList).exists_ok (s := (c, ⟨[], []⟩)) h
  obtain rfl := hc
  have ⟨c₁, hb⟩ := executeMany_logged hm hne hl
  have ⟨_, ⟨c₂, log₂⟩, hcheck, hb⟩ := Outcome.bind_eq_ok.mp hb
  obtain rfl := (onCursor_ok hcheck).right
  exact ⟨log, hl, insertRows_faithful (Cursor.fills_head hv) hne hb⟩

theorem UnbufferedCursor.logMany_faithful (hm : captures query = some m) (hv : Placeholders m.values)
    (hne : argsList ≠ []) {c c' : UnbufferedCursor} {n : Int64}
    (h : UnbufferedCursor.executeMany captures query argsList c = .ok n c') :
    ∃ log, UnbufferedCursor.logMany captures query argsList (c, ⟨[], []⟩) = .ok n (c', log) ∧
      FaithfulIff UnbufferedCursor.executor m argsList log := by
  have ⟨⟨_, log⟩, hl, hc⟩ :=
    (UnbufferedCursor.logMany_erases captures query argsList).exists_ok (s := (c, ⟨[], []⟩)) h
  obtain rfl := hc
  have ⟨c₁, hb⟩ := executeMany_logged hm hne hl
  exact ⟨log, hl, insertRows_faithful (UnbufferedCursor.fills_head hv) hne hb⟩

-- A run that succeeds executes the rows as they are if and only if one statement has room for all of them:
-- every further statement starts with a comma.
theorem executeMany_faithful_iff (hm : captures query = some m) (hv : Placeholders m.values)
    (hne : argsList ≠ []) :
    (∀ (c c' : Cursor) (n : Int64), Cursor.executeMany captures query argsList c = .ok n c' →
      ∃ log, Cursor.logMany captures query argsList (c, ⟨[], []⟩) = .ok n (c', log) ∧
        FaithfulIff Cursor.executor m argsList log) ∧
    ∀ (c c' : UnbufferedCursor) (n : Int64),
      UnbufferedCursor.executeMany captures query argsList c = .ok n c' →
      ∃ log, UnbufferedCursor.logMany captures query argsList (c, ⟨[], []⟩) = .ok n (c', log) ∧
        FaithfulIff UnbufferedCursor.executor m argsList log :=
  ⟨fun _ _ _ h => Cursor.logMany_faithful hm hv hne h,
    fun _ _ _ h => UnbufferedCursor.logMany_faithful hm hv hne h⟩

end ExecuteMany

section Steps

variable {σ : Type} {x : Executor σ} {m : InsertValues} {c c₁ c₂ : σ} {sql row : Text} {rows n : Int64}
  {args : List Value} {argsList : List (List Value)} {i : Nat}

omit [Libraries] in
theorem appendRows_nil (hx : x.execute (sql ++ m.postfixText) none c = .ok n c₁) :
    x.appendRows m i sql rows [] c = .ok (rows + n) c₁ := by
  rw [appendRows, Proc.bind_apply, hx]
  rfl

omit [Libraries] in
theorem appendRows_first (hm : x.mogrify m.values args c = .ok row c)
    (hmax : sql.len + row.len + m.postfixText.len ≤ maxLen) :
    x.appendRows m 0 sql rows (args :: argsList) c = x.appendRows m 1 (sql ++ row) rows argsList c := by
  rw [appendRows, Proc.bind_apply, hm]
  simp only [Outcome.bind_ok, Nat.lt_irrefl, if_false, Nat.add_zero, if_neg (Nat.not_lt.mpr hmax)]
  rfl

omit [Libraries] in
theorem appendRows_joined (hm : x.mogrify m.values args c = .ok row c)
    (hmax : sql.len + row.len + m.postfixText.len + 1 ≤ maxLen) :
    x.appendRows m (i + 1) sql rows (args :: argsList) c =
      x.appendRows m (i + 2) (sql ++ [','] ++ row) rows argsList c := by
  rw [appendRows, Proc.bind_apply, hm]
  simp only [Outcome.bind_ok, Nat.zero_lt_succ, if_true, if_neg (Nat.not_lt.mpr hmax)]
  rfl

omit [Libraries] in
theorem appendRows_flushed (hm : x.mogrify m.values args c = .ok row c)
    (hmax : maxLen < sql.len + row.len + m.postfixText.len + 1)
    (hx : x.execute (sql ++ m.postfixText) none c = .ok n c₁) :
    x.appendRows m (i + 1) sql rows (args :: argsList) c =
      x.appendRows m (i + 2) (m.prefixText ++ [','] ++ row) (rows + n) argsList c₁ := by
  rw [appendRows, Proc.bind_apply, hm]
  simp only [Outcome.bind_ok, Nat.zero_lt_succ, if_true, if_pos hmax, Nat.succ_ne_zero, if_false]
  simp only [Proc.bind_apply, hx]
  rfl

end Steps

section Examples

open Libraries

def bulkQuery : Text :=
  "INSERT INTO t VALUES (%s)".toList

def bulkInsert : InsertValues where
  prefixText  := "INSERT INTO t VALUES ".toList
  values      := "(%s)".toList
  postfixText := []

def bulkCaptures (query : Text) : Option InsertValues :=
  if query = bulkQuery then some bulkInsert else none

-- Two rows with a string of `k` characters each.
def twoRows (k : Nat) : List (List Value) :=
  [[.string (List.replicate k 'x')], [.string (List.replicate k 'x')]]

def rowText (k : Nat) : Text :=
  "('".toList ++ List.replicate k 'x' ++ "')".toList

omit [Libraries] in
theorem bulkCaptures_query : bulkCaptures bulkQuery = some bulkInsert :=
  if_pos rfl

omit [Libraries] in
theorem bulkInsert_placeholders : Placeholders bulkInsert.values :=
  ⟨[([], 's', [])], by simp, by simp, rfl⟩

omit [Libraries] in
theorem rowText_len (k : Nat) : (rowText k).len = k + 4 := by
  have hx : Text.len (List.replicate k 'x') = k := by
    induction k
    case zero      => rfl
    case succ k ih =>
      rw [List.replicate_succ, ← List.singleton_append, Text.len_append, ih, show Text.len ['x'] = 1 by decide]
      omega
  rw [rowText, Text.len_append, Text.len_append, hx, show Text.len "('".toList = 2 by decide,
    show Text.len "')".toList = 2 by decide]
  omega

theorem mogrify_rowText (c : Connection) (k : Nat) :
    c.mogrify bulkInsert.values (some [.string (List.replicate k 'x')]) = .ok (rowText k) := by
  have escape : c.inner.escapeString (List.replicate k 'x') = List.replicate k 'x' := by
    rw [MySQL.Connection.escapeString]
    split_ifs
    · simp [Text.replace, List.flatMap_replicate]
    · simp [escapeString_eq, List.flatMap_replicate, show escapeChar 'x' = ['x'] by decide]
  have hlit : c.literal (.string (List.replicate k 'x')) = .ok (quoted (List.replicate k 'x')) := by
    rw [Connection.literal, MySQL.Connection.literal, escape]
  have hm : [Value.string (List.replicate k 'x')].mapM c.literal = .ok [quoted (List.replicate k 'x')] := by
    rw [List.mapM_cons, hlit]
    rfl
  have hs : Mogrify.substitute bulkInsert.values [quoted (List.replicate k 'x')] = .ok (rowText k, []) := by
    have hr : rowText k = '(' :: (quoted (List.replicate k 'x') ++ [')']) := by
      rw [rowText, show "('".toList = ['(', '\''] from rfl, show "')".toList = ['\'', ')'] from rfl]
      simp [quoted]
    rw [hr]
    rfl
  simp only [Connection.mogrify, mogrifyQuery, hm]
  simp only [bind, Except.bind, hs]
  rfl

theorem executor_mogrify (k : Nat) (c : Cursor) :
    Cursor.executor.mogrify bulkInsert.values [.string (List.replicate k 'x')] c = .ok (rowText k) c := by
  simp [Cursor.executor, mogrify_rowText]

-- A server that accepts the statements.
def accepting (sqls : List Text) : Connection :=
  Connection.established (sqls.map fun sql => (Exchange.inTwo sql (.ok done) 1).pieces.map .ok)

def statement (rows : Text) : Text :=
  bulkInsert.prefixText ++ rows ++ bulkInsert.postfixText

theorem accepting_execute {c : Cursor} (hr : c.connection.Ready) (hc : c.closed = false) (hn : c.hasNext = false)
    {sql : Text} {sqls : List Text} (ha : c.connection.answers = (accepting (sql :: sqls)).answers)
    (hm : c.connection.inner.packetStream.maxAllowedPacket = 16 * 1024 * 1024) :
    ∃ n c', Cursor.execute sql none c = .ok n c' ∧ c'.connection.Ready ∧ c'.closed = false ∧ c'.hasNext = false ∧
      c'.connection.answers = (accepting sqls).answers ∧
      c'.connection.inner.packetStream.maxAllowedPacket = 16 * 1024 * 1024 := by
  have ho : (Exchange.inTwo sql (.ok done) 1).Orderly (16 * 1024 * 1024) :=
    Exchange.inTwo_orderly 1 (by decide) (by decide) (by decide) (by decide)
  have hp := ho.cut
  rw [← hm] at hp
  have ⟨n, c', hx, hf, hc', hn'⟩ := Cursor.execute_ok hr hc hn rfl (by rw [ha]; rfl) hp
  exact ⟨n, c', hx, hf.ready, hc', hn', by rw [hf.answers, ha]; rfl, by rw [hf.alike.max, hm]⟩

def oneStatement (k : Nat) : Cursor :=
  .new (accepting [statement (rowText k ++ [','] ++ rowText k)])

def twoStatements (k : Nat) : Cursor :=
  .new (accepting [statement (rowText k), statement (',' :: rowText k)])

section Runs

variable {k : Nat} {c c₁ c₂ : Cursor} {n₁ n₂ : Int64}

theorem insertRows_unsplit (hm : 2 * k + 30 ≤ maxLen)
    (hx : Cursor.execute (statement (rowText k ++ [','] ++ rowText k)) none c = .ok n₁ c₁) :
    Cursor.executor.insertRows bulkInsert (twoRows k) c = .ok (0 + n₁) { c₁ with rowCount := 0 + n₁ } := by
  have hp : bulkInsert.prefixText.len = 21 := by decide
  have hq : bulkInsert.postfixText.len = 0 := rfl
  have hl : (bulkInsert.prefixText ++ rowText k).len = k + 25 := by
    rw [Text.len_append, hp, rowText_len]
    omega
  have hr : Cursor.executor.appendRows bulkInsert 0 bulkInsert.prefixText 0 (twoRows k) c = .ok (0 + n₁) c₁ := by
    rw [twoRows, appendRows_first (executor_mogrify k c) (by rw [hp, hq, rowText_len]; omega),
      appendRows_joined (executor_mogrify k c) (by rw [hl, hq, rowText_len]; omega)]
    refine appendRows_nil ?_
    rw [List.append_assoc bulkInsert.prefixText, List.append_assoc bulkInsert.prefixText]
    exact hx
  rw [insertRows, Proc.bind_apply, hr]
  rfl

theorem insertRows_split {k₁ k₂ : Nat} (hm : maxLen < k₁ + k₂ + 30) (hk : k₁ + 25 ≤ maxLen)
    (hx : Cursor.execute (statement (rowText k₁)) none c = .ok n₁ c₁)
    (hy : Cursor.execute (statement (',' :: rowText k₂)) none c₁ = .ok n₂ c₂) :
    Cursor.executor.insertRows bulkInsert
        [[.string (List.replicate k₁ 'x')], [.string (List.replicate k₂ 'x')]] c =
      .ok (0 + n₁ + n₂) { c₂ with rowCount := 0 + n₁ + n₂ } := by
  have hp : bulkInsert.prefixText.len = 21 := by decide
  have hq : bulkInsert.postfixText.len = 0 := rfl
  have hl : (bulkInsert.prefixText ++ rowText k₁).len = k₁ + 25 := by
    rw [Text.len_append, hp, rowText_len]
    omega
  have hr : Cursor.executor.appendRows bulkInsert 0 bulkInsert.prefixText 0
      [[.string (List.replicate k₁ 'x')], [.string (List.replicate k₂ 'x')]] c = .ok (0 + n₁ + n₂) c₂ := by
    rw [appendRows_first (executor_mogrify k₁ c) (by rw [hp, hq, rowText_len]; omega),
      appendRows_flushed (executor_mogrify k₂ c) (by rw [hl, hq, rowText_len]; omega) hx]
    refine appendRows_nil ?_
    rw [List.append_assoc bulkInsert.prefixText]
    exact hy
  rw [insertRows, Proc.bind_apply, hr]
  rfl

theorem executeMany_bulk {argsList : List (List Value)} (hne : argsList ≠ []) (hc : c.closed = false)
    (hr : Cursor.executor.insertRows bulkInsert argsList c = .ok n₁ c₁) :
    Cursor.executeMany bulkCaptures bulkQuery argsList c = .ok n₁ c₁ := by
  have hcheck : Cursor.executor.checkClosed c = .ok () c := by
    simp [Cursor.executor, Cursor.checkClosed, hc]
  rw [Cursor.executeMany, executeMany, Proc.bind_apply, hcheck, bulkCaptures_query, Outcome.bind_ok,
    if_neg (by simpa using hne)]
  change (Cursor.executor.checkClosed c).bind _ = _
  rw [hcheck]
  exact hr

theorem rows_filled {ks : List Nat} {rows : List Text}
    (h : List.Forall₂ (Fills Cursor.executor bulkInsert) (ks.map fun k => [.string (List.replicate k 'x')]) rows) :
    rows = ks.map rowText := by
  induction ks generalizing rows
  case nil =>
    cases h
    rfl
  case cons k ks ih =>
    cases h
    case cons row rows hrow h =>
      have ⟨c, _, hrow⟩ := hrow
      rw [executor_mogrify] at hrow
      rw [ih h, (Outcome.ok.inj hrow).left.symm, List.map_cons]

theorem twoRows_filled {rows : List Text}
    (h : List.Forall₂ (Fills Cursor.executor bulkInsert) (twoRows k) rows) : rows = [rowText k, rowText k] :=
  @rows_filled _ [k, k] _ h

end Runs

-- Where both rows fit, there is one statement with both of them.
omit [Libraries] in
theorem executeMany_faithful_twoRows :
    let := utf8Only
    ∃ n c' log,
      Cursor.logMany bulkCaptures bulkQuery (twoRows 1) (oneStatement 1, ⟨[], []⟩) = .ok n (c', log) ∧
        Faithful bulkInsert log.rows log.statements := by
  let := utf8Only
  have ⟨n, c', hx, _⟩ := accepting_execute (c := oneStatement 1) (Connection.established_ready _) rfl rfl rfl rfl
  have hrun := executeMany_bulk (List.cons_ne_nil _ _) rfl (insertRows_unsplit (k := 1) (by decide) hx)
  have ⟨log, hl, hrows, hiff⟩ :=
    (executeMany_faithful_iff bulkCaptures_query bulkInsert_placeholders (List.cons_ne_nil _ _)).left _ _ _ hrun
  refine ⟨_, _, log, hl, hiff.mpr ?_⟩
  rw [twoRows_filled hrows]
  decide

-- The second statement has a comma right after the prefix.
omit [Libraries] in
theorem executeMany_comma :
    let := utf8Only
    ∃ n c' log, Cursor.executeMany bulkCaptures bulkQuery (twoRows 600000) (twoStatements 600000) = .ok n c' ∧
      Cursor.logMany bulkCaptures bulkQuery (twoRows 600000) (twoStatements 600000, ⟨[], []⟩) = .ok n (c', log) ∧
        ¬Faithful bulkInsert log.rows log.statements := by
  let := utf8Only
  have ⟨n₁, c₁, hx, hr, hc, hn, ha, hm⟩ :=
    accepting_execute (c := twoStatements 600000) (Connection.established_ready _) rfl rfl rfl rfl
  have ⟨n₂, c₂, hy, _⟩ := accepting_execute hr hc hn ha hm
  have hrun := executeMany_bulk (List.cons_ne_nil _ _) rfl (insertRows_split (by decide) (by decide) hx hy)
  have ⟨log, hl, hrows, hiff⟩ :=
    Cursor.logMany_faithful bulkCaptures_query bulkInsert_placeholders (List.cons_ne_nil _ _) hrun
  refine ⟨_, _, log, hrun, hl, fun h => ?_⟩
  have hlen := hiff.mp h
  rw [twoRows_filled hrows, statementLen, List.map_cons, List.map_singleton, rowText_len] at hlen
  exact absurd hlen (by decide)

end Examples
end MySQL.Tokio
