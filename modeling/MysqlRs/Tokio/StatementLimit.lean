import MysqlRs.Tokio.ExecuteMany

namespace MySQL.Tokio
namespace Executor

variable {σ : Type}

-- The statement that has this row alone is not too long.
def Fits (m : InsertValues) (row : Text) : Prop :=
  m.prefixText.len + row.len + m.postfixText.len ≤ maxLen

-- As a row after the first, it still fits with the comma that is put before it.
def FitsComma (m : InsertValues) (row : Text) : Prop :=
  m.prefixText.len + 1 + row.len + m.postfixText.len ≤ maxLen

-- No statement is too long, and a row that does not fit is refused.
structure KeepsLimit (m : InsertValues) (o : Outcome Error (σ × Log) Int64) : Prop where
  statements : ∀ s ∈ o.state.2.statements, s.len ≤ maxLen
  rows       : (∃ row ∈ o.state.2.rows, ¬Fits m row) → ∃ s, o = .error rowTooLong s

section Statements

variable {m : InsertValues} {sql row : Text} {rows : List Text}

theorem FitsComma.fits (h : FitsComma m row) : Fits m row := by
  rw [FitsComma] at h
  rw [Fits]
  omega

theorem statementsAfter_le (hs : sql.len + m.postfixText.len ≤ maxLen) (hr : ∀ row ∈ rows, FitsComma m row) :
    ∀ s ∈ statementsAfter m sql rows, s.len ≤ maxLen := by
  induction rows generalizing sql
  case nil =>
    intro s h
    rw [List.mem_singleton.mp h, Text.len_append]
    exact hs
  case cons row rs ih =>
    have ⟨hrow, hr⟩ := List.forall_mem_cons.mp hr
    rw [FitsComma] at hrow
    rw [statementsAfter]
    split_ifs with hm
    · refine List.forall_mem_cons.mpr ⟨?_, ih ?_ hr⟩
      · rw [Text.len_append]
        exact hs
      · rw [Text.len_append, Text.len_append, len_comma]
        omega
    · refine ih ?_ hr
      rw [Text.len_append, Text.len_append, len_comma]
      omega

-- What has been put together is part of a statement.
theorem statementsAfter_ge : ∃ s ∈ statementsAfter m sql rows, sql.len + m.postfixText.len ≤ s.len := by
  induction rows generalizing sql
  case nil            => exact ⟨_, List.mem_singleton.mpr rfl, by rw [Text.len_append]⟩
  case cons row rs ih =>
    rw [statementsAfter]
    split_ifs
    · exact ⟨_, List.mem_cons_self, by rw [Text.len_append]⟩
    · obtain ⟨s, hs, hl⟩ := @ih (sql ++ [','] ++ row)
      rw [Text.len_append, Text.len_append] at hl
      exact ⟨s, hs, by omega⟩

-- A row that is too long with the comma is not measured again once a statement has been started anew.
theorem statementsAfter_gt (hs : m.prefixText.len ≤ sql.len) (hr : ∃ row ∈ rows, ¬FitsComma m row) :
    ∃ s ∈ statementsAfter m sql rows, maxLen < s.len := by
  induction rows generalizing sql
  case nil =>
    obtain ⟨_, hmem, _⟩ := hr
    cases hmem
  case cons row rs ih =>
    have hp : m.prefixText.len ≤ (m.prefixText ++ [','] ++ row).len := by
      rw [Text.len_append, Text.len_append]
      omega
    rw [statementsAfter]
    by_cases hrow : FitsComma m row
    case pos =>
      have hr : ∃ row ∈ rs, ¬FitsComma m row := by simpa [hrow] using hr
      split_ifs
      · obtain ⟨s, hs, hl⟩ := ih hp hr
        exact ⟨s, List.mem_cons_of_mem _ hs, hl⟩
      · refine ih ?_ hr
        rw [Text.len_append, Text.len_append]
        omega
    case neg =>
      rw [FitsComma] at hrow
      rw [if_pos (by omega)]
      obtain ⟨s, hs, hl⟩ := @statementsAfter_ge m (m.prefixText ++ [','] ++ row) rs
      rw [Text.len_append, Text.len_append, len_comma] at hl
      exact ⟨s, List.mem_cons_of_mem _ hs, by omega⟩

end Statements

section Outcomes

variable {x : Executor σ} {m : InsertValues} {c : σ} {log : Log} {argsList : List (List Value)}

theorem logged_execute_log (query : Text) (args : Option (List Value)) :
    (x.logged.execute query args (c, log)).state.2 =
      { log with statements := log.statements ++ [query] } :=
  onCursor_leaves (x.execute query args) _

-- A row is in the log as soon as it has been filled in.
theorem logged_mogrify_log (values : Text) (args : List Value) :
    (∃ row c', x.logged.mogrify values args (c, log) = .ok row (c', { log with rows := log.rows ++ [row] })) ∨
      (x.logged.mogrify values args (c, log)).state.2 = log ∧
        ∀ row s, x.logged.mogrify values args (c, log) ≠ .ok row s := by
  have h := onCursor_leaves (x.mogrify values args) (c, log)
  change (∃ row c', (onCursor (x.mogrify values args) (c, log)).bind _ = _) ∨
    ((onCursor (x.mogrify values args) (c, log)).bind _).state.2 = _ ∧ _
  cases hy : onCursor (x.mogrify values args) (c, log)
  case ok row s =>
    rw [hy] at h
    left
    refine ⟨row, s.1, ?_⟩
    rw [Outcome.bind_ok]
    simp only [Proc.bind_apply, Proc.modify_apply, Outcome.bind_ok]
    rw [show s.2 = log from h]
    rfl
  all_goals
    rw [hy] at h
    right
    refine ⟨h, ?_⟩
    intro row s hs
    change (onCursor (x.mogrify values args) (c, log)).bind _ = _ at hs
    rw [hy] at hs
    cases hs

theorem state_bind_of_not_ok {ε σ α β : Type} {o : Outcome ε σ α} (h : ∀ a s, o ≠ .ok a s) (f : α → Proc ε σ β) :
    (o.bind f).state = o.state := by
  cases o
  case ok a s => exact absurd rfl (h a s)
  all_goals rfl

-- After the first row, whatever comes of it.
theorem appendRows_log {i : Nat} {sql : Text} {rows : Int64} :
    ∃ rs ss, ss <+: statementsAfter m sql rs ∧
      (x.logged.appendRows m (i + 1) sql rows argsList (c, log)).state.2 =
        ⟨log.rows ++ rs, log.statements ++ ss⟩ := by
  induction argsList generalizing i sql rows c log
  case nil =>
    have h := @logged_execute_log _ x c log (sql ++ m.postfixText) none
    refine ⟨[], [sql ++ m.postfixText], List.prefix_rfl, ?_⟩
    rw [List.append_nil, ← h, appendRows, Proc.bind_apply]
    cases x.logged.execute (sql ++ m.postfixText) none (c, log) <;> rfl
  case cons args argsList ih =>
    rw [appendRows, Proc.bind_apply]
    obtain ⟨row, c₁, hrow⟩ | ⟨hlog, hrow⟩ := @logged_mogrify_log _ x c log m.values args
    case inr =>
      refine ⟨[], [], List.nil_prefix, ?_⟩
      rw [state_bind_of_not_ok hrow, hlog, List.append_nil, List.append_nil]
    case inl =>
      rw [hrow]
      simp only [Outcome.bind_ok, Nat.zero_lt_succ, if_true, Nat.succ_ne_zero, if_false]
      split_ifs with hmax
      case pos =>
        have h := @logged_execute_log _ x c₁ { log with rows := log.rows ++ [row] } (sql ++ m.postfixText) none
        simp only [Proc.bind_apply]
        cases hx : x.logged.execute (sql ++ m.postfixText) none (c₁, { log with rows := log.rows ++ [row] })
        case ok n s =>
          obtain ⟨c₂, log₂⟩ := s
          rw [hx] at h
          obtain rfl : log₂ = _ := h
          simp only [Outcome.bind_ok, Proc.bind_apply, Proc.pure_apply]
          obtain ⟨rs, ss, hss, hs⟩ := @ih c₂ ⟨log.rows ++ [row], log.statements ++ [sql ++ m.postfixText]⟩ (i + 1)
            (m.prefixText ++ [','] ++ row) (rows + n)
          refine ⟨row :: rs, (sql ++ m.postfixText) :: ss, ?_, ?_⟩
          · rw [statementsAfter, if_pos hmax]
            exact List.cons_prefix_cons.mpr ⟨rfl, hss⟩
          · rw [hs]
            simp
        all_goals
          rw [hx] at h
          refine ⟨[row], [sql ++ m.postfixText], ?_, h⟩
          rw [statementsAfter, if_pos hmax]
          exact List.cons_prefix_cons.mpr ⟨rfl, List.nil_prefix⟩
      case neg =>
        simp only [Proc.bind_apply, Proc.pure_apply, Outcome.bind_ok]
        obtain ⟨rs, ss, hss, hs⟩ := @ih c₁ ⟨log.rows ++ [row], log.statements⟩ (i + 1) (sql ++ [','] ++ row) rows
        refine ⟨row :: rs, ss, ?_, ?_⟩
        · rw [statementsAfter, if_neg hmax]
          exact hss
        · rw [hs]
          simp

-- What may come of inserting the rows: none has been filled in, the first one is refused, or it fits and the
-- statements are executed one after another.
inductive Inserts (m : InsertValues) (o : Outcome Error (σ × Log) Int64) : Prop
  | none (h : o.state.2 = ⟨[], []⟩)
  | refused {row s} (h : o = .error rowTooLong s) (hl : s.2 = ⟨[row], []⟩)
  | executed {row rs ss} (hr : Fits m row) (hs : ss <+: statementsAfter m (m.prefixText ++ row) rs)
      (h : o.state.2 = ⟨row :: rs, ss⟩)

theorem Inserts.keepsLimit {o : Outcome Error (σ × Log) Int64} (h : Inserts m o)
    (hr : ∀ row ∈ o.state.2.rows.tail, FitsComma m row) : KeepsLimit m o := by
  cases h
  case none h =>
    constructor <;> rw [h]
    · simp
    · rintro ⟨row, hrow, _⟩
      cases hrow
  case refused s h hl =>
    constructor
    · rw [h, Outcome.state, hl]
      simp
    · exact fun _ => ⟨s, h⟩
  case executed row rs ss hrow hs h =>
    rw [h] at hr
    constructor <;> rw [h]
    · have hle := statementsAfter_le (by rw [Text.len_append]; exact hrow) hr
      exact fun s hmem => hle s (hs.subset hmem)
    · rintro ⟨r, hmem, hlong⟩
      obtain rfl | hmem := List.mem_cons.mp hmem
      · exact absurd hrow hlong
      · exact absurd (hr r hmem).fits hlong

theorem Inserts.skip {α : Type} (z : Proc Error σ α) {f : α → Proc Error (σ × Log) Int64}
    (h : ∀ a c, Inserts m (f a (c, ⟨[], []⟩))) : Inserts m ((onCursor z >>= f) (c, ⟨[], []⟩)) := by
  have hz := onCursor_leaves z (c, ⟨[], []⟩)
  rw [Proc.bind_apply]
  cases hy : onCursor z (c, ⟨[], []⟩)
  case ok a s =>
    rw [hy] at hz
    obtain ⟨c₁, log₁⟩ := s
    obtain rfl : log₁ = _ := hz
    exact h a c₁
  all_goals
    rw [hy] at hz
    exact .none hz

theorem state_bind_log {o : Outcome Error (σ × Log) Int64} {f : Int64 → Proc Error (σ × Log) Int64}
    (hf : ∀ n, (f n).Leaves Prod.snd) : (o.bind f).state.2 = o.state.2 := by
  cases o
  case ok n s => exact hf n s
  all_goals rfl

theorem insertRows_inserts (hne : argsList ≠ []) :
    Inserts m (x.logged.insertRows m argsList (c, ⟨[], []⟩)) := by
  have leaves (n : Int64) : Proc.Leaves Prod.snd (do x.logged.setRowCount n; return n) :=
    .bind (onCursor_leaves _) fun _ => .pure n
  cases argsList
  case nil => exact absurd rfl hne
  case cons args argsList =>
    rw [insertRows, Proc.bind_apply, appendRows, Proc.bind_apply]
    obtain ⟨row, c₁, hrow⟩ | ⟨hlog, hrow⟩ := @logged_mogrify_log _ x c ⟨[], []⟩ m.values args
    case inr =>
      refine .none ?_
      rw [state_bind_log leaves, state_bind_of_not_ok hrow, hlog]
    case inl =>
      rw [hrow]
      simp only [Outcome.bind_ok, Nat.lt_irrefl, if_false, if_true, Nat.add_zero]
      split_ifs with hmax
      case pos => exact .refused rfl rfl
      case neg =>
        obtain ⟨rs, ss, hss, hs⟩ := @appendRows_log _ x m c₁ ⟨[row], []⟩ argsList 0 (m.prefixText ++ row) 0
        refine .executed (Nat.le_of_not_lt hmax) hss ?_
        rw [state_bind_log leaves]
        exact hs

theorem executeMany_inserts {captures : Text → Option InsertValues} {query : Text}
    {bulk : InsertValues → List (List Value) → Proc Error (σ × Log) Int64} (hm : captures query = some m)
    (hb : argsList ≠ [] → ∀ c, Inserts m (bulk m argsList (c, ⟨[], []⟩))) :
    Inserts m (x.logged.executeMany captures bulk query argsList (c, ⟨[], []⟩)) := by
  refine .skip _ fun _ c₁ => ?_
  cases argsList
  case nil         => exact .none rfl
  case cons args l =>
    rw [hm]
    exact hb (List.cons_ne_nil _ _) c₁

-- Where all has been executed, a row after the first that is too long with its comma has been sent as it is.
theorem insertRows_fitsComma {c' : σ} {n : Int64} (hne : argsList ≠ [])
    (h : x.logged.insertRows m argsList (c, ⟨[], []⟩) = .ok n (c', log))
    (hs : ∀ s ∈ log.statements, s.len ≤ maxLen) : ∀ row ∈ log.rows.tail, FitsComma m row := by
  have ⟨row, rs, _, _, hlog⟩ := insertRows_logged hne h
  rw [hlog] at hs ⊢
  by_contra hlong
  have hlong : ∃ row ∈ rs, ¬FitsComma m row := by simpa using hlong
  have hp : m.prefixText.len ≤ (m.prefixText ++ row).len := by
    rw [Text.len_append]
    exact Nat.le_add_right ..
  have ⟨s, hmem, hgt⟩ := statementsAfter_gt hp hlong
  exact absurd (hs s hmem) (Nat.not_le.mpr hgt)

end Outcomes

-- The run keeps the limit where the rows after the first fit with their commas. Where it comes to its end, only there.
def KeepsLimitIff (m : InsertValues) (o : Outcome Error (σ × Log) Int64) : Prop :=
  ((∀ row ∈ o.state.2.rows.tail, FitsComma m row) → KeepsLimit m o) ∧
    ∀ n s, o = .ok n s → (KeepsLimit m o ↔ ∀ row ∈ o.state.2.rows.tail, FitsComma m row)

section ExecuteMany

variable {x : Executor σ} {m : InsertValues} {c : σ} {argsList : List (List Value)}
  {captures : Text → Option InsertValues} {query : Text}
  {bulk : InsertValues → List (List Value) → Proc Error (σ × Log) Int64}

theorem executeMany_fitsComma {c' : σ} {log : Log} {n : Int64} (hm : captures query = some m)
    (hi : ∀ c n s, bulk m argsList (c, ⟨[], []⟩) = .ok n s →
      ∃ c, x.logged.insertRows m argsList (c, ⟨[], []⟩) = .ok n s)
    (h : x.logged.executeMany captures bulk query argsList (c, ⟨[], []⟩) = .ok n (c', log))
    (hs : ∀ s ∈ log.statements, s.len ≤ maxLen) : ∀ row ∈ log.rows.tail, FitsComma m row := by
  by_cases hne : argsList = []
  case pos =>
    have ⟨_, ⟨c₁, log₁⟩, hc, h⟩ := Outcome.bind_eq_ok.mp h
    obtain rfl := (onCursor_ok hc).right
    rw [hne] at h
    cases h
    simp
  case neg =>
    have ⟨c₁, hbulk⟩ := executeMany_logged hm hne h
    have ⟨c₂, hrun⟩ := hi c₁ n _ hbulk
    exact insertRows_fitsComma hne hrun hs

theorem executeMany_keepsLimitIff (hm : captures query = some m)
    (hb : argsList ≠ [] → ∀ c, Inserts m (bulk m argsList (c, ⟨[], []⟩)))
    (hi : ∀ c n s, bulk m argsList (c, ⟨[], []⟩) = .ok n s →
      ∃ c, x.logged.insertRows m argsList (c, ⟨[], []⟩) = .ok n s) :
    KeepsLimitIff m (x.logged.executeMany captures bulk query argsList (c, ⟨[], []⟩)) := by
  have inserts := @executeMany_inserts _ x m c argsList _ _ _ hm hb
  refine ⟨inserts.keepsLimit, fun n s h => ⟨fun hk => ?_, inserts.keepsLimit⟩⟩
  have hk := hk.statements
  rw [h] at hk ⊢
  exact executeMany_fitsComma hm hi h hk

end ExecuteMany

end Executor

variable [Libraries]

open Executor

variable {captures : Text → Option InsertValues} {query : Text} {m : InsertValues}

theorem Cursor.doExecuteMany_insertRows {argsList : List (List Value)} (c : Cursor) (n : Int64) (s : Cursor × Log)
    (h : Cursor.doExecuteMany Cursor.executor.logged m argsList (c, ⟨[], []⟩) = .ok n s) :
    ∃ c, Cursor.executor.logged.insertRows m argsList (c, ⟨[], []⟩) = .ok n s := by
  have ⟨_, ⟨c₁, log₁⟩, hc, h⟩ := Outcome.bind_eq_ok.mp h
  obtain rfl := (onCursor_ok hc).right
  exact ⟨c₁, h⟩

theorem Cursor.logMany_keepsLimit (hm : captures query = some m) (argsList : List (List Value)) (c : Cursor) :
    KeepsLimitIff m (Cursor.logMany captures query argsList (c, ⟨[], []⟩)) := by
  refine executeMany_keepsLimitIff hm ?_ Cursor.doExecuteMany_insertRows
  intro hne c
  exact .skip _ fun _ _ => insertRows_inserts hne

theorem UnbufferedCursor.logMany_keepsLimit (hm : captures query = some m) (argsList : List (List Value))
    (c : UnbufferedCursor) :
    KeepsLimitIff m (UnbufferedCursor.logMany captures query argsList (c, ⟨[], []⟩)) := by
  refine executeMany_keepsLimitIff hm ?_ fun c _ _ h => ⟨c, h⟩
  intro hne c
  exact insertRows_inserts hne

-- The run of `execute_many` is the one that the log has been kept of.
theorem executeMany_limit_iff (hm : captures query = some m) (argsList : List (List Value)) :
    (∀ c : Cursor,
      (Cursor.logMany captures query argsList (c, ⟨[], []⟩)).mapState Prod.fst =
          Cursor.executeMany captures query argsList c ∧
        KeepsLimitIff m (Cursor.logMany captures query argsList (c, ⟨[], []⟩))) ∧
    ∀ c : UnbufferedCursor,
      (UnbufferedCursor.logMany captures query argsList (c, ⟨[], []⟩)).mapState Prod.fst =
          UnbufferedCursor.executeMany captures query argsList c ∧
        KeepsLimitIff m (UnbufferedCursor.logMany captures query argsList (c, ⟨[], []⟩)) :=
  ⟨fun _ => ⟨Cursor.logMany_erases _ _ _ _, Cursor.logMany_keepsLimit hm _ _⟩,
    fun _ => ⟨UnbufferedCursor.logMany_erases _ _ _ _, UnbufferedCursor.logMany_keepsLimit hm _ _⟩⟩

section Examples

open Libraries

-- A short row, and one with a string of `k` characters.
def unevenRows (k : Nat) : List (List Value) :=
  [[.string (List.replicate 1 'x')], [.string (List.replicate k 'x')]]

def unevenStatements (k : Nat) : Cursor :=
  .new (accepting [statement (rowText 1), statement (',' :: rowText k)])

omit [Libraries] in
theorem rowText_fits_iff (k : Nat) : Fits bulkInsert (rowText k) ↔ k + 25 ≤ maxLen := by
  rw [Fits, rowText_len, show bulkInsert.prefixText.len = 21 by decide, show bulkInsert.postfixText.len = 0 from rfl]
  omega

omit [Libraries] in
theorem rowText_fitsComma_iff (k : Nat) : FitsComma bulkInsert (rowText k) ↔ k + 26 ≤ maxLen := by
  rw [FitsComma, rowText_len, show bulkInsert.prefixText.len = 21 by decide,
    show bulkInsert.postfixText.len = 0 from rfl]
  omega

theorem logMany_rows {ks : List Nat} {c c' : Cursor} {n : Int64}
    (h : Cursor.executeMany bulkCaptures bulkQuery (ks.map fun k => [.string (List.replicate k 'x')]) c = .ok n c')
    (hne : ks ≠ []) :
    ∃ log, Cursor.logMany bulkCaptures bulkQuery (ks.map fun k => [.string (List.replicate k 'x')])
      (c, ⟨[], []⟩) = .ok n (c', log) ∧ log.rows = ks.map rowText := by
  have ⟨log, hl, hrows, _⟩ :=
    Cursor.logMany_faithful bulkCaptures_query bulkInsert_placeholders (by simpa using hne) h
  exact ⟨log, hl, rows_filled hrows⟩

-- Two rows that have room for each other.
omit [Libraries] in
theorem executeMany_limit_twoRows :
    let := utf8Only
    KeepsLimit bulkInsert (Cursor.logMany bulkCaptures bulkQuery (twoRows 1) (oneStatement 1, ⟨[], []⟩)) := by
  let := utf8Only
  have ⟨n, c', hx, _⟩ := accepting_execute (c := oneStatement 1) (Connection.established_ready _) rfl rfl rfl rfl
  have hrun := executeMany_bulk (List.cons_ne_nil _ _) rfl (insertRows_unsplit (k := 1) (by decide) hx)
  have ⟨log, hl, hrows⟩ := @logMany_rows _ [1, 1] _ _ _ hrun (by simp)
  have hiff := ((executeMany_limit_iff bulkCaptures_query (twoRows 1)).left (oneStatement 1)).right
  refine hiff.left ?_
  have hl : (Cursor.logMany bulkCaptures bulkQuery (twoRows 1) (oneStatement 1, ⟨[], []⟩)).state.2 = log := by
    rw [show twoRows 1 = [1, 1].map fun k => [.string (List.replicate k 'x')] from rfl, hl]
    rfl
  rw [hl, hrows]
  intro row hrow
  rw [List.mem_singleton.mp hrow]
  exact (rowText_fitsComma_iff 1).mpr (by decide)

-- A second row that is longer than the limit on its own is sent after a comma.
omit [Libraries] in
theorem executeMany_sendsOverlong :
    let := utf8Only
    ∃ n c' log,
      Cursor.executeMany bulkCaptures bulkQuery (unevenRows 1024000) (unevenStatements 1024000) = .ok n c' ∧
      Cursor.logMany bulkCaptures bulkQuery (unevenRows 1024000) (unevenStatements 1024000, ⟨[], []⟩) =
        .ok n (c', log) ∧
      (∃ row ∈ log.rows, ¬Fits bulkInsert row) ∧ ∃ s ∈ log.statements, maxLen < s.len := by
  let := utf8Only
  have ⟨n₁, c₁, hx, hr, hc, hn, ha, hm⟩ :=
    accepting_execute (c := unevenStatements 1024000) (Connection.established_ready _) rfl rfl rfl rfl
  have ⟨n₂, c₂, hy, _⟩ := accepting_execute hr hc hn ha hm
  have hrun := executeMany_bulk (List.cons_ne_nil _ _) rfl (insertRows_split (by decide) (by decide) hx hy)
  have ⟨log, hl, hrows⟩ := @logMany_rows _ [1, 1024000] _ _ _ hrun (by simp)
  have hfits : ¬Fits bulkInsert (rowText 1024000) := by
    rw [rowText_fits_iff]
    decide
  refine ⟨_, _, log, hrun, hl, ⟨_, by simp [hrows], hfits⟩, ?_⟩
  by_contra hs
  have hcomma := executeMany_fitsComma bulkCaptures_query Cursor.doExecuteMany_insertRows hl (by simpa using hs)
  exact hfits (hcomma _ (by simp [hrows])).fits

end Examples
end MySQL.Tokio
