import MysqlRs.Tokio.ExecuteMany
import MysqlRs.Tokio.Mogrify

namespace MySQL.Tokio

open ClientError

-- A letter of the pattern, where case does not matter.
def folds (c : Char) : List Char :=
  [c, c.toLower] ++ (if c = 'S' then ['\u017F'] else if c = 'K' then ['\u212A'] else [])

def Keyword (keyword : String) (t : Text) : Prop :=
  List.Forall₂ (fun c d => d ∈ folds c) keyword.toList t

-- `((?:INSERT|REPLACE)\b.+\bVALUES?\s*)`, the first group. Without the word boundaries, more matches.
def InsertPrefix (t : Text) : Prop :=
  ∃ verb into values ws : Text, (Keyword "INSERT" verb ∨ Keyword "REPLACE" verb) ∧ into ≠ [] ∧
    (Keyword "VALUE" values ∨ Keyword "VALUES" values) ∧ ws.all isWhiteSpace ∧
    t = verb ++ into ++ (values ++ ws)

-- `ON\s+DUPLICATE\s+KEY\s+UPDATE\b[^;]*`
def OnDuplicateKey (t : Text) : Prop :=
  ∃ on ws₁ duplicate ws₂ key ws₃ update clause : Text,
    Keyword "ON" on ∧ Keyword "DUPLICATE" duplicate ∧ Keyword "KEY" key ∧ Keyword "UPDATE" update ∧
    (∀ ws ∈ [ws₁, ws₂, ws₃], ws ≠ [] ∧ ws.all isWhiteSpace) ∧ ';' ∉ clause ∧
    t = on ++ ws₁ ++ duplicate ++ ws₂ ++ key ++ ws₃ ++ update ++ clause

-- The third group.
def InsertPostfix (t : Text) : Prop :=
  ∃ ws clause : Text, ws.all isWhiteSpace ∧ (clause = [] ∨ OnDuplicateKey clause) ∧ t = ws ++ clause

-- `;?\s*`
def InsertTail (t : Text) : Prop :=
  ∃ ws : Text, ws.all isWhiteSpace ∧ (t = ws ∨ t = ';' :: ws)

-- What the pattern for `INSERT` and `REPLACE` queries makes of a query.
def Decomposes (query : Text) (m : InsertValues) : Prop :=
  ∃ ws tail : Text, ws.all isWhiteSpace ∧ InsertPrefix m.prefixText ∧ Placeholders m.values ∧
    InsertPostfix m.postfixText ∧ InsertTail tail ∧
    query = ws ++ (m.prefixText ++ (m.values ++ (m.postfixText ++ tail)))

-- A statement is what has been asked for, apart from white space around it and the semicolon.
def Agrees (sql statement : Text) : Prop :=
  ∃ ws tail : Text, ws.all isWhiteSpace ∧ InsertTail tail ∧ sql = ws ++ statement ++ tail

namespace Mogrify

-- Nothing in the text is special to `mogrify`.
def Plain (t : Text) : Prop :=
  ¬['%', '%'] <:+: t ∧ ¬['%', 's'] <:+: t

-- No percent sign at the end of `a` is taken together with the start of `b`.
def Splits (a b : Text) : Prop :=
  a.getLast? ≠ some '%' ∨ ∀ c ∈ b.head?, c ≠ '%' ∧ c ≠ 's'

section Substitute

variable {a b t result : Text} {args rest : List Text} {c : Char}

theorem Splits.tail (h : Splits (c :: a) b) : Splits a b := by
  cases a
  case nil         => exact .inl nofun
  case cons d a    => exact h.imp_left fun h => by rwa [List.getLast?_cons_cons] at h

theorem splits_of_other (hs : ∀ rest, c = '%' → t = 's' :: rest → False)
    (hd : ∀ rest, c = '%' → t = '%' :: rest → False) : Splits [c] t := by
  by_cases hc : c = '%'
  case neg => exact .inl fun h => hc (Option.some.inj h)
  case pos =>
    refine .inr fun d h => ?_
    obtain ⟨t, rfl⟩ := List.head?_eq_some_iff.mp h
    exact ⟨fun h => hd t hc (h ▸ rfl), fun h => hs t hc (h ▸ rfl)⟩

theorem substitute_other (h : Splits [c] t) : substitute (c :: t) args = do
    let (result, args) ← substitute t args
    return (c :: result, args) := by
  rw [substitute]
  all_goals
    rintro rest rfl rfl
    obtain h | h := h
    · exact h rfl
    · simp at h

theorem substitute_append (h : Splits a b) :
    substitute (a ++ b) args = do
      let (r, args) ← substitute a args
      let (r', args) ← substitute b args
      return (r ++ r', args) := by
  fun_induction scan a generalizing args
  case case1 a ih =>
    cases args
    case nil           => rfl
    case cons arg args =>
      rw [List.cons_append, List.cons_append, substitute, substitute, ih h.tail.tail]
      simp
  case case2 a ih =>
    rw [List.cons_append, List.cons_append, substitute, substitute, ih h.tail.tail]
    simp
  case case3 c a h₁ h₂ ih =>
    have hs := splits_of_other h₁ h₂
    have hs' : Splits [c] (a ++ b) := by
      cases a
      case nil  => exact h
      case cons => exact hs
    rw [List.cons_append, substitute_other hs', substitute_other hs, ih h.tail]
    simp
  case case4 => simp [substitute]

theorem Plain.tail (h : Plain (c :: t)) : Plain t :=
  ⟨fun hi => h.left (List.infix_cons hi), fun hi => h.right (List.infix_cons hi)⟩

theorem Plain.splits (h : Plain (c :: t)) : Splits [c] t :=
  splits_of_other (fun rest hc ht => h.right ⟨[], rest, by rw [hc, ht]; rfl⟩)
    fun rest hc ht => h.left ⟨[], rest, by rw [hc, ht]; rfl⟩

theorem Plain.cons (h : Plain t) (hs : Splits [c] t) : Plain (c :: t) := by
  have no {d : Char} (hd : d = '%' ∨ d = 's') (ht : ¬['%', d] <:+: t) : ¬['%', d] <:+: c :: t := by
    intro hi
    obtain hp | hi := List.infix_cons_iff.mp hi
    case inr => exact ht hi
    case inl =>
      obtain ⟨rest, hr⟩ := hp
      obtain ⟨rfl, rfl⟩ := List.cons.inj hr
      obtain hs | hs := hs
      · exact hs rfl
      · have ⟨h₁, h₂⟩ := hs d rfl
        exact hd.elim h₁ h₂
  exact ⟨no (.inl rfl) h.left, no (.inr rfl) h.right⟩

theorem substitute_plain (h : Plain t) : substitute t args = .ok (t, args) := by
  induction t
  case nil         => rfl
  case cons c t ih =>
    rw [substitute_other h.splits, ih h.tail]
    rfl

theorem plain_of_not_mem (h : '%' ∉ t) : Plain t :=
  ⟨fun hi => h (hi.subset (by simp)), fun hi => h (hi.subset (by simp))⟩

-- Doubled percent signs are the only ones that are lost.
theorem count_start_le (hp : (scan t).parts = []) :
    (scan t).start.count '%' ≤ t.count '%' ∧ ((scan t).start.count '%' = t.count '%' → Plain t) := by
  fun_induction scan t
  case case1 => cases hp
  case case2 t ih =>
    obtain ⟨hle, _⟩ := ih hp
    have hlt : ((scan t).push '%').start.count '%' < ('%' :: '%' :: t).count '%' := by
      simp [Template.push]
      omega
    exact ⟨Nat.le_of_lt hlt, fun he => absurd he (Nat.ne_of_lt hlt)⟩
  case case3 c t h₁ h₂ ih =>
    obtain ⟨hle, hplain⟩ := ih hp
    simp only [Template.push, List.count_cons, Nat.add_le_add_iff_right, Nat.add_right_cancel_iff]
    refine ⟨hle, fun he => ?_⟩
    exact (hplain he).cons (splits_of_other h₁ h₂)
  case case4 => exact ⟨Nat.le_refl _, fun _ => plain_of_not_mem List.not_mem_nil⟩

end Substitute
end Mogrify

open Mogrify

section Parts

variable {m : InsertValues} {query t u ws : Text} {ls : List Text}

theorem splits_of_last (hu : u ≠ []) (hp : '%' ∉ u) : Splits (t ++ u) ws := by
  refine .inl fun h => hp ?_
  rw [List.getLast?_append_of_ne_nil t hu] at h
  exact List.mem_of_getLast? h

theorem percent_not_white (h : ws.all isWhiteSpace) : '%' ∉ ws := fun hm =>
  absurd (List.all_eq_true.mp h '%' hm) (by decide)

theorem percent_not_keyword {keyword : String} (h : Keyword keyword t)
    (hk : ∀ c ∈ keyword.toList, '%' ∉ folds c) : '%' ∉ t := by
  rw [Keyword] at h
  generalize keyword.toList = k at h hk
  induction h
  case nil         => exact nofun
  case cons h _ ih =>
    have ⟨hc, hk⟩ := List.forall_mem_cons.mp hk
    exact fun hm => (List.mem_cons.mp hm).elim (fun he => hc (he ▸ h)) (ih hk)

theorem InsertPrefix.splits (h : InsertPrefix t) : Splits t u := by
  have ⟨verb, into, values, ws, _, _, hv, hw, ht⟩ := h
  have hp : '%' ∉ values :=
    hv.elim (percent_not_keyword · (by simp [folds])) (percent_not_keyword · (by simp [folds]))
  have hne : values ≠ [] := by
    rintro rfl
    obtain h | h := hv <;> exact nomatch h
  rw [ht]
  exact splits_of_last (List.append_ne_nil_of_left_ne_nil hne ws)
    fun hm => (List.mem_append.mp hm).elim hp (percent_not_white hw)

theorem placeholders_splits (h : Placeholders t) : Splits t u := by
  have ⟨_, _, _, ht⟩ := h
  rw [ht]
  exact splits_of_last (List.cons_ne_nil ')' []) (by decide)

theorem white_splits (h : ws.all isWhiteSpace) : Splits ws u :=
  .inl fun hl => percent_not_white h (List.mem_of_getLast? hl)

theorem InsertTail.percent (h : InsertTail t) : '%' ∉ t := by
  have ⟨ws, hw, ht⟩ := h
  obtain rfl | rfl := ht
  · exact percent_not_white hw
  · exact fun hm => (List.mem_cons.mp hm).elim nofun (percent_not_white hw)

theorem InsertTail.splits (h : InsertTail t) : Splits u t := by
  have ⟨ws, hw, ht⟩ := h
  have white (c) (hc : c ∈ ws.head?) : c ≠ '%' ∧ c ≠ 's' := by
    have hm := List.all_eq_true.mp hw c (List.mem_of_mem_head? hc)
    constructor
    all_goals
      rintro rfl
      exact absurd hm (by decide)
  obtain rfl | rfl := ht
  · exact .inr white
  · exact .inr fun c hc => Option.some.inj hc ▸ by decide

-- The parts of a query are filled in one after another.
theorem substitute_query {tail : Text} (hw : ws.all isWhiteSpace) (hp : InsertPrefix m.prefixText)
    (hv : Placeholders m.values) (ht : InsertTail tail) :
    substitute (ws ++ (m.prefixText ++ (m.values ++ (m.postfixText ++ tail)))) ls = do
      let (p, ls) ← substitute m.prefixText ls
      let (v, ls) ← substitute m.values ls
      let (q, ls) ← substitute m.postfixText ls
      return (ws ++ (p ++ (v ++ (q ++ tail))), ls) := by
  rw [substitute_append (white_splits hw), substitute_plain (plain_of_not_mem (percent_not_white hw))]
  simp only [substitute_append hp.splits, substitute_append (placeholders_splits hv),
    substitute_append ht.splits, substitute_plain (plain_of_not_mem ht.percent), bind_assoc, pure_bind]
  rfl

variable {literal : Value → Except Error Text} {args : List Value} {sql v : Text}

theorem substitute_ok {r : Text × List Text} (h : substitute t ls = .ok r) :
    (scan t).parts.length ≤ ls.length ∧ r = ((scan t).fill ls, ls.drop (scan t).parts.length) := by
  rw [substitute_eq] at h
  split_ifs at h with hl
  exact ⟨Nat.le_of_not_lt hl, (Except.ok.inj h).symm⟩

theorem fill_start (h : (scan t).parts.length = 0) : (scan t).fill ls = (scan t).start := by
  rw [Template.fill, List.length_eq_zero_iff.mp h]
  simp

theorem mogrifyQuery_eq_ok :
    mogrifyQuery query (some args) literal = .ok sql ↔
      ∃ ls, args.mapM literal = .ok ls ∧ substitute query ls = .ok (sql, []) := by
  simp only [mogrifyQuery]
  cases args.mapM literal
  case error    => simp [bind, Except.bind]
  case ok ls =>
    cases hs : substitute query ls
    case error => simp [bind, Except.bind, hs]
    case ok r  =>
      obtain ⟨result, rest⟩ := r
      by_cases hr : rest = [] <;> simp [bind, Except.bind, hs, hr]

theorem bind_eq_ok {α β : Type} {x : Except Error α} {f : α → Except Error β} {b : β} :
    (x >>= f) = .ok b ↔ ∃ a, x = .ok a ∧ f a = .ok b := by
  cases x <;> simp [bind, Except.bind]

theorem Agrees.count (h : Agrees sql v) : sql.count '%' = v.count '%' := by
  have ⟨ws, tail, hw, ht, he⟩ := h
  rw [he, List.count_append, List.count_append, List.count_eq_zero_of_not_mem (percent_not_white hw),
    List.count_eq_zero_of_not_mem ht.percent]
  omega

-- What the parts have been filled in with.
theorem substitute_parts {r : Text} (hw : ws.all isWhiteSpace) (hp : InsertPrefix m.prefixText)
    (hv : Placeholders m.values) {tail : Text} (ht : InsertTail tail)
    (h : substitute (ws ++ (m.prefixText ++ (m.values ++ (m.postfixText ++ tail)))) ls = .ok (r, [])) :
    ∃ p v q ls₁ ls₂, substitute m.prefixText ls = .ok (p, ls₁) ∧ substitute m.values ls₁ = .ok (v, ls₂) ∧
      substitute m.postfixText ls₂ = .ok (q, []) ∧ r = ws ++ (p ++ (v ++ (q ++ tail))) := by
  rw [substitute_query hw hp hv ht] at h
  have ⟨⟨p, ls₁⟩, hp, h⟩ := bind_eq_ok.mp h
  have ⟨⟨v, ls₂⟩, hv, h⟩ := bind_eq_ok.mp h
  have ⟨⟨q, ls₃⟩, hq, h⟩ := bind_eq_ok.mp h
  obtain ⟨rfl, rfl⟩ := Prod.mk.inj (Except.ok.inj h)
  exact ⟨p, v, q, ls₁, ls₂, hp, hv, hq, rfl⟩

-- The bulk statement is what has been asked for if and only if nothing outside the values is special to
-- `mogrify`.
theorem statement_agrees_iff (hd : Decomposes query m)
    (h : mogrifyQuery query (some args) literal = .ok sql) :
    (∃ v, mogrifyQuery m.values (some args) literal = .ok v ∧
      Agrees sql (m.prefixText ++ v ++ m.postfixText)) ↔ Plain m.prefixText ∧ Plain m.postfixText := by
  have ⟨ws, tail, hw, hp, hv, _, ht, hq⟩ := hd
  have ⟨ls, hl, hs⟩ := mogrifyQuery_eq_ok.mp h
  rw [hq] at hs
  have ⟨p, v, q, ls₁, ls₂, h₁, h₂, h₃, hr⟩ := substitute_parts hw hp hv ht hs
  constructor
  case mp =>
    intro ⟨v', hv', ha⟩
    have ⟨ls', hl', hs'⟩ := mogrifyQuery_eq_ok.mp hv'
    obtain rfl := Except.ok.inj (hl.symm.trans hl')
    have ⟨hn₁, he₁⟩ := substitute_ok h₁
    have ⟨hn₂, he₂⟩ := substitute_ok h₂
    have ⟨hn₃, he₃⟩ := substitute_ok h₃
    have ⟨hn, he⟩ := substitute_ok hs'
    obtain ⟨rfl, rfl⟩ := Prod.mk.inj he₁
    obtain ⟨rfl, rfl⟩ := Prod.mk.inj he₂
    obtain ⟨rfl, hz⟩ := Prod.mk.inj he₃
    obtain ⟨rfl, hz'⟩ := Prod.mk.inj he
    have hz' := congrArg List.length hz'
    simp only [List.length_nil, List.length_drop] at hz' hn₂ hn₃
    have hn₁ : (scan m.prefixText).parts.length = 0 := by omega
    have hn₃ : (scan m.postfixText).parts.length = 0 := by omega
    rw [hn₁, List.drop_zero, fill_start hn₁, fill_start hn₃] at hr
    have ⟨hle, hplain⟩ := count_start_le (List.length_eq_zero_iff.mp hn₁)
    have ⟨hle', hplain'⟩ := count_start_le (List.length_eq_zero_iff.mp hn₃)
    have hc := ha.count
    rw [hr] at hc
    simp only [List.count_append, List.count_eq_zero_of_not_mem (percent_not_white hw),
      List.count_eq_zero_of_not_mem ht.percent] at hc
    exact ⟨hplain (by omega), hplain' (by omega)⟩
  case mpr =>
    intro ⟨hplain, hplain'⟩
    obtain ⟨rfl, rfl⟩ := Prod.mk.inj (Except.ok.inj (h₁.symm.trans (substitute_plain hplain)))
    obtain ⟨rfl, rfl⟩ := Prod.mk.inj (Except.ok.inj (h₃.symm.trans (substitute_plain hplain')))
    refine ⟨v, mogrifyQuery_eq_ok.mpr ⟨_, hl, h₂⟩, ws, tail, hw, ht, ?_⟩
    simp [hr]

end Parts

namespace Executor

variable {σ : Type} {x : Executor σ} {c : σ} {log : Log}

section Single

variable {m : InsertValues} {args : List Value} {v : Text}

theorem logged_mogrify_eq (o : Outcome Error σ Text) (hv : x.mogrify m.values args c = o) :
    x.logged.mogrify m.values args (c, log) =
      (o.mapState fun c => (c, log)).bind fun v s => .ok v (s.1, { s.2 with rows := s.2.rows ++ [v] }) := by
  subst hv
  rfl

-- The statement is executed, whatever comes of that.
theorem insertRows_single (hv : x.mogrify m.values args c = .ok v c)
    (hl : m.prefixText.len + v.len + m.postfixText.len ≤ maxLen) :
    (x.logged.insertRows m [args] (c, ⟨[], []⟩)).state.2.statements =
      [m.prefixText ++ v ++ m.postfixText] := by
  let sent : Proc Error (σ × Log) Int64 := do
    let affected ← onCursor (x.execute (m.prefixText ++ v ++ m.postfixText) none)
    return 0 + affected
  let after := sent >>= fun rows => onCursor (x.setRowCount rows) >>= fun _ => pure rows
  have hr : x.logged.insertRows m [args] (c, ⟨[], []⟩) =
      after (c, ⟨[v], [m.prefixText ++ v ++ m.postfixText]⟩) := by
    rw [insertRows, Proc.bind_apply, appendRows, Proc.bind_apply, logged_mogrify_eq _ hv]
    simp only [Outcome.mapState_ok, Outcome.bind_ok, Nat.lt_irrefl, if_false, Nat.add_zero, if_neg (Nat.not_lt.mpr hl)]
    rfl
  have hleaves : after.Leaves Prod.snd := .bind (.bind (onCursor_leaves _) fun _ => .pure _) fun _ =>
    .bind (onCursor_leaves _) fun _ => .pure _
  rw [hr, hleaves]

theorem insertRows_refused {e : Error} (hv : x.mogrify m.values args c = .error e c) :
    (x.logged.insertRows m [args] (c, ⟨[], []⟩)).state.2.statements = [] := by
  rw [insertRows, Proc.bind_apply, appendRows, Proc.bind_apply, logged_mogrify_eq _ hv]
  rfl

end Single
end Executor

section Bulk

variable [Libraries] {captures : Text → Option InsertValues} {query sql : Text} {m : InsertValues}
  {args : List Value} {c : Cursor}

-- What is sent for a single row is the statement that is made of its values.
theorem sends_iff (hm : captures query = some m) (hc : c.closed = false)
    (hl : ∀ v, c.connection.mogrify m.values (some args) = .ok v →
      m.prefixText.len + v.len + m.postfixText.len ≤ Executor.maxLen) (P : Text → Prop) :
    (∃ statement,
      (Cursor.logMany captures query [args] (c, ⟨[], []⟩)).state.2.statements = [statement] ∧ P statement) ↔
      ∃ v, c.connection.mogrify m.values (some args) = .ok v ∧ P (m.prefixText ++ v ++ m.postfixText) := by
  have hrun : Cursor.logMany captures query [args] (c, ⟨[], []⟩) =
      Executor.insertRows Cursor.executor.logged m [args] (c, ⟨[], []⟩) := by
    have hk : Cursor.executor.logged.checkClosed (c, ⟨[], []⟩) = .ok () (c, ⟨[], []⟩) := by
      simp [Executor.logged, Executor.onCursor, Cursor.executor, Cursor.checkClosed, hc]
    rw [Cursor.logMany, Executor.executeMany, Proc.bind_apply, hk, Outcome.bind_ok, if_neg (by simp), hm]
    simp only [Cursor.doExecuteMany, Proc.bind_apply, hk, Outcome.bind_ok]
  have hx (o : Except Error Text) (ho : c.connection.mogrify m.values (some args) = o) :
      Cursor.executor.mogrify m.values args c = Proc.ofExcept o c := by
    subst ho
    rfl
  rw [hrun]
  cases hv : c.connection.mogrify m.values (some args)
  case error e =>
    rw [Executor.insertRows_refused (hx _ hv)]
    constructor
    · rintro ⟨_, h, _⟩
      cases h
    · rintro ⟨_, h, _⟩
      cases h
  case ok v =>
    rw [Executor.insertRows_single (hx _ hv) (hl v hv)]
    constructor
    · rintro ⟨_, h, ha⟩
      exact ⟨v, rfl, (List.cons.inj h).left ▸ ha⟩
    · rintro ⟨_, h, ha⟩
      exact ⟨_, rfl, Except.ok.inj h ▸ ha⟩

-- It agrees with the query if and only if nothing outside the values is special to `mogrify`.
theorem executeMany_agrees_iff (hm : captures query = some m) (hd : Decomposes query m)
    (hc : c.closed = false) (hs : c.connection.mogrify query (some args) = .ok sql)
    (hl : ∀ v, c.connection.mogrify m.values (some args) = .ok v →
      m.prefixText.len + v.len + m.postfixText.len ≤ Executor.maxLen) :
    (∃ statement,
      (Cursor.logMany captures query [args] (c, ⟨[], []⟩)).state.2.statements = [statement] ∧
        Agrees sql statement) ↔ Plain m.prefixText ∧ Plain m.postfixText :=
  (sends_iff hm hc hl _).trans (statement_agrees_iff hd hs)

end Bulk

section Examples

open Libraries

def onDuplicate : Text :=
  " ON DUPLICATE KEY UPDATE".toList

-- A query with a clause for duplicate keys.
def upsert (clause : Text) : Text :=
  bulkQuery ++ onDuplicate ++ clause

def upsertInsert (clause : Text) : InsertValues :=
  { bulkInsert with postfixText := onDuplicate ++ clause }

def upsertCaptures (clause query : Text) : Option InsertValues :=
  if query = upsert clause then some (upsertInsert clause) else none

theorem upsert_decomposes {clause : Text} (h : ';' ∉ clause) :
    Decomposes (upsert clause) (upsertInsert clause) := by
  have keyword (k : String) : Keyword k k.toList := by
    rw [Keyword]
    generalize k.toList = t
    induction t
    case nil          => exact .nil
    case cons c t ih => exact .cons List.mem_cons_self ih
  refine ⟨[], [], rfl, ?_, bulkInsert_placeholders, ?_, ⟨[], rfl, .inl rfl⟩, ?_⟩
  · exact ⟨"INSERT".toList, " INTO t ".toList, "VALUES".toList, [' '], .inl (keyword _), by decide,
      .inr (keyword _), by decide, rfl⟩
  · refine ⟨[' '], "ON DUPLICATE KEY UPDATE".toList ++ clause, by decide, .inr ?_, rfl⟩
    refine ⟨"ON".toList, [' '], "DUPLICATE".toList, [' '], "KEY".toList, [' '], "UPDATE".toList, clause,
      keyword _, keyword _, keyword _, keyword _, by decide, h, rfl⟩
  · have hb : bulkQuery = bulkInsert.prefixText ++ bulkInsert.values := by decide
    rw [upsert, hb, upsertInsert, List.nil_append, List.append_nil, List.append_assoc, List.append_assoc]

def upsertCursor : Cursor :=
  .new (Connection.established [])

theorem mogrify_null [Libraries] (c : Connection) :
    c.mogrify bulkInsert.values (some [.null]) = .ok "(NULL)".toList :=
  rfl

theorem upsert_fits [Libraries] {clause : Text} (h : clause.len ≤ 100) (c : Connection) (v : Text)
    (hv : c.mogrify (upsertInsert clause).values (some [.null]) = .ok v) :
    (upsertInsert clause).prefixText.len + v.len + (upsertInsert clause).postfixText.len ≤ Executor.maxLen := by
  obtain rfl := Except.ok.inj ((mogrify_null c).symm.trans hv)
  have h₁ : (upsertInsert clause).prefixText.len = 21 := show bulkInsert.prefixText.len = 21 by decide
  have h₂ : Text.len "(NULL)".toList = 6 := by decide
  have h₃ : onDuplicate.len = 24 := by decide
  have h₄ : (upsertInsert clause).postfixText.len = onDuplicate.len + clause.len := Text.len_append ..
  rw [h₁, h₂, h₄, h₃, Executor.maxLen]
  omega

theorem executeMany_agrees_upsert :
    let := utf8Only
    ∃ statement,
      (Cursor.logMany (upsertCaptures " a = 1".toList) (upsert " a = 1".toList) [[.null]]
        (upsertCursor, ⟨[], []⟩)).state.2.statements = [statement] ∧
      Agrees ("INSERT INTO t VALUES (NULL)".toList ++ onDuplicate ++ " a = 1".toList) statement := by
  let := utf8Only
  have hd := upsert_decomposes (show ';' ∉ " a = 1".toList by decide)
  exact (executeMany_agrees_iff (if_pos rfl) hd rfl rfl (upsert_fits (by decide) _)).mpr
    ⟨plain_of_not_mem (by decide), plain_of_not_mem (by decide)⟩

-- The percent sign stays doubled in what is sent.
theorem executeMany_percent_disagrees :
    let := utf8Only
    Decomposes (upsert " a = '%%'".toList) (upsertInsert " a = '%%'".toList) ∧
      upsertCursor.connection.mogrify (upsert " a = '%%'".toList) (some [.null]) =
        .ok ("INSERT INTO t VALUES (NULL)".toList ++ onDuplicate ++ " a = '%'".toList) ∧
      ¬∃ statement,
        (Cursor.logMany (upsertCaptures " a = '%%'".toList) (upsert " a = '%%'".toList) [[.null]]
          (upsertCursor, ⟨[], []⟩)).state.2.statements = [statement] ∧
        Agrees ("INSERT INTO t VALUES (NULL)".toList ++ onDuplicate ++ " a = '%'".toList) statement := by
  let := utf8Only
  have hd := upsert_decomposes (show ';' ∉ " a = '%%'".toList by decide)
  refine ⟨hd, rfl, fun h => ?_⟩
  have h := (sends_iff (if_pos rfl) rfl (upsert_fits (by decide) _) _).mp h
  have hp := ((statement_agrees_iff hd rfl).mp h).right
  exact hp.left ⟨onDuplicate ++ " a = '".toList, "'".toList, rfl⟩

end Examples
end MySQL.Tokio
