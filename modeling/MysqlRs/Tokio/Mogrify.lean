import MysqlRs.Library.Reading
import MysqlRs.Tokio.Operations

namespace MySQL.Tokio

open ClientError

namespace Mogrify

-- A query as it is meant: the text in front of the first placeholder, and the text behind each of them.
structure Template where
  start : Text
  parts : List Text

namespace Template

def push (c : Char) (t : Template) : Template :=
  { t with start := c :: t.start }

-- What the placeholders are replaced by, and what is between them.
def fill (t : Template) (args : List Text) : Text :=
  t.start ++ (List.zipWith (· ++ ·) args t.parts).flatten

-- Every percent sign of the text is doubled, and a placeholder is between each two parts.
def query (t : Template) : Text :=
  "%s".toList.intercalate ((t.start :: t.parts).map (·.replace '%' "%%".toList))

end Template

-- How the characters of a query are taken.
def scan : Text → Template
  | '%' :: 's' :: rest => ⟨[], (scan rest).start :: (scan rest).parts⟩
  | '%' :: '%' :: rest => (scan rest).push '%'
  | c :: rest          => (scan rest).push c
  | []                 => ⟨[], []⟩

theorem scan_cons {c : Char} (hc : c ≠ '%') (rest : Text) : scan (c :: rest) = (scan rest).push c := by
  rw [scan]
  all_goals
    rintro _ h
    exact absurd h hc

theorem scan_double (c : Char) (rest : Text) :
    scan ((if c = '%' then "%%".toList else [c]) ++ rest) = (scan rest).push c := by
  split_ifs with h
  case pos =>
    subst h
    exact scan.eq_2 rest
  case neg => exact scan_cons h rest

theorem scan_text (t rest : Text) :
    scan (t.replace '%' "%%".toList ++ rest) = { scan rest with start := t ++ (scan rest).start } := by
  induction t
  case nil         => rfl
  case cons c t ih =>
    rw [Text.replace, List.flatMap_cons, List.append_assoc, scan_double]
    exact congrArg (Template.push c) ih

-- The query is taken as it is meant.
theorem scan_query (t : Template) : scan t.query = t := by
  obtain ⟨start, parts⟩ := t
  induction parts generalizing start
  case nil =>
    have h := scan_text start []
    simpa [Template.query, scan] using h
  case cons part parts ih =>
    have hq : Template.query ⟨start, part :: parts⟩ =
        start.replace '%' "%%".toList ++ '%' :: 's' :: Template.query ⟨part, parts⟩ := by
      simp [Template.query, List.intercalate_cons_cons]
    rw [hq, scan_text, scan, ih part]
    simp

-- A character that is kept stands in front of the rest.
theorem fill_push (c : Char) (t : Template) (args : List Text) : (t.push c).fill args = c :: t.fill args :=
  rfl

theorem parts_push (c : Char) (t : Template) : (t.push c).parts = t.parts :=
  rfl

-- The arguments are taken one by one, and never looked at.
theorem substitute_eq (query : Text) (args : List Text) :
    substitute query args =
      if args.length < (scan query).parts.length then .error notEnough
      else .ok ((scan query).fill args, args.drop (scan query).parts.length) := by
  fun_induction scan query generalizing args
  case case1 rest ih =>
    cases args
    case nil           => exact (if_pos (Nat.succ_pos (scan rest).parts.length)).symm
    case cons arg args =>
      rw [substitute, ih]
      simp only [List.length_cons, Nat.add_lt_add_iff_right]
      split_ifs
      · rfl
      · simp [bind, Except.bind, pure, Except.pure, Template.fill]
  case case2 rest ih =>
    rw [substitute, ih, parts_push, fill_push]
    split_ifs <;> rfl
  case case3 c rest h₁ h₂ ih =>
    rw [substitute, ih, parts_push, fill_push]
    · split_ifs <;> rfl
    · exact h₁
    · exact h₂
  case case4 => simp [substitute, Template.fill, pure, Except.pure]

end Mogrify

section MogrifyQuery

open Mogrify

variable {literal : Value → Except Error Text} {query : Text} {args : List Value} {escaped : List Text}

theorem length_of_mapM (h : args.mapM literal = .ok escaped) : escaped.length = args.length := by
  induction args generalizing escaped
  case nil =>
    obtain rfl := Except.ok.inj h
    rfl
  case cons arg args ih =>
    rw [List.mapM_cons] at h
    cases hl : literal arg
    case error => exact nomatch hl ▸ h
    case ok l =>
      cases hm : args.mapM literal
      all_goals
        rw [hl, hm] at h
        cases h
      exact congrArg Nat.succ (ih hm)

theorem mogrifyQuery_ok (hl : args.mapM literal = .ok escaped)
    (hn : args.length = (scan query).parts.length) :
    mogrifyQuery query (some args) literal = .ok ((scan query).fill escaped) := by
  have hlen := (length_of_mapM hl).trans hn
  simp [mogrifyQuery, hl, substitute_eq, hlen, bind, Except.bind]

-- Without an argument for every placeholder and a placeholder for every argument, it fails.
theorem mogrifyQuery_error (hn : args.length ≠ (scan query).parts.length) :
    ∃ e, mogrifyQuery query (some args) literal = .error e := by
  cases hl : args.mapM literal
  case error e    => exact ⟨e, by simp [mogrifyQuery, hl, bind, Except.bind]⟩
  case ok escaped =>
    have hlen := length_of_mapM hl
    simp only [mogrifyQuery, hl, substitute_eq, bind, Except.bind]
    by_cases hlt : escaped.length < (scan query).parts.length
    case pos => exact ⟨notEnough, by rw [if_pos hlt]⟩
    case neg =>
      have hd : escaped.drop (scan query).parts.length ≠ [] := by
        rw [ne_eq, List.drop_eq_nil_iff]
        omega
      exact ⟨tooMany, by simp [if_neg hlt, hd]⟩

-- The query that has been made of a template gives the template filled in, and takes exactly as many values
-- as there are placeholders.
theorem mogrifyQuery_template (literal : Value → Except Error Text) (t : Template) :
    (∀ args escaped, args.mapM literal = .ok escaped → args.length = t.parts.length →
      mogrifyQuery t.query (some args) literal = .ok (t.fill escaped)) ∧
    ∀ args, args.length ≠ t.parts.length → ∃ e, mogrifyQuery t.query (some args) literal = .error e := by
  have hq := scan_query t
  constructor
  · intro args escaped hl hn
    have h : args.length = (scan t.query).parts.length := by rwa [hq]
    have h := mogrifyQuery_ok hl h
    rwa [hq] at h
  · intro args hn
    exact mogrifyQuery_error (by rwa [hq])

-- A percent sign before a placeholder, an `s` behind it, and a literal that looks like a placeholder.
theorem mogrifyQuery_template_percent :
    let literal : Value → Except Error Text := fun _ => .ok ['%', 's']
    mogrifyQuery (Template.query ⟨['%'], [['s']]⟩) (some [.null]) literal = .ok ['%', '%', 's', 's'] ∧
      ∃ e, mogrifyQuery (Template.query ⟨['%'], [['s']]⟩) (some []) literal = .error e :=
  have h := mogrifyQuery_template (fun _ => .ok ['%', 's']) ⟨['%'], [['s']]⟩
  ⟨h.left [.null] [['%', 's']] rfl rfl, h.right [] nofun⟩

end MogrifyQuery
end MySQL.Tokio
