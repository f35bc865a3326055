import MysqlRs.Core.OptionFile

namespace MySQL

namespace Text

theorem replace_eq_nil_iff {s new : Text} {c : Char} (h : new ≠ []) : s.replace c new = [] ↔ s = [] := by
  refine ⟨fun he => ?_, fun he => by rw [he]; rfl⟩
  cases s
  case nil       => rfl
  case cons d ds =>
    have hd := (List.append_eq_nil_iff.mp (List.flatMap_cons.symm.trans he)).left
    split at hd
    case isTrue  => exact absurd hd h
    case isFalse => cases hd

theorem toLowercase_eq_nil_iff [Unicode] {s : Text} (h : ∀ c, Unicode.toLowercase c ≠ []) :
    s.toLowercase = [] ↔ s = [] := by
  refine ⟨fun he => ?_, fun he => by rw [he]; rfl⟩
  cases s
  case nil       => rfl
  case cons c cs =>
    have hc := (List.append_eq_nil_iff.mp he).left
    split at hc
    case isTrue  => split at hc <;> cases hc
    case isFalse => exact absurd hc (h c)

end Text

namespace OptionFile

-- A line counts when it is neither empty nor a comment.
def Counts (line : Text) : Prop :=
  line ≠ [] ∧ line.head? ≠ some '#' ∧ line.head? ≠ some ';'

def IsHeader (line : Text) : Prop :=
  line.head? = some '['

instance : DecidablePred Counts := fun _ => inferInstanceAs (Decidable (_ ∧ _ ∧ _))

instance : DecidablePred IsHeader := fun _ => inferInstanceAs (Decidable (_ = _))

-- The name between the brackets.
def sectionName (header : Text) : Text :=
  Text.trim header.tail.dropLast

def isSeparator (c : Char) : Bool :=
  c = '=' || c = ':'

-- What comes before the first separator.
def optionName (line : Text) : Text :=
  Text.trim (line.takeWhile fun c => !isSeparator c)

def optionKey [Unicode] (line : Text) : Text :=
  (optionName line).toLowercase.replace '_' ['-']

def optionValue (line : Text) : Text :=
  stripQuotes (Text.trim (line.dropWhile fun c => !isSeparator c).tail)

-- The lines that count, without the blanks around them.
def entries (text : Text) : List Text :=
  (text.lines.map Text.trim).filter (Counts ·)

-- Every line together with the ones before it.
def placed (before : List Text) : List Text → List (List Text × Text)
  | []            => []
  | line :: lines => (before, line) :: placed (before ++ [line]) lines

-- The section that is open after some lines: that of the last header.
def sectionAfter (lines : List Text) : Option Text :=
  (lines.filter (IsHeader ·)).getLast?.map sectionName

structure Malformed (before : List Text) (line : Text) : Prop where
  header : IsHeader line → line.getLast? ≠ some ']' ∨ sectionName line = []
  option : ¬IsHeader line → (∀ header ∈ before, ¬IsHeader header) ∨ optionName line = []

-- The value of an option line with the key under a header with the name.
def valueUnder [Unicode] (group key : Text) (before : List Text) (line : Text) : Option Text :=
  if ¬IsHeader line ∧ sectionAfter before = some group ∧ optionKey line = key then some (optionValue line) else none

theorem splitKeyValue_eq (line : Text) : splitKeyValue line =
    (line.takeWhile fun c => !isSeparator c, (line.dropWhile fun c => !isSeparator c).tail) := by
  have hs : (fun c => !isSeparator c) = fun c => !(decide (c = '=') || decide (c = ':')) := rfl
  rw [hs, splitKeyValue]
  cases h : List.dropWhile (fun c => !(decide (c = '=') || decide (c = ':'))) line
  case nil       =>
    have ht := List.takeWhile_append_dropWhile (p := fun c => !(decide (c = '=') || decide (c = ':'))) (l := line)
    rw [h, List.append_nil] at ht
    simp only [ht, List.tail_nil]
  case cons c cs => rfl

theorem insert_get {file : OptionFile} {group key value g k : Text} :
    (file.insert group key value).get g k = if g = group ∧ k = key then some value else file.get g k := by
  simp only [get, insert]
  by_cases hg : g = group
  case neg => simp only [hg, false_and, if_false]
  case pos =>
    subst hg
    by_cases hk : k = key
    case pos => simp only [hk, and_self, if_true, Option.bind_some]
    case neg =>
      simp only [hk, and_false, if_true, if_false, Option.bind_some]
      cases file.groups g <;> rfl

theorem sectionAfter_concat {before : List Text} {line : Text} : sectionAfter (before ++ [line]) =
    if IsHeader line then some (sectionName line) else sectionAfter before := by
  simp only [sectionAfter, List.filter_append]
  split
  case isTrue h  => simp [h]
  case isFalse h => simp [h]

theorem sectionAfter_eq_none_iff {before : List Text} :
    sectionAfter before = none ↔ ∀ header ∈ before, ¬IsHeader header := by
  rw [sectionAfter, Option.map_eq_none_iff, List.getLast?_eq_none_iff, List.filter_eq_nil_iff]
  simp only [decide_eq_true_eq]

theorem skips_iff {line : Text} :
    (decide (line = []) || decide (line.head? = some '#') || decide (line.head? = some ';')) = true ↔ ¬Counts line := by
  simp only [Bool.or_eq_true, decide_eq_true_eq, Counts, ne_eq]
  tauto

section Steps

variable [Unicode] {raw : Text} {before : List Text}

-- The step of the loop in the words of the grammar.
theorem parseLine_eq {lineNo : Nat} {group : Option Text} {file : OptionFile} : parseLine lineNo raw group file =
    if ¬Counts raw.trim then .ok (group, file)
    else if IsHeader raw.trim then
      if raw.trim.getLast? ≠ some ']' then .error (parseError lineNo "unclosed section header")
      else if sectionName raw.trim = [] then .error (parseError lineNo "empty section name")
      else .ok (some (sectionName raw.trim), file)
    else
      match group with
      | none   => .error (parseError lineNo "option without a section")
      | some g =>
        if optionKey raw.trim = [] then .error (parseError lineNo "empty option name")
        else .ok (some g, file.insert g (optionKey raw.trim) (optionValue raw.trim)) := by
  unfold parseLine
  simp only [splitKeyValue_eq]
  exact if_congr skips_iff rfl rfl

theorem optionKey_eq_nil_iff {line : Text} (hl : ∀ c, Unicode.toLowercase c ≠ []) :
    optionKey line = [] ↔ optionName line = [] := by
  rw [optionKey, Text.replace_eq_nil_iff (by decide), Text.toLowercase_eq_nil_iff hl]

theorem parseLine_skip {lineNo : Nat} {group : Option Text} {file : OptionFile} (h : ¬Counts raw.trim) :
    parseLine lineNo raw group file = .ok (group, file) := by
  rw [parseLine_eq, if_pos h]

theorem parseLine_malformed (hl : ∀ c, Unicode.toLowercase c ≠ []) (h : Counts raw.trim)
    (hm : Malformed before raw.trim) (lineNo : Nat) (file : OptionFile) :
    ∃ e, parseLine lineNo raw (sectionAfter before) file = .error e := by
  rw [parseLine_eq, if_neg (not_not.mpr h)]
  by_cases hh : IsHeader raw.trim
  case pos =>
    rw [if_pos hh]
    split
    case isTrue     => exact ⟨_, rfl⟩
    case isFalse hb =>
      rw [if_pos ((hm.header hh).resolve_left hb)]
      exact ⟨_, rfl⟩
  case neg =>
    rw [if_neg hh]
    cases hs : sectionAfter before
    case none       => exact ⟨_, rfl⟩
    case some group =>
      have hn : optionName raw.trim = [] := (hm.option hh).resolve_left fun hb => by
        rw [sectionAfter_eq_none_iff.mpr hb] at hs
        cases hs
      simp only [if_pos ((optionKey_eq_nil_iff hl).mpr hn)]
      exact ⟨_, rfl⟩

theorem parseLine_wellFormed (hl : ∀ c, Unicode.toLowercase c ≠ []) (h : Counts raw.trim)
    (hm : ¬Malformed before raw.trim) (lineNo : Nat) (file : OptionFile) : ∃ file' : OptionFile,
      parseLine lineNo raw (sectionAfter before) file = .ok (sectionAfter (before ++ [raw.trim]), file') ∧
      ∀ g k, file'.get g k = (valueUnder g k before raw.trim).or (file.get g k) := by
  rw [parseLine_eq, if_neg (not_not.mpr h), sectionAfter_concat]
  by_cases hh : IsHeader raw.trim
  case pos =>
    have hb : ¬raw.trim.getLast? ≠ some ']' := fun hb => hm ⟨fun _ => .inl hb, fun hn => absurd hh hn⟩
    have hn : sectionName raw.trim ≠ [] := fun hn => hm ⟨fun _ => .inr hn, fun hn => absurd hh hn⟩
    rw [if_pos hh, if_pos hh, if_neg hb, if_neg hn]
    refine ⟨file, rfl, fun g k => ?_⟩
    rw [valueUnder, if_neg (fun hv => hv.left hh), Option.none_or]
  case neg =>
    rw [if_neg hh, if_neg hh]
    cases hs : sectionAfter before
    case none       => exact absurd ⟨fun hn => absurd hn hh, fun _ => .inl (sectionAfter_eq_none_iff.mp hs)⟩ hm
    case some group =>
      have hk : optionKey raw.trim ≠ [] := fun hk =>
        hm ⟨fun hn => absurd hn hh, fun _ => .inr ((optionKey_eq_nil_iff hl).mp hk)⟩
      simp only [if_neg hk]
      refine ⟨file.insert group (optionKey raw.trim) (optionValue raw.trim), rfl, fun g k => ?_⟩
      rw [insert_get, valueUnder, hs]
      simp only [hh, not_false_eq_true, true_and, Option.some.injEq, eq_comm]
      split <;> rfl

end Steps

section Runs

theorem counting_cons {raw : Text} {raws : List Text} : ((raw :: raws).map Text.trim).filter (Counts ·) =
    if Counts raw.trim then raw.trim :: (raws.map Text.trim).filter (Counts ·)
    else (raws.map Text.trim).filter (Counts ·) := by
  simp only [List.map_cons, List.filter_cons, decide_eq_true_eq]

variable [Unicode] (hl : ∀ c, Unicode.toLowercase c ≠ []) {raws before : List Text} {lineNo : Nat} {file : OptionFile}

include hl

theorem parseLines_error_iff :
    (∃ e, parseLines lineNo raws (sectionAfter before, file) = .error e) ↔
      ∃ x ∈ placed before ((raws.map Text.trim).filter (Counts ·)), Malformed x.1 x.2 := by
  induction raws generalizing lineNo before file
  case nil =>
    refine iff_of_false ?_ (by simp [placed])
    rintro ⟨_, ⟨⟩⟩
  case cons raw raws ih =>
    rw [counting_cons, parseLines]
    by_cases hc : Counts raw.trim
    case neg =>
      rw [if_neg hc, parseLine_skip hc]
      exact ih
    case pos =>
      rw [if_pos hc, placed, List.exists_mem_cons_iff]
      by_cases hm : Malformed before raw.trim
      case pos =>
        obtain ⟨e, he⟩ := parseLine_malformed hl hc hm lineNo file
        rw [he]
        exact iff_of_true ⟨e, rfl⟩ (.inl hm)
      case neg =>
        obtain ⟨file', hp, _⟩ := parseLine_wellFormed hl hc hm lineNo file
        rw [hp]
        exact ih.trans (or_iff_right hm).symm

theorem parseLines_get {progress : Progress}
    (h : parseLines lineNo raws (sectionAfter before, file) = .ok progress) (g k : Text) :
    progress.2.get g k = ((placed before ((raws.map Text.trim).filter (Counts ·))).filterMap fun x =>
      valueUnder g k x.1 x.2).getLast?.or (file.get g k) := by
  induction raws generalizing lineNo before file
  case nil =>
    cases h
    rfl
  case cons raw raws ih =>
    rw [parseLines] at h
    rw [counting_cons]
    by_cases hc : Counts raw.trim
    case neg =>
      rw [parseLine_skip hc] at h
      rw [if_neg hc]
      exact ih h
    case pos =>
      by_cases hm : Malformed before raw.trim
      case pos =>
        obtain ⟨e, he⟩ := parseLine_malformed hl hc hm lineNo file
        rw [he] at h
        cases h
      case neg =>
        obtain ⟨file', hp, hg⟩ := parseLine_wellFormed hl hc hm lineNo file
        rw [hp] at h
        rw [if_pos hc, placed, ih h, hg, List.filterMap_cons]
        cases valueUnder g k before raw.trim
        case none   => rfl
        case some v =>
          simp only [List.getLast?_cons, Option.some_or]
          cases List.getLast? _ <;> rfl

end Runs

-- The errors and the values of an option file, read off its lines.
theorem parse_grammar [Unicode] (hl : ∀ c, Unicode.toLowercase c ≠ []) (text : Text) :
    ((∃ e, parse text = .error e) ↔ ∃ x ∈ placed [] (entries text), Malformed x.1 x.2) ∧
    ∀ file, parse text = .ok file → ∀ group key, file.get group key =
      ((placed [] (entries text)).filterMap fun x => valueUnder group key x.1 x.2).getLast? := by
  have he := @parseLines_error_iff _ hl text.lines [] 0 {}
  have hg := @parseLines_get _ hl text.lines [] 0 {}
  change ((∃ e, parseLines 0 text.lines (none, {}) = .error e) ↔ _) at he
  rw [parse]
  cases hp : parseLines 0 text.lines (none, {})
  case error e =>
    rw [hp] at he
    refine ⟨iff_of_true ⟨e, rfl⟩ (he.mp ⟨e, rfl⟩), ?_⟩
    rintro _ ⟨⟩
  case ok progress =>
    rw [hp] at he
    refine ⟨iff_of_false ?_ fun hm => ?_, ?_⟩
    · rintro ⟨_, ⟨⟩⟩
    · obtain ⟨_, ⟨⟩⟩ := he.mpr hm
    · rintro _ ⟨⟩ g k
      exact (hg hp g k).trans (Option.or_none ..)

end OptionFile

section Examples

-- The characters of ASCII. The others have no lower case of their own.
@[reducible]
def Unicode.ascii : Unicode where
  toLowercase c     := [c.toLower]
  isCased c         := c.isAlpha
  isCaseIgnorable c := c ∈ ['\'', '.', ':', '^', '\x60']

attribute [local instance] Unicode.ascii

theorem parse_grammar_client :
    let text := "[client]\nUser_Name = 'root'\n# a comment\n[mysqld]\n[client]\nuser-name: \"a=b\"".toList
    ∃ file, OptionFile.parse text = .ok file ∧
      file.get "client".toList "user-name".toList = some "a=b".toList ∧
      file.get "mysqld".toList "user-name".toList = none := by
  intro text
  have hl : ∀ c, Unicode.toLowercase c ≠ [] := fun c => List.cons_ne_nil c.toLower []
  have h := (OptionFile.parse_grammar hl text).right
  exact ⟨_, rfl, (h _ rfl _ _).trans rfl, (h _ rfl _ _).trans rfl⟩

end Examples
end MySQL
