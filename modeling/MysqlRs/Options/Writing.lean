import Mathlib.Data.List.TakeWhile
import MysqlRs.Options.Grammar

namespace MySQL

namespace Text

-- Every line ends in a newline.
def unlines (ls : List Text) : Text :=
  ls.flatMap (· ++ ['\n'])

theorem splitInclusive_line {c : Char} {line rest : Text} (h : c ∉ line) :
    splitInclusive c (line ++ c :: rest) = (line ++ [c]) :: splitInclusive c rest := by
  induction line
  case nil             => exact if_pos rfl
  case cons d line ih  =>
    have hd : ¬d = c := fun he => h (he ▸ List.mem_cons_self)
    have hs := ih fun hm => h (List.mem_cons_of_mem d hm)
    rw [List.cons_append, splitInclusive, if_neg hd, hs]
    rfl

-- What can be a line as it is.
structure OneLine (line : Text) : Prop where
  newline        : '\n' ∉ line
  carriageReturn : line.getLast? ≠ some '\r'

theorem OneLine.lines {line rest : Text} (h : line.OneLine) :
    lines (line ++ '\n' :: rest) = line :: rest.lines := by
  have newline : stripSuffix '\n' (line ++ ['\n']) = some line := by
    rw [stripSuffix, List.getLast?_concat, if_pos rfl, List.dropLast_concat]
  have carriageReturn : line.stripSuffix '\r' = none := if_neg h.carriageReturn
  rw [Text.lines, splitInclusive_line h.newline, List.map_cons]
  simp only [newline, carriageReturn, Option.getD_none]
  rfl

theorem lines_unlines {ls : List Text} (h : ∀ line ∈ ls, line.OneLine) : (unlines ls).lines = ls := by
  induction ls
  case nil            => rfl
  case cons line ls ih =>
    have ⟨hl, hls⟩ := List.forall_mem_cons.mp h
    have hu : unlines (line :: ls) = line ++ '\n' :: unlines ls := by simp [unlines]
    rw [hu, hl.lines, ih hls]

-- Blanks are taken off both ends only.
theorem trim_of_ends {s : Text} (hh : ∀ c ∈ s.head?, isWhitespace c = false)
    (hl : ∀ c ∈ s.getLast?, isWhitespace c = false) : s.trim = s := by
  have drop {s : Text} (h : ∀ c ∈ s.head?, isWhitespace c = false) : s.dropWhile isWhitespace = s := by
    cases s
    case nil       => rfl
    case cons c cs => exact List.dropWhile_cons_of_neg (by simp [h c rfl])
  rw [trim, drop hh, drop (by rwa [List.head?_reverse]), List.reverse_reverse]

theorem head_of_trim {s : Text} (h : s.trim = s) : ∀ c ∈ s.head?, isWhitespace c = false := by
  intro c hc
  obtain ⟨cs, rfl⟩ : ∃ cs, s = c :: cs := ⟨s.tail, (List.cons_head?_tail hc).symm⟩
  by_contra hw
  have hd : List.dropWhile isWhitespace (c :: cs) = List.dropWhile isWhitespace cs :=
    List.dropWhile_cons_of_pos (by simpa using hw)
  have hl := congrArg List.length h
  have h₁ := List.length_dropWhile_le isWhitespace cs
  have h₂ := List.length_dropWhile_le isWhitespace (List.dropWhile isWhitespace cs).reverse
  rw [trim, hd, List.length_reverse, List.length_cons] at hl
  rw [List.length_reverse] at h₂
  omega

end Text

namespace OptionFile

-- A key and its value, which is written between quotes.
structure Setting where
  key   : Text
  value : Text

structure Group where
  name     : Text
  settings : List Setting

-- The key is not taken for anything else at the beginning of a line, and ends where the separator is.
structure Setting.Writable (s : Setting) : Prop where
  named     : s.key ≠ []
  trimmed   : s.key.trim = s.key
  head      : ∀ c ∈ s.key.head?, c ≠ '[' ∧ c ≠ '#' ∧ c ≠ ';'
  separator : ∀ c ∈ s.key, isSeparator c = false
  key       : '\n' ∉ s.key
  value     : '\n' ∉ s.value

structure IsName (name : Text) : Prop where
  named   : name ≠ []
  trimmed : name.trim = name
  newline : '\n' ∉ name

structure Group.Writable (g : Group) : Prop where
  name     : IsName g.name
  settings : ∀ s ∈ g.settings, s.Writable

def Setting.line (s : Setting) : Text :=
  s.key ++ '=' :: '"' :: (s.value ++ ['"'])

def Group.header (g : Group) : Text :=
  '[' :: (g.name ++ [']'])

def Group.lines (g : Group) : List Text :=
  g.header :: g.settings.map Setting.line

def write (groups : List Group) : Text :=
  Text.unlines (groups.flatMap Group.lines)

-- A key as it is looked up.
def normalized [Unicode] (key : Text) : Text :=
  key.toLowercase.replace '_' ['-']

section Lines

variable {s : Setting} {g : Group}

theorem Setting.line_getLast : s.line.getLast? = some '"' := by
  have he : s.line = (s.key ++ '=' :: '"' :: s.value) ++ ['"'] := by simp [Setting.line]
  rw [he, List.getLast?_concat]

theorem Setting.Writable.line_head (h : s.Writable) : s.line.head? = s.key.head? := by
  obtain ⟨c, cs, hc⟩ := List.exists_cons_of_ne_nil h.named
  rw [Setting.line, hc]
  rfl

theorem Setting.Writable.oneLine (h : s.Writable) : s.line.OneLine where
  newline := by simp [Setting.line, h.key, h.value]
  carriageReturn := by
    rw [Setting.line_getLast]
    decide

theorem Group.Writable.oneLine (h : g.Writable) : g.header.OneLine where
  newline := by simp [Group.header, h.name.newline]
  carriageReturn := by
    rw [Group.header, ← List.cons_append, List.getLast?_concat]
    decide

theorem Setting.Writable.trim (h : s.Writable) : s.line.trim = s.line := by
  refine Text.trim_of_ends ?_ ?_
  · rw [h.line_head]
    exact Text.head_of_trim h.trimmed
  · rw [Setting.line_getLast]
    rintro _ ⟨⟩
    decide

theorem Group.header_trim : g.header.trim = g.header := by
  refine Text.trim_of_ends ?_ ?_
  · rintro _ ⟨⟩
    decide
  · rw [Group.header, ← List.cons_append, List.getLast?_concat]
    rintro _ ⟨⟩
    decide

theorem Setting.Writable.counts (h : s.Writable) : Counts s.line := by
  obtain ⟨c, cs, hc⟩ := List.exists_cons_of_ne_nil h.named
  have ⟨_, hh, hs⟩ := h.head c (hc ▸ rfl)
  refine ⟨by simp [Setting.line], ?_, ?_⟩
  · rw [h.line_head, hc]
    exact fun he => hh (Option.some.inj he)
  · rw [h.line_head, hc]
    exact fun he => hs (Option.some.inj he)

theorem Setting.Writable.not_isHeader (h : s.Writable) : ¬IsHeader s.line := by
  obtain ⟨c, cs, hc⟩ := List.exists_cons_of_ne_nil h.named
  rw [IsHeader, h.line_head, hc]
  exact fun he => (h.head c (hc ▸ rfl)).left (Option.some.inj he)

-- The first separator is the one between the key and the value.
theorem Setting.Writable.optionName (h : s.Writable) : optionName s.line = s.key := by
  have hk : ∀ c ∈ s.key, (!isSeparator c) = true := fun c hc => by simp [h.separator c hc]
  have he : s.line.takeWhile (fun c => !isSeparator c) = s.key := by
    rw [Setting.line, List.takeWhile_append_of_pos hk, List.takeWhile_cons_of_neg (by decide), List.append_nil]
  rw [OptionFile.optionName, he, h.trimmed]

theorem stripQuotes_quoted {value : Text} : stripQuotes ('"' :: (value ++ ['"'])) = value := by
  have hl : 2 ≤ Text.len ('"' :: (value ++ ['"'])) := by
    rw [← List.singleton_append, Text.len_append, Text.len_append]
    have hq : Text.len ['"'] = 1 := by decide
    omega
  have he : List.getLast? ('"' :: (value ++ ['"'])) = some '"' := by
    rw [← List.cons_append, List.getLast?_concat]
  rw [stripQuotes, he]
  simp [hl]

theorem Setting.Writable.optionValue (h : s.Writable) : optionValue s.line = s.value := by
  have hk : ∀ c ∈ s.key, (!isSeparator c) = true := fun c hc => by simp [h.separator c hc]
  have he : (s.line.dropWhile fun c => !isSeparator c).tail = '"' :: (s.value ++ ['"']) := by
    rw [Setting.line, List.dropWhile_append_of_pos hk, List.dropWhile_cons_of_neg (by decide)]
    rfl
  have ht : Text.trim ('"' :: (s.value ++ ['"'])) = '"' :: (s.value ++ ['"']) := by
    refine Text.trim_of_ends ?_ ?_
    · rintro _ ⟨⟩
      decide
    · rw [← List.cons_append, List.getLast?_concat]
      rintro _ ⟨⟩
      decide
  rw [OptionFile.optionValue, he, ht, stripQuotes_quoted]

theorem Group.Writable.sectionName (h : g.Writable) : sectionName g.header = g.name := by
  rw [OptionFile.sectionName, Group.header, List.tail_cons, List.dropLast_concat, h.name.trimmed]

end Lines

section Reading

variable [Unicode] {s : Setting} {g : Group} {group : Option Text} {file : OptionFile} {lineNo : Nat}

-- What a group adds to a file.
def Group.into (file : OptionFile) (g : Group) : OptionFile :=
  g.settings.foldl (fun file s => file.insert g.name (normalized s.key) s.value) file

theorem Setting.Writable.parseLine (h : s.Writable) (hl : ∀ c, Unicode.toLowercase c ≠ []) (name : Text) :
    parseLine lineNo s.line (some name) file = .ok (some name, file.insert name (normalized s.key) s.value) := by
  have hk : optionKey s.line ≠ [] := by
    rw [ne_eq, optionKey_eq_nil_iff hl, h.optionName]
    exact h.named
  rw [parseLine_eq, h.trim, if_neg (not_not.mpr h.counts), if_neg h.not_isHeader]
  simp only [if_neg hk]
  rw [optionKey, h.optionName, h.optionValue]
  rfl

theorem Group.Writable.parseLine (h : g.Writable) : parseLine lineNo g.header group file = .ok (some g.name, file) := by
  have counts : Counts g.header := ⟨List.cons_ne_nil _ _, by simp [Group.header], by simp [Group.header]⟩
  have closed : ¬g.header.getLast? ≠ some ']' := by
    rw [Group.header, ← List.cons_append, List.getLast?_concat]
    exact not_not.mpr rfl
  have named : ¬OptionFile.sectionName g.header = [] := h.sectionName ▸ h.name.named
  have header : IsHeader g.header := rfl
  rw [parseLine_eq, Group.header_trim, if_neg (not_not.mpr counts), if_pos header, if_neg closed, if_neg named,
    h.sectionName]

theorem parseLines_settings (hl : ∀ c, Unicode.toLowercase c ≠ []) {name : Text} {settings : List Setting}
    (h : ∀ s ∈ settings, s.Writable) {rest : List Text} :
    parseLines lineNo (settings.map Setting.line ++ rest) (some name, file) =
      parseLines (lineNo + settings.length) rest
        (some name, settings.foldl (fun file s => file.insert name (normalized s.key) s.value) file) := by
  induction settings generalizing lineNo file
  case nil             => rfl
  case cons s settings ih =>
    have ⟨hs, hss⟩ := List.forall_mem_cons.mp h
    have hn : lineNo + (s :: settings).length = lineNo + 1 + settings.length := by
      rw [List.length_cons]
      omega
    rw [List.map_cons, List.cons_append, parseLines, hs.parseLine hl, hn]
    exact ih hss

theorem parseLines_groups (hl : ∀ c, Unicode.toLowercase c ≠ []) {groups : List Group} (h : ∀ g ∈ groups, g.Writable)
    (lineNo : Nat) (group : Option Text) (file : OptionFile) :
    ∃ last, parseLines lineNo (groups.flatMap Group.lines) (group, file) =
      .ok (last, groups.foldl Group.into file) := by
  induction groups generalizing lineNo group file
  case nil             => exact ⟨group, rfl⟩
  case cons g groups ih =>
    have ⟨hg, hgs⟩ := List.forall_mem_cons.mp h
    rw [List.flatMap_cons, Group.lines, List.cons_append, parseLines, hg.parseLine]
    obtain ⟨last, hp⟩ := ih hgs (lineNo + 1 + g.settings.length) (some g.name) (g.into file)
    exact ⟨last, (parseLines_settings hl hg.settings).trans hp⟩

-- The value of the last setting with a key.
def settingFor (settings : List Setting) (key : Text) : Option Text :=
  (settings.reverse.find? fun s => normalized s.key = key).map Setting.value

-- The settings of all groups with a name.
def settingsOf (groups : List Group) (name : Text) : List Setting :=
  (groups.filter fun g => g.name = name).flatMap Group.settings

theorem settingFor_append {xs ys : List Setting} {key : Text} :
    settingFor (xs ++ ys) key = (settingFor ys key).or (settingFor xs key) := by
  rw [settingFor, List.reverse_append, List.find?_append, Option.map_or]
  rfl

theorem settingFor_cons {xs : List Setting} {key : Text} :
    settingFor (s :: xs) key = (settingFor xs key).or (if normalized s.key = key then some s.value else none) := by
  rw [← List.singleton_append, settingFor_append]
  refine congrArg _ ?_
  by_cases hk : normalized s.key = key
  all_goals simp [settingFor, hk]

theorem Group.into_get {name key : Text} :
    (g.into file).get name key =
      (if g.name = name then settingFor g.settings key else none).or (file.get name key) := by
  obtain ⟨gname, settings⟩ := g
  rw [Group.into]
  induction settings generalizing file
  case nil             => split <;> rfl
  case cons s settings ih =>
    rw [List.foldl_cons, ih, insert_get, settingFor_cons]
    by_cases hn : gname = name
    case neg => simp [hn, Ne.symm hn]
    case pos =>
      subst hn
      by_cases hk : normalized s.key = key
      case neg => simp [hk, Ne.symm hk]
      case pos =>
        subst hk
        simp

theorem foldl_into_get {groups : List Group} {name key : Text} :
    (groups.foldl Group.into file).get name key = (settingFor (settingsOf groups name) key).or (file.get name key) := by
  induction groups generalizing file
  case nil             => rfl
  case cons g groups ih =>
    rw [List.foldl_cons, ih, Group.into_get, settingsOf, settingsOf, List.filter_cons]
    by_cases hn : g.name = name
    case neg => simp [hn]
    case pos => simp [hn, settingFor_append, Option.or_assoc]

-- What is written is read back.
theorem parse_write (hl : ∀ c, Unicode.toLowercase c ≠ []) {groups : List Group} (h : ∀ g ∈ groups, g.Writable) :
    ∃ file, parse (write groups) = .ok file ∧
      ∀ name key, file.get name key = settingFor (settingsOf groups name) key := by
  have oneLine : ∀ line ∈ groups.flatMap Group.lines, line.OneLine := by
    intro line hm
    obtain ⟨g, hg, hm⟩ := List.mem_flatMap.mp hm
    obtain rfl | hm := List.mem_cons.mp hm
    · exact (h g hg).oneLine
    · obtain ⟨s, hs, rfl⟩ := List.mem_map.mp hm
      exact ((h g hg).settings s hs).oneLine
  obtain ⟨last, hp⟩ := parseLines_groups hl h 0 none {}
  refine ⟨groups.foldl Group.into {}, ?_, fun name key => ?_⟩
  · rw [parse, write, Text.lines_unlines oneLine, hp]
    rfl
  · rw [foldl_into_get]
    exact Option.or_none ..

end Reading

example : write [⟨"client".toList, [⟨"user".toList, "root".toList⟩, ⟨"port".toList, "3306".toList⟩]⟩] =
    "[client]\nuser=\"root\"\nport=\"3306\"\n".toList := by
  decide

end OptionFile
end MySQL
