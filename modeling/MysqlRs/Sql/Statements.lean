import MysqlRs.Library.Scanning
import MysqlRs.Sql.Sequences
import MysqlRs.Tokio.Mogrify
import MysqlRs.Values.Numbers

namespace MySQL

open Scanning

-- What a statement is made of for the server: tokens, what is in other quotes, and comments.
inductive Lexeme
  | token (t : Token)
  | quoted (mark : Char) (s : Text)
  | comment (s : Text)

structure SqlMode where
  backslashes : Bool
  ansiQuotes  : Bool

-- The server's lexer behind a quote: what is in front of the one that closes, as it stands, and what follows it.
def lexQuotedBody (escapes : Bool) (mark : Char) : Text → Option (Text × Text)
  | []             => none
  | [c]            => if c = mark then some ([], []) else none
  | c :: d :: rest =>
    if c = mark then
      if d = mark then (fun r => (c :: d :: r.1, r.2)) <$> lexQuotedBody escapes mark rest
      else some ([], d :: rest)
    else if escapes ∧ c = '\\' then (fun r => (c :: d :: r.1, r.2)) <$> lexQuotedBody escapes mark rest
    else (fun r => (c :: r.1, r.2)) <$> lexQuotedBody escapes mark (d :: rest)

def lexBlock : Text → Option (Text × Text)
  | []               => none
  | [_]              => none
  | c :: d :: rest   =>
    if c = '*' ∧ d = '/' then some ([], rest)
    else (fun r => (c :: r.1, r.2)) <$> lexBlock (d :: rest)

def lexLine (s : Text) : Lexeme × Text :=
  (.comment (s.takeWhile (· ≠ '\n')), s.dropWhile (· ≠ '\n'))

def isBlank (c : Char) : Bool :=
  c.toNat ≤ 32

-- The characters of names, numbers and keywords.
def isNameChar (c : Char) : Bool :=
  isWordChar c || c = '_' || c = '$' || 128 ≤ c.toNat

-- Two dashes begin a comment only in front of a blank.
def lexLexeme (mode : SqlMode) : Text → Option (Lexeme × Text)
  | []     => none
  | c :: s =>
    if c = '"' then
      (fun r => (.quoted c r.1, r.2)) <$> lexQuotedBody (mode.backslashes && !mode.ansiQuotes) c s
    else if c = '\x60' then (fun r => (.quoted c r.1, r.2)) <$> lexQuotedBody false c s
    else if c = '#' then some (lexLine s)
    else if c = '-' ∧ s.head? = some '-' ∧ s.tail.head?.all isBlank then some (lexLine s.tail)
    else if c = '/' ∧ s.head? = some '*' then (fun r => (.comment r.1, r.2)) <$> lexBlock s.tail
    else if isNameChar c ∧ ¬(c = 'X' ∧ s.head? = some '\'') then
      some (.token (.word ((c :: s).takeWhile isNameChar)), (c :: s).dropWhile isNameChar)
    else (fun r => (.token r.1, r.2)) <$> lexToken mode.backslashes (c :: s)

section Local

variable {b : Bool} {mode : SqlMode} {s r v : Text} {t : Token} {x : Lexeme} (more : Text)

theorem lexStringBody_extend (h : lexStringBody b s = some (v, r)) (hr : r ≠ []) :
    lexStringBody b (s ++ more) = some (v, r ++ more) := by
  fun_induction lexStringBody b s generalizing v
  case case1 | case3 => cases h
  case case2 =>
    obtain ⟨_, rfl⟩ := Prod.mk.inj (Option.some.inj h)
    exact absurd rfl hr
  case case4 rest ih =>
    rw [List.cons_append, List.cons_append, lex_quotes]
    exact map_extend h fun _ => ih
  case case5 d rest hd =>
    obtain ⟨rfl, rfl⟩ := Prod.mk.inj (Option.some.inj h)
    exact lex_close _ fun he => hd (Option.some.inj he)
  case case6 d rest hc hb ih =>
    rw [List.cons_append, List.cons_append, lexStringBody, if_neg hc, if_pos hb]
    exact map_extend h fun _ => ih
  case case7 d rest hc hb ih =>
    rw [List.cons_append, lex_plain _ hc hb]
    exact map_extend h fun _ => ih

theorem lexQuotedBody_extend {mark : Char} (h : lexQuotedBody b mark s = some (v, r)) (hr : r ≠ []) :
    lexQuotedBody b mark (s ++ more) = some (v, r ++ more) := by
  fun_induction lexQuotedBody b mark s generalizing v
  case case1 | case3 => cases h
  case case2 =>
    obtain ⟨_, rfl⟩ := Prod.mk.inj (Option.some.inj h)
    exact absurd rfl hr
  case case4 rest ih =>
    rw [List.cons_append, List.cons_append, lexQuotedBody, if_pos rfl, if_pos rfl]
    exact map_extend (f := (mark :: mark :: ·)) h fun _ => ih
  case case5 d rest hd =>
    obtain ⟨rfl, rfl⟩ := Prod.mk.inj (Option.some.inj h)
    rw [List.cons_append, List.cons_append, lexQuotedBody, if_pos rfl, if_neg hd]
  case case6 c d rest hc hb ih =>
    rw [List.cons_append, List.cons_append, lexQuotedBody, if_neg hc, if_pos hb]
    exact map_extend (f := (c :: d :: ·)) h fun _ => ih
  case case7 d rest hc hb ih =>
    rw [List.cons_append, List.cons_append, lexQuotedBody, if_neg hc, if_neg hb]
    exact map_extend h fun _ => ih

theorem lexBlock_extend (h : lexBlock s = some (v, r)) : lexBlock (s ++ more) = some (v, r ++ more) := by
  fun_induction lexBlock s generalizing v
  case case1 | case2 => cases h
  case case3 rest hc =>
    obtain ⟨rfl, rfl⟩ := Prod.mk.inj (Option.some.inj h)
    rw [List.cons_append, List.cons_append, lexBlock, if_pos hc]
  case case4 rest hc ih =>
    rw [List.cons_append, List.cons_append, lexBlock, if_neg hc]
    exact map_extend h fun _ => ih

theorem lexLine_extend (h : lexLine s = (x, r)) (hr : r ≠ []) : lexLine (s ++ more) = (x, r ++ more) := by
  obtain ⟨rfl, rfl⟩ := Prod.mk.inj h
  rw [lexLine, takeWhile_extend hr, dropWhile_extend hr]

theorem lexHexBody_extend (h : lexHexBody s = some (v, r)) : lexHexBody (s ++ more) = some (v, r ++ more) := by
  rw [lexHexBody] at h
  split at h
  case h_2 => cases h
  case h_1 rest hd =>
    have hn : s.dropWhile isHexDigit ≠ [] := by rw [hd]; exact List.cons_ne_nil _ _
    rw [lexHexBody, takeWhile_extend hn, dropWhile_extend hn, hd]
    simp only [List.cons_append]
    split_ifs at h ⊢
    obtain ⟨rfl, rfl⟩ := Prod.mk.inj (Option.some.inj h)
    rfl

theorem lexToken_single {c : Char} (h : lexToken b [c] = some (t, r)) : r = [] := by
  rw [lexToken] at h
  split_ifs at h with hc hx hw
  case pos => cases h
  case pos => cases hx.right
  case pos =>
    obtain ⟨_, rfl⟩ := Prod.mk.inj (Option.some.inj h)
    simp [hw]
  case neg =>
    obtain ⟨_, rfl⟩ := Prod.mk.inj (Option.some.inj h)
    rfl

theorem lexToken_extend (h : lexToken b s = some (t, r)) (hr : r ≠ []) :
    lexToken b (s ++ more) = some (t, r ++ more) := by
  cases s
  case nil => cases h
  case cons c s =>
    have hs : s ≠ [] := by
      rintro rfl
      exact hr (lexToken_single h)
    have hx : (c = 'X' ∧ (s ++ more).head? = some '\'') ↔ (c = 'X' ∧ s.head? = some '\'') := by
      rw [List.head?_append_of_ne_nil s hs]
    rw [lexToken] at h
    rw [List.cons_append, lexToken, List.drop_append_of_le_length (List.length_pos_iff.mpr hs)]
    refine ite_extend h .rfl (fun _ h => map_extend h fun _ hv => lexStringBody_extend more hv hr) fun _ h => ?_
    refine ite_extend h hx (fun _ h => map_extend h fun _ hv => lexHexBody_extend more hv) fun _ h => ?_
    refine ite_extend h .rfl (fun _ h => ?_) fun _ h => ?_
    · obtain ⟨rfl, rfl⟩ := Prod.mk.inj (Option.some.inj h)
      rw [← List.cons_append, takeWhile_extend hr, dropWhile_extend hr]
    · obtain ⟨rfl, rfl⟩ := Prod.mk.inj (Option.some.inj h)
      rfl

theorem lexLexeme_single {c : Char} (h : lexLexeme mode [c] = some (x, r)) : r = [] := by
  rw [lexLexeme] at h
  split_ifs at h with _ _ _ _ hs hw
  case pos | pos => cases h
  case pos | pos =>
    obtain ⟨_, rfl⟩ := Prod.mk.inj (Option.some.inj h)
    rfl
  case pos => cases hs.right
  case pos =>
    obtain ⟨_, rfl⟩ := Prod.mk.inj (Option.some.inj h)
    simp [hw.left]
  case neg =>
    obtain ⟨⟨t, r⟩, ht, hx⟩ := Option.map_eq_some_iff.mp h
    obtain ⟨_, rfl⟩ := Prod.mk.inj hx
    exact lexToken_single ht

theorem lexLexeme_local : Local (lexLexeme mode) where
  empty := rfl
  extend {s r x} more h hr := by
    cases s
    case nil => cases h
    case cons c s =>
      obtain ⟨d, s, rfl⟩ : ∃ d s', s = d :: s' := List.exists_cons_of_ne_nil fun hs => hr (lexLexeme_single (hs ▸ h))
      have hd : (c = '-' ∧ some d = some '-' ∧ (s ++ more).head?.all isBlank) ↔
          (c = '-' ∧ some d = some '-' ∧ s.head?.all isBlank) := by
        refine and_congr_right fun hc => and_congr_right fun hd => ?_
        have hs : s ≠ [] := by
          rintro rfl
          obtain rfl := hc
          obtain rfl := Option.some.inj hd
          obtain ⟨_, rfl⟩ := Prod.mk.inj (Option.some.inj h)
          exact hr rfl
        rw [List.head?_append_of_ne_nil s hs]
      rw [lexLexeme] at h
      rw [List.cons_append, lexLexeme]
      refine ite_extend h .rfl (fun _ h => map_extend h fun _ hv => lexQuotedBody_extend more hv hr) fun _ h => ?_
      refine ite_extend h .rfl (fun _ h => map_extend h fun _ hv => lexQuotedBody_extend more hv hr) fun _ h => ?_
      refine ite_extend h .rfl (fun _ h => congrArg some (lexLine_extend more (Option.some.inj h) hr)) fun _ h => ?_
      refine ite_extend h hd (fun _ h => congrArg some (lexLine_extend more (Option.some.inj h) hr)) fun _ h => ?_
      refine ite_extend h .rfl (fun _ h => map_extend h fun _ hv => lexBlock_extend more hv) fun _ h => ?_
      refine ite_extend h .rfl (fun _ h => ?_) fun _ h => map_extend h fun _ hv => lexToken_extend more hv hr
      obtain ⟨rfl, rfl⟩ := Prod.mk.inj (Option.some.inj h)
      rw [← List.cons_append, takeWhile_extend hr, dropWhile_extend hr]

end Local

-- What is behind a literal does not continue it.
def Bounded (rest : Text) : Prop :=
  ∀ c ∈ rest.head?, ¬isNameChar c ∧ c ≠ '\''

section Tokens

variable {mode : SqlMode} {s r w more : Text} {t : Token} {c : Char} {xs : List Lexeme}

theorem isNameChar_of_isWordChar (h : isWordChar c) : isNameChar c := by
  simp [isNameChar, h]

theorem Bounded.ended (h : Bounded r) : Ended r :=
  fun c hc => ⟨fun hw => (h c hc).left (isNameChar_of_isWordChar hw), (h c hc).right⟩

theorem Bounded.cons (h : ¬isNameChar c) (hc : c ≠ '\'') : Bounded (c :: r) := by
  rintro _ ⟨⟩
  exact ⟨h, hc⟩

theorem lexLexeme_token (hq : c ∉ ['"', '\x60', '#', '-']) (hb : c = '/' → s.head? ≠ some '*')
    (hw : isNameChar c → c = 'X' ∧ s.head? = some '\'') :
    lexLexeme mode (c :: s) = (fun r => (.token r.1, r.2)) <$> lexToken mode.backslashes (c :: s) := by
  simp only [List.mem_cons, List.not_mem_nil, or_false, not_or] at hq
  rw [lexLexeme, if_neg hq.left, if_neg hq.right.left, if_neg hq.right.right.left,
    if_neg fun h => hq.right.right.right h.left, if_neg fun h => hb h.left h.right, if_neg fun h => h.right (hw h.left)]

theorem lexLexeme_symbol (hw : ¬isNameChar c) (hc : c ≠ '\'') (hq : c ∉ ['"', '\x60', '#'])
    (hb : ¬(c = '/' ∧ s.head? = some '*')) : lexLexeme mode (c :: s) = some (.token (.symbol c), s) := by
  have hd : c ≠ '-' := by
    rintro rfl
    exact hw (by decide)
  have hq : c ∉ ['"', '\x60', '#', '-'] := by
    simp only [List.mem_cons, List.not_mem_nil, or_false, not_or] at hq ⊢
    exact ⟨hq.left, hq.right.left, hq.right.right, hd⟩
  rw [lexLexeme_token hq (fun h hs => hb ⟨h, hs⟩) fun h => absurd h hw,
    lexToken_symbol (mt isNameChar_of_isWordChar hw) hc]
  rfl

theorem of_lexToken_symbol {b : Bool} {d : Char} (h : lexToken b (d :: s) = some (.symbol c, r)) :
    d :: s = c :: r ∧ ¬isWordChar c ∧ c ≠ '\'' := by
  rw [lexToken] at h
  split_ifs at h with hc hx hw
  case pos | pos =>
    obtain ⟨_, _, hx⟩ := Option.map_eq_some_iff.mp h
    cases hx
  case pos => cases (Prod.mk.inj (Option.some.inj h)).left
  case neg =>
    obtain ⟨hs, rfl⟩ := Prod.mk.inj (Option.some.inj h)
    obtain rfl := Token.symbol.inj hs
    exact ⟨rfl, hw, hc⟩

theorem of_lexLexeme_symbol (h : lexLexeme mode s = some (.token (.symbol c), r)) :
    s = c :: r ∧ ¬isNameChar c ∧ c ≠ '\'' ∧ c ∉ ['"', '\x60', '#'] := by
  cases s
  case nil => cases h
  case cons d s =>
    rw [lexLexeme] at h
    split_ifs at h with h₁ h₂ h₃ h₄ h₅ h₆
    case pos | pos =>
      obtain ⟨_, _, hx⟩ := Option.map_eq_some_iff.mp h
      cases hx
    case pos | pos => cases (Prod.mk.inj (Option.some.inj h)).left
    case pos =>
      obtain ⟨_, _, hx⟩ := Option.map_eq_some_iff.mp h
      cases hx
    case pos => cases (Prod.mk.inj (Option.some.inj h)).left
    case neg =>
      obtain ⟨⟨t, r⟩, ht, hx⟩ := Option.map_eq_some_iff.mp h
      obtain ⟨ht', rfl⟩ := Prod.mk.inj hx
      obtain rfl := Lexeme.token.inj ht'
      obtain ⟨hs, hw, hc⟩ := of_lexToken_symbol ht
      obtain ⟨rfl, _⟩ := List.cons.inj hs
      have hn : ¬isNameChar d := by
        intro hn
        refine h₆ ⟨hn, ?_⟩
        rintro ⟨rfl, _⟩
        exact hw (by decide)
      exact ⟨hs, hn, hc, by simp [h₁, h₂, h₃]⟩

-- What ends with a symbol is read the same in front of anything that does not make a comment of it.
theorem scans_symbol (h : Scans (lexLexeme mode) s (xs ++ [.token (.symbol c)]) [])
    (hm : ¬(c = '/' ∧ more.head? = some '*')) :
    Scans (lexLexeme mode) (s ++ more) (xs ++ [.token (.symbol c)]) more := by
  obtain ⟨r, hx, hy⟩ := h.split
  obtain _ | ⟨hn, hy⟩ := hy
  obtain _ | _ := hy
  obtain ⟨rfl, hw, hc, hq⟩ := of_lexLexeme_symbol hn
  have hx := hx.extend lexLexeme_local (List.cons_ne_nil c []) more
  exact hx.append (.single (lexLexeme_symbol hw hc hq hm))

theorem lexLexeme_word (hw : ∀ c ∈ w, isWordChar c) (hn : w ≠ []) (hx : w.head? ≠ some 'X')
    (hd : ¬['-', '-'] <+: w) (hm : Bounded more) : lexLexeme mode (w ++ more) = some (.token (.word w), more) := by
  obtain ⟨htake, hdrop⟩ := takeWhile_run (fun c hc => isNameChar_of_isWordChar (hw c hc)) more
    fun c hc => (hm c hc).left
  obtain ⟨c, w, rfl⟩ := List.exists_cons_of_ne_nil hn
  have hc : isWordChar c := hw c List.mem_cons_self
  have ne {d : Char} (hd : isWordChar d = false) : c ≠ d := by
    rintro rfl
    rw [hd] at hc
    cases hc
  have hs : ¬(c = '-' ∧ (w ++ more).head? = some '-' ∧ (w ++ more).tail.head?.all isBlank) := by
    rintro ⟨rfl, hs, -⟩
    cases w
    case nil => exact (hm '-' hs).left (by decide)
    case cons d w =>
      obtain rfl := Option.some.inj hs
      exact hd ⟨w, rfl⟩
  have hX : ¬(c = 'X' ∧ (w ++ more).head? = some '\'') := fun h => hx (congrArg some h.left)
  rw [List.cons_append] at htake hdrop ⊢
  rw [lexLexeme, if_neg (ne (by decide)), if_neg (ne (by decide)), if_neg (ne (by decide)), if_neg hs,
    if_neg fun h => ne (by decide) h.left, if_pos ⟨isNameChar_of_isWordChar hc, hX⟩, htake, hdrop]

theorem lexLexeme_string (h : lexToken mode.backslashes ('\'' :: s) = some (t, r)) :
    lexLexeme mode ('\'' :: s) = some (.token t, r) := by
  rw [lexLexeme_token (by decide) (fun h => absurd h (by decide)) (fun h => absurd h (by decide)), h]
  rfl

theorem lexLexeme_hex {ds : Text} (hd : ∀ c ∈ ds, isHexDigit c) (hl : ds.length % 2 = 0) (more : Text) :
    lexLexeme mode ('X' :: '\'' :: ds ++ ['\''] ++ more) = some (.token (.hex ds), more) := by
  have ht : lexToken mode.backslashes ('X' :: '\'' :: ds ++ ['\''] ++ more) = some (.hex ds, more) :=
    lexToken_hex hd hl more
  rw [List.cons_append, List.cons_append, List.cons_append] at ht ⊢
  rw [lexLexeme_token (by decide) (fun h => absurd h (by decide)) (fun _ => ⟨rfl, rfl⟩), ht]
  rfl

end Tokens

section Conveys

variable {mode : SqlMode} {text text' : Text} {t : Token} {p : Piece} {ps ps' : List Piece}

-- Wherever the text stands, the server reads the same tokens, and they are what they are meant to be.
structure Conveys (mode : SqlMode) (text : Text) (ps : List Piece) : Prop where
  head  : text.head? ≠ some '*'
  scans : ∃ ts, List.Forall₂ Piece.Admits ps ts ∧
    ∀ more, Bounded more → Scans (lexLexeme mode) (text ++ more) (ts.map .token) more

namespace Conveys

theorem empty : Conveys mode [] [] where
  head  := by simp
  scans := ⟨[], .nil, fun more _ => .nil more⟩

theorem token (h : ∀ more, Bounded more → lexLexeme mode (text ++ more) = some (.token t, more)) (ht : p.Admits t)
    (hh : text.head? ≠ some '*') : Conveys mode text [p] where
  head  := hh
  scans := ⟨[t], .cons ht .nil, fun more hm => .single (h more hm)⟩

theorem append (h : Conveys mode text ps) (h' : Conveys mode text' ps')
    (he : ∀ more, Bounded more → Bounded (text' ++ more)) : Conveys mode (text ++ text') (ps ++ ps') where
  head := by
    cases text
    case nil  => exact h'.head
    case cons => exact h.head
  scans := by
    obtain ⟨ts, hts, hs⟩ := h.scans
    obtain ⟨ts', hts', hs'⟩ := h'.scans
    refine ⟨ts ++ ts', List.rel_append hts hts', fun more hm => ?_⟩
    rw [List.append_assoc, List.map_append]
    exact (hs _ (he more hm)).append (hs' more hm)

theorem punctuation {c : Char} (h : Conveys mode text ps) (hw : ¬isNameChar c) (hc : c ≠ '\'')
    (hq : c ∉ ['"', '\x60', '#', '/', '*']) : Conveys mode (c :: text) (.punctuation c :: ps) where
  head := by
    intro hh
    obtain rfl := Option.some.inj hh
    exact hq (by decide)
  scans := by
    obtain ⟨ts, hts, hs⟩ := h.scans
    simp only [List.mem_cons, List.not_mem_nil, or_false, not_or] at hq
    refine ⟨.symbol c :: ts, .cons rfl hts, fun more hm => .cons ?_ (hs more hm)⟩
    refine lexLexeme_symbol hw hc ?_ fun h => hq.right.right.right.left h.left
    simp [hq.left, hq.right.left, hq.right.right.left]

theorem word (hw : ∀ c ∈ text, isWordChar c) (hn : text ≠ []) (hx : text.head? ≠ some 'X')
    (hd : ¬['-', '-'] <+: text) : Conveys mode text [.literal] := by
  refine .token (fun _ hm => lexLexeme_word hw hn hx hd hm) trivial fun hh => ?_
  exact absurd (hw _ (List.mem_of_head? hh)) (by decide)

theorem numeral (h : ∀ c ∈ text, Float64.isNumeral c) (hn : text ≠ []) (hd : ¬['-', '-'] <+: text) :
    Conveys mode text [.literal] := by
  have hx : text.head? ≠ some 'X' := fun hx => absurd (h _ (List.mem_of_head? hx)) (by decide)
  exact .word (fun c hc => isWordChar_of_isNumeral (h c hc)) hn hx hd

theorem hex {ds : Text} (hd : ∀ c ∈ ds, isHexDigit c) (hl : ds.length % 2 = 0) :
    Conveys mode ('X' :: '\'' :: ds ++ ['\'']) [.literal] :=
  .token (fun more _ => lexLexeme_hex hd hl more) trivial (by simp)

theorem quoted {s v : Text}
    (h : ∀ more, Bounded more → lexToken mode.backslashes (quoted s ++ more) = some (.string v, more))
    (hp : p.Admits (.string v)) : Conveys mode (quoted s) [p] :=
  .token (fun more hm => lexLexeme_string (h more hm)) hp (by simp [MySQL.quoted])

theorem calendar (h : ∀ c ∈ text, isCalendar c) : Conveys mode (MySQL.quoted text) [.literal] := by
  have hq : '\'' ∉ text := fun hc => absurd (h _ hc) (by decide)
  have hb : '\\' ∉ text := fun hc => absurd (h _ hc) (by decide)
  exact .quoted (fun _ hm => lexToken_quoted hq hb hm.ended) trivial

end Conveys
end Conveys

-- No decimal number begins with two signs.
structure Spelled [Libraries] : Prop extends Formatted where
  signs : ∀ d, ¬['-', '-'] <+: Decimals.format d

section Signs

theorem signs_of_body {p : Prop} [Decidable p] {body : Text} (h : '-' ∉ body) :
    ¬['-', '-'] <+: (if p then ['-'] else []) ++ body := by
  rintro ⟨s, hs⟩
  split_ifs at hs
  case pos =>
    have hs : '-' :: s = body := (List.cons.inj hs).right
    exact h (hs ▸ List.mem_cons_self)
  case neg =>
    have hs : '-' :: '-' :: s = body := hs
    exact h (hs ▸ List.mem_cons_self)

theorem ofInt_signs (i : Int) : ¬['-', '-'] <+: Text.ofInt i := by
  have hd : '-' ∉ Text.ofNat i.natAbs := fun h => absurd (isDigit_of_mem_ofNat h) (by decide)
  have hs : Text.ofInt i = (if i < 0 then ['-'] else []) ++ Text.ofNat i.natAbs := by
    rw [Text.ofInt]
    split <;> rfl
  rw [hs]
  exact signs_of_body hd

theorem parse_signs {s : Text} {f : Float64} (h : Float64.parse s = some f) : ¬['-', '-'] <+: s := by
  rintro ⟨s, rfl⟩
  cases h

end Signs

namespace Value

section Conveyed

variable [Libraries] {mode : SqlMode} {encoding : Text} {value : Value} {values : List Value}

def Conveyed (mode : SqlMode) (encoding : Text) (value : Value) : Prop :=
  ∃ text, value.toSql encoding = .ok text ∧ Conveys mode text value.pieces

def ItemsConveyed (mode : SqlMode) (encoding : Text) (values : List Value) : Prop :=
  ∃ texts, toSqlItems encoding values = .ok texts ∧ texts.length = values.length ∧
    Conveys mode (Text.join [','] texts) (itemPieces values)

theorem itemsConveyed_cons (h : value.Conveyed mode encoding) (hs : ItemsConveyed mode encoding values) :
    ItemsConveyed mode encoding (value :: values) := by
  obtain ⟨text, ht, hp⟩ := h
  obtain ⟨texts, hts, hl, hps⟩ := hs
  refine ⟨text :: texts, by simp [toSqlItems, ht, hts, bind, Except.bind, pure, Except.pure], ?_, ?_⟩
  · rw [List.length_cons, List.length_cons, hl]
  · cases values
    case nil =>
      obtain rfl := List.length_eq_zero_iff.mp hl
      simpa [itemPieces, Text.join] using hp
    case cons w vs =>
      obtain ⟨t, ts, rfl⟩ := List.exists_cons_of_length_eq_add_one hl
      have he : ∀ rest, Bounded (',' :: Text.join [','] (t :: ts) ++ rest) :=
        fun rest => .cons (by decide) (by decide)
      simpa [itemPieces, Text.join] using
        hp.append (hps.punctuation (c := ',') (by decide) (by decide) (by decide)) fun rest _ => he rest

theorem conveyed_of_items (h : ItemsConveyed mode encoding values) :
    (list values).Conveyed mode encoding ∧ (set values).Conveyed mode encoding := by
  obtain ⟨texts, ht, _, hp⟩ := h
  refine ⟨⟨'(' :: Text.join [','] texts ++ [')'], ?_, ?_⟩, ⟨Text.join [','] texts, ?_, hp⟩⟩
  · simp [toSql, ht, bind, Except.bind, pure, Except.pure]
  · have hc : Conveys mode [')'] [.punctuation ')'] :=
      Conveys.empty.punctuation (by decide) (by decide) (by decide)
    exact (hp.append hc fun rest _ => .cons (by decide) (by decide)).punctuation (c := '(') (by decide) (by decide)
      (by decide)
  · simp [toSql, ht, bind, Except.bind, pure, Except.pure]

theorem conveyed_string {s : Text} (h : mode.backslashes = true ∨ (string s).Plain) :
    (string s).Conveyed mode encoding := by
  refine ⟨_, rfl, .quoted (v := s) (fun more hm => ?_) rfl⟩
  by_cases hb : mode.backslashes = true
  case pos =>
    rw [hb]
    exact lexToken_escaped s hm.ended
  case neg =>
    have hp : ∀ c ∈ s, c ∉ specials := h.resolve_left hb s (by simp [leaves])
    have hq : '\'' ∉ s := fun hc => hp _ hc (by decide)
    have hs : '\\' ∉ s := fun hc => hp _ hc (by decide)
    rw [escapeString_eq, List.flatMap_congr fun c hc => escapeChar_plain (hp c hc), List.flatMap_singleton']
    exact lexToken_quoted hq hs hm.ended

theorem conveyed_float {f : Float64} (h : (float f).Finite) : (float f).Conveyed mode encoding := by
  obtain ⟨text, ht, hn, hd⟩ := escapeFloat_numeral (h f (List.mem_singleton.mpr rfl))
  obtain ⟨text', ht', _, hp⟩ := escapeFloat_parse (h f (List.mem_singleton.mpr rfl))
  obtain rfl := Except.ok.inj (ht.symm.trans ht')
  exact ⟨text, by rw [toSql, ht], .numeral hd hn (parse_signs hp)⟩

theorem conveyed_bytes (b : Bytes) : (bytes b).Conveyed mode encoding := by
  obtain ⟨ds, he, hl, hd⟩ := escapeBytes_digits b encoding
  exact ⟨_, by rw [toSql, he], .hex hd (by omega)⟩

omit [Libraries] in
theorem itemsPlain_or (h : mode.backslashes = true ∨ ItemsPlain (value :: values)) :
    (mode.backslashes = true ∨ value.Plain) ∧ (mode.backslashes = true ∨ ItemsPlain values) := by
  rw [itemsPlain_cons] at h
  exact ⟨h.imp_right And.left, h.imp_right And.right⟩

mutual

theorem conveyed (hf : Spelled) (mode : SqlMode) (encoding : Text) :
    ∀ value : Value, value.Finite → (mode.backslashes = true ∨ value.Plain) → value.Conveyed mode encoding
  | null, _, _        => ⟨_, rfl, .word (List.all_eq_true.mp (by decide)) (by decide) (by decide) (by decide)⟩
  | bool true, _, _   => ⟨_, rfl, .numeral (List.all_eq_true.mp (by decide)) (by decide) (by decide)⟩
  | bool false, _, _  => ⟨_, rfl, .numeral (List.all_eq_true.mp (by decide)) (by decide) (by decide)⟩
  | int i, _, _       => ⟨_, rfl, .numeral (ofInt_numeral _).right (ofInt_numeral _).left (ofInt_signs _)⟩
  | float _, h, _     => conveyed_float h
  | string _, _, h    => conveyed_string h
  | bytes b, _, _     => conveyed_bytes b
  | date d, _, _      => ⟨_, rfl, .calendar (hf.date d)⟩
  | time t, _, _      => ⟨_, rfl, .calendar fun c hc => hf.time t c (trimFraction_subset _ hc)⟩
  | dateTime dt, _, _ => ⟨_, rfl, .calendar fun c hc => hf.dateTime dt c (trimFraction_subset _ hc)⟩
  | timeSpan td, _, _ => ⟨_, rfl, .calendar (formatTimedelta_isCalendar td)⟩
  | decimal d, _, _   => ⟨_, rfl, .numeral (hf.decimal d).right (hf.decimal d).left (hf.signs d)⟩
  | list items, h, hp => (conveyed_of_items (itemsConveyed hf mode encoding items h hp)).left
  | set items, h, hp  => (conveyed_of_items (itemsConveyed hf mode encoding items h hp)).right

theorem itemsConveyed (hf : Spelled) (mode : SqlMode) (encoding : Text) :
    ∀ values : List Value, ItemsFinite values → (mode.backslashes = true ∨ ItemsPlain values) →
      ItemsConveyed mode encoding values
  | [], _, _               => ⟨[], rfl, rfl, .empty⟩
  | value :: values, h, hp =>
    itemsConveyed_cons (conveyed hf mode encoding value (itemsFinite_cons.mp h).left (itemsPlain_or hp).left)
      (itemsConveyed hf mode encoding values (itemsFinite_cons.mp h).right (itemsPlain_or hp).right)

end

end Conveyed
end Value
namespace Tokio

open Mogrify

-- A template that the server takes apart between the placeholders. A symbol is in front of each of them, neither a
-- word nor a quote comes behind it, and no comment begins where nothing is put in its place.
inductive Placed (mode : SqlMode) : Text → List Text → List (List Lexeme) → Prop
  | last {s : Text} {xs : List Lexeme} : Scans (lexLexeme mode) s xs [] → Placed mode s [] [xs]
  | cons {s g : Text} {gs : List Text} {xs : List Lexeme} {xss : List (List Lexeme)} {c : Char} :
    Scans (lexLexeme mode) s (xs ++ [.token (.symbol c)]) [] → Bounded g → ¬(c = '/' ∧ g.head? = some '*') →
    Placed mode g gs xss → Placed mode s (g :: gs) ((xs ++ [.token (.symbol c)]) :: xss)

-- The lexemes of a template, and those of the values in between.
def weave : List (List Lexeme) → List (List Token) → List Lexeme
  | xs :: xss, ts :: tss => xs ++ (ts.map .token ++ weave xss tss)
  | xss, _               => xss.flatten

section Placed

variable {mode : SqlMode} {s g : Text} {gs texts : List Text} {xss : List (List Lexeme)} {pss : List (List Piece)}

-- A part with nothing in it is the last one.
theorem Placed.fill_nil (h : Placed mode [] gs xss) : gs = [] := by
  obtain _ | ⟨h, _, _, _⟩ := h
  case last => rfl
  case cons =>
    obtain ⟨r, hx, hy⟩ := h.split
    obtain _ | ⟨hn, _⟩ := hx
    · obtain _ | ⟨hn, _⟩ := hy
      cases hn
    · cases hn

theorem fill_cons (s g : Text) (gs : List Text) (text : Text) (texts : List Text) :
    Template.fill ⟨s, g :: gs⟩ (text :: texts) = s ++ (text ++ Template.fill ⟨g, gs⟩ texts) := by
  simp [Template.fill]

theorem Placed.head_fill (h : Placed mode g gs xss) (texts : List Text) :
    (Template.fill ⟨g, gs⟩ texts).head? = g.head? := by
  cases g
  case nil =>
    obtain rfl := h.fill_nil
    simp [Template.fill]
  case cons => rfl

theorem Placed.scans (h : Placed mode s gs xss) (ha : List.Forall₂ (Conveys mode) texts pss)
    (hl : texts.length = gs.length) : ∃ tss, List.Forall₂ (List.Forall₂ Piece.Admits) pss tss ∧
      Scans (lexLexeme mode) (Template.fill ⟨s, gs⟩ texts) (weave xss tss) [] := by
  induction h generalizing texts pss
  case last s xs hs =>
    obtain rfl := List.length_eq_zero_iff.mp hl
    obtain _ | _ := ha
    exact ⟨[], .nil, by simpa [Template.fill, weave] using hs⟩
  case cons s g gs xs xss c hs he hb hg ih =>
    obtain _ | ⟨ht, ha⟩ := ha
    case nil => cases hl
    case cons text ps texts pss =>
      obtain ⟨tss, hts, hscan⟩ := ih ha (Nat.succ.inj hl)
      obtain ⟨ts, hadm, htext⟩ := ht.scans
      have hm : ¬(c = '/' ∧ (text ++ Template.fill ⟨g, gs⟩ texts).head? = some '*') := by
        cases text
        case nil  => rwa [List.nil_append, hg.head_fill]
        case cons => exact fun h => ht.head h.right
      have he : Bounded (Template.fill ⟨g, gs⟩ texts) := by
        rw [Bounded, hg.head_fill]
        exact he
      refine ⟨ts :: tss, .cons hadm hts, ?_⟩
      rw [fill_cons, weave]
      exact (scans_symbol hs hm).append ((htext _ he).append hscan)

end Placed
namespace Connection

variable [Libraries] {c : Connection} (mode : SqlMode) {value : Value} {args : List Value}

theorem literal_conveyed (hf : Spelled) (hm : mode.backslashes = c.inner.backslashEscapes) (hx : value.Finite)
    (hp : mode.backslashes = true ∨ (value.IsSequence → value.Plain)) :
    ∃ text, c.literal value = .ok text ∧ Conveys mode text value.pieces := by
  have leaf (hl : value.leaves = [value]) (hs : ∀ s, value ≠ .string s) :
      ∃ text, value.toSql c.inner.encoding = .ok text ∧ Conveys mode text value.pieces :=
    value.conveyed hf mode c.inner.encoding hx (.inr (Value.plain_of_leaf hl hs))
  cases value
  case string s =>
    refine ⟨_, rfl, .quoted (v := s) (fun more hr => ?_) rfl⟩
    rw [quoted_append, lexToken_quote, hm, MySQL.Connection.lex_escapeString, lex_close more hr.ended.head_ne]
    exact congrArg (fun v => some (Token.string v, more)) (List.append_nil s)
  case list items | set items => exact Value.conveyed hf mode c.inner.encoding _ hx (hp.imp_right fun h => h trivial)
  all_goals exact leaf rfl (by simp)

theorem literals_conveyed (hf : Spelled) (hm : mode.backslashes = c.inner.backslashEscapes)
    (hx : ∀ v ∈ args, v.Finite) (hp : mode.backslashes = true ∨ ∀ v ∈ args, v.IsSequence → v.Plain) :
    ∃ texts, args.mapM c.literal = .ok texts ∧ List.Forall₂ (Conveys mode) texts (args.map Value.pieces) := by
  induction args
  case nil => exact ⟨[], rfl, .nil⟩
  case cons v args ih =>
    obtain ⟨text, ht, hc⟩ := literal_conveyed mode hf hm (hx v List.mem_cons_self)
      (hp.imp_right fun h => h v List.mem_cons_self)
    obtain ⟨texts, hts, hcs⟩ := ih (fun w hw => hx w (List.mem_cons_of_mem v hw))
      (hp.imp_right fun h w hw => h w (List.mem_cons_of_mem v hw))
    refine ⟨text :: texts, ?_, .cons hc hcs⟩
    rw [List.mapM_cons, ht, hts]
    rfl

-- A statement with values is sent as a query that the server takes apart as the template is meant, with the tokens of
-- each value in its place; without a value for every placeholder and a placeholder for every value, nothing is sent.
theorem execute_lexed (hf : Spelled) (c : Connection) (ansiQuotes : Bool) {t : Template} {xss : List (List Lexeme)}
    (ht : Placed ⟨c.inner.backslashEscapes, ansiQuotes⟩ t.start t.parts xss) :
    (∀ args : List Value, args.length = t.parts.length → (∀ v ∈ args, v.Finite) →
      (c.inner.backslashEscapes = true ∨ ∀ v ∈ args, v.IsSequence → v.Plain) →
      ∃ text tss, execute t.query (some args) c = query text false c ∧
        List.Forall₂ (fun v ts => List.Forall₂ Piece.Admits v.pieces ts) args tss ∧
        Scans (lexLexeme ⟨c.inner.backslashEscapes, ansiQuotes⟩) text (weave xss tss) []) ∧
    ∀ args : List Value, args.length ≠ t.parts.length → ∃ e, execute t.query (some args) c = .error e c := by
  constructor
  · intro args hn hx hp
    obtain ⟨texts, hl, hc⟩ := literals_conveyed ⟨c.inner.backslashEscapes, ansiQuotes⟩ hf rfl hx hp
    have hlen : texts.length = t.parts.length := (length_of_mapM hl).trans hn
    obtain ⟨tss, hts, hs⟩ := ht.scans hc hlen
    refine ⟨t.fill texts, tss, ?_, List.forall₂_map_left_iff.mp hts, hs⟩
    have hm : c.mogrify t.query (some args) = .ok (t.fill texts) :=
      (mogrifyQuery_template c.literal t).left args texts hl hn
    simp only [execute, Proc.bind_apply, Proc.get_apply, Outcome.bind_ok, hm, Proc.ofExcept_ok, Proc.pure_apply]
  · intro args hn
    obtain ⟨e, he⟩ := (mogrifyQuery_template c.literal t).right args hn
    have hm : c.mogrify t.query (some args) = .error e := he
    refine ⟨e, ?_⟩
    simp only [execute, Proc.bind_apply, Proc.get_apply, Outcome.bind_ok, hm, Proc.ofExcept_error]
    rfl

end Connection
end Tokio

section Examples

open Tokio

attribute [local instance] Libraries.formatting

theorem formatting_spelled : Spelled where
  toFormatted := formatting_formatted
  signs d := by
    have digits : '-' ∉ Text.padded (d.scale + 1) d.mantissa.natAbs :=
      fun h => absurd (isDigit_of_mem_padded h) (by decide)
    change ¬_ <+: writeDecimal d
    simp only [writeDecimal, List.append_assoc]
    refine signs_of_body fun h => ?_
    obtain h | h := List.mem_append.mp h
    · exact digits (List.mem_of_mem_take h)
    · split_ifs at h
      · cases h
      · exact digits (List.mem_of_mem_drop ((List.mem_cons.mp h).resolve_left (by decide)))

-- A string that would end the statement if it could, and a list of others.
def injection : List Value :=
  [.string "' or 1=1 -- ".toList, .list [.int (-1), .string "\\".toList]]

theorem execute_lexed_injection :
    let c : Tokio.Connection :=
      { inner := .fresh {} ⟨45, "utf8mb4", true⟩, stream := some ⟨[], [], [], none⟩, transactionDirty := false }
    let t : Mogrify.Template := ⟨"a_b=".toList, [" or c in ".toList, []]⟩
    let xss : List (List Lexeme) := [[.token (.word "a_b".toList), .token (.symbol '=')],
      [.token (.symbol ' '), .token (.word "or".toList), .token (.symbol ' '), .token (.word ['c']),
        .token (.symbol ' '), .token (.word "in".toList), .token (.symbol ' ')], []]
    (∃ text tss, Tokio.Connection.execute t.query (some injection) c = Tokio.Connection.query text false c ∧
        List.Forall₂ (fun v ts => List.Forall₂ Piece.Admits v.pieces ts) injection tss ∧
        Scans (lexLexeme ⟨c.inner.backslashEscapes, false⟩) text (weave xss tss) []) ∧
      ∃ e, Tokio.Connection.execute t.query (some []) c = .error e c := by
  intro c t xss
  have ht : Placed ⟨c.inner.backslashEscapes, false⟩ t.start t.parts xss := by
    have start : Scans (lexLexeme ⟨c.inner.backslashEscapes, false⟩) t.start (xss[0].dropLast ++ [xss[0][1]]) [] :=
      .of_all (n := 2) rfl
    have part : Scans (lexLexeme ⟨c.inner.backslashEscapes, false⟩) t.parts[0] (xss[1].dropLast ++ [xss[1][6]]) [] :=
      .of_all (n := 7) rfl
    refine .cons start (.cons (by decide) (by decide)) (by decide) (.cons part ?_ (by decide) (.last (.nil [])))
    rintro _ ⟨⟩
  have hx : ∀ v ∈ injection, v.Finite := by
    intro v hv f hf
    simp only [injection, List.mem_cons, List.not_mem_nil, or_false] at hv
    obtain rfl | rfl := hv
    all_goals simp [Value.leaves, Value.itemLeaves] at hf
  have h := Tokio.Connection.execute_lexed formatting_spelled c false ht
  exact ⟨h.left injection rfl hx (.inl (by decide)), h.right [] (by decide)⟩

end Examples
end MySQL
