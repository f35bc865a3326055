import MysqlRs.Sql.Literals

namespace MySQL

inductive Token
  | string (s : Text)
  | hex (digits : Text)
  | word (w : Text)
  | symbol (c : Char)

def Token.IsLiteral : Token → Prop
  | symbol _ => False
  | _        => True

def isWordChar (c : Char) : Bool :=
  c.isAlphanum || c = '.' || c = '-'

-- The server's lexer behind the quote that opens a hexadecimal literal. The digits come in pairs.
def lexHexBody (text : Text) : Option (Text × Text) :=
  let digits := text.takeWhile isHexDigit
  match text.dropWhile isHexDigit with
  | '\'' :: rest => if digits.length % 2 = 0 then some (digits, rest) else none
  | _            => none

-- The next token, and what follows it. The signs of a number and of its exponent belong to the number.
-- Other characters stand for themselves.
def lexToken (backslashes : Bool) : Text → Option (Token × Text)
  | []        => none
  | c :: text =>
    if c = '\'' then (fun r => (.string r.1, r.2)) <$> lexStringBody backslashes text
    else if c = 'X' ∧ text.head? = some '\'' then
      (fun r => (.hex r.1, r.2)) <$> lexHexBody (text.drop 1)
    else if isWordChar c then
      some (.word ((c :: text).takeWhile isWordChar), (c :: text).dropWhile isWordChar)
    else some (.symbol c, text)

-- The server takes the text apart into the tokens.
inductive Lexed (backslashes : Bool) : Text → List Token → Prop
  | nil : Lexed backslashes [] []
  | cons {text rest : Text} {t : Token} {ts : List Token} : lexToken backslashes text = some (t, rest) →
    Lexed backslashes rest ts → Lexed backslashes text (t :: ts)

-- What a token is meant to be.
inductive Piece
  | punctuation (c : Char)
  | text (s : Text)
  | literal

def Piece.Admits : Piece → Token → Prop
  | punctuation c, t => t = .symbol c
  | text s, t        => t = .string s
  | literal, t       => t.IsLiteral

-- The server reads the text as it is meant.
def Accepts (backslashes : Bool) (text : Text) (pieces : List Piece) : Prop :=
  ∃ ts, Lexed backslashes text ts ∧ List.Forall₂ Piece.Admits pieces ts

-- What is escaped where backslashes escape.
def specials : List Char :=
  ['\\', '\'', '\n', '\r', '\x00', '\x1a', '"']

namespace Value

mutual

-- The punctuation of lists and sets, and one literal for every leaf.
def pieces : Value → List Piece
  | string s   => [.text s]
  | list items => .punctuation '(' :: itemPieces items ++ [.punctuation ')']
  | set items  => itemPieces items
  | _          => [.literal]

def itemPieces : List Value → List Piece
  | []               => []
  | [value]          => pieces value
  | value :: w :: vs => pieces value ++ .punctuation ',' :: itemPieces (w :: vs)

end

mutual

def leaves : Value → List Value
  | list items | set items => itemLeaves items
  | value                  => [value]

def itemLeaves : List Value → List Value
  | []              => []
  | value :: values => leaves value ++ itemLeaves values

end

def Finite (value : Value) : Prop :=
  ∀ f, float f ∈ value.leaves → f.isFinite

def Plain (value : Value) : Prop :=
  ∀ s, string s ∈ value.leaves → ∀ c ∈ s, c ∉ specials

end Value

-- A literal is not continued by what follows.
def Ended (rest : Text) : Prop :=
  ∀ c ∈ rest.head?, ¬isWordChar c ∧ c ≠ '\''

section Tokens

variable {backslashes : Bool} {text rest w ds : Text} {c : Char}

theorem Ended.cons (h : ¬isWordChar c) (hc : c ≠ '\'') : Ended (c :: rest) := by
  rintro _ ⟨⟩
  exact ⟨h, hc⟩

theorem takeWhile_run {p : Char → Bool} (h : ∀ c ∈ w, p c) (rest : Text) (hr : ∀ c ∈ rest.head?, ¬p c) :
    (w ++ rest).takeWhile p = w ∧ (w ++ rest).dropWhile p = rest := by
  rw [List.takeWhile_append_of_pos h, List.dropWhile_append_of_pos h]
  cases rest
  case nil         => exact ⟨List.append_nil w, rfl⟩
  case cons c rest =>
    have hc := hr c rfl
    rw [List.takeWhile_cons_of_neg hc, List.dropWhile_cons_of_neg hc]
    exact ⟨List.append_nil w, rfl⟩

theorem lexToken_quote (text : Text) : lexToken backslashes ('\'' :: text) =
    (fun r => (.string r.1, r.2)) <$> lexStringBody backslashes text :=
  rfl

theorem lexToken_symbol (h : ¬isWordChar c) (hc : c ≠ '\'') (text : Text) :
    lexToken backslashes (c :: text) = some (.symbol c, text) := by
  have hx : c ≠ 'X' := by
    rintro rfl
    exact h (by decide)
  rw [lexToken, if_neg hc, if_neg fun hn => hx hn.left, if_neg h]

theorem lexToken_word (hw : ∀ c ∈ w, isWordChar c) (hn : w ≠ []) (hx : w.head? ≠ some 'X') (hr : Ended rest) :
    lexToken backslashes (w ++ rest) = some (.word w, rest) := by
  obtain ⟨ht, hd⟩ := takeWhile_run hw rest fun c hc => (hr c hc).left
  cases w
  case nil      => exact absurd rfl hn
  case cons c w =>
    have hc : isWordChar c := hw c List.mem_cons_self
    rw [List.cons_append] at ht hd ⊢
    rw [lexToken, if_neg, if_neg fun h => hx (congrArg some h.left), if_pos hc, ht, hd]
    rintro rfl
    revert hc
    decide

theorem lexToken_hex (hd : ∀ c ∈ ds, isHexDigit c) (hl : ds.length % 2 = 0) (rest : Text) :
    lexToken backslashes ('X' :: '\'' :: ds ++ ['\''] ++ rest) = some (.hex ds, rest) := by
  obtain ⟨ht, hr⟩ := takeWhile_run hd ('\'' :: rest) (by rintro _ ⟨⟩; decide)
  have hb : lexHexBody (ds ++ '\'' :: rest) = some (ds, rest) := by
    rw [lexHexBody, ht, hr]
    exact if_pos hl
  have hq : 'X' :: '\'' :: ds ++ ['\''] ++ rest = 'X' :: '\'' :: (ds ++ '\'' :: rest) := by simp
  rw [hq, lexToken, if_neg (by decide), if_pos ⟨rfl, rfl⟩, List.drop_one, List.tail_cons, hb]
  rfl

theorem Ended.head_ne (h : Ended rest) : rest.head? ≠ some '\'' :=
  fun hq => (h '\'' hq).right rfl

-- A text without quotes and backslashes is read as it is.
theorem lexStringBody_plain (hq : '\'' ∉ text) (hb : '\\' ∉ text) (rest : Text) :
    lexStringBody backslashes (text ++ rest) =
      (fun r => (text ++ r.1, r.2)) <$> lexStringBody backslashes rest := by
  induction text
  case nil            => simp
  case cons c text ih =>
    rw [List.mem_cons, not_or] at hq hb
    rw [List.cons_append, lex_plain _ (Ne.symm hq.left) fun h => hb.left h.right.symm, ih hq.right hb.right,
      ← comp_map]
    rfl

theorem quoted_append (s rest : Text) : quoted s ++ rest = '\'' :: (s ++ '\'' :: rest) := by
  simp [quoted]

theorem lexToken_quoted (hq : '\'' ∉ text) (hb : '\\' ∉ text) (hr : Ended rest) :
    lexToken backslashes (quoted text ++ rest) = some (.string text, rest) := by
  rw [quoted_append, lexToken_quote, lexStringBody_plain hq hb, lex_close rest hr.head_ne]
  exact congrArg (fun v => some (Token.string v, rest)) (List.append_nil text)

theorem lexToken_escaped (s : Text) (hr : Ended rest) :
    lexToken true (quoted (escapeString s) ++ rest) = some (.string s, rest) := by
  rw [quoted_append, lexToken_quote, escapeString_eq, Reading.undo_flatMap lex_escapeChar,
    lex_close rest hr.head_ne]
  exact congrArg (fun v => some (Token.string v, rest)) (List.append_nil s)

theorem escapeChar_plain (h : c ∉ specials) : escapeChar c = [c] := by
  simp only [specials, List.mem_cons, List.not_mem_nil, or_false, not_or] at h
  simp [escapeChar, h]

theorem escapeChar_special (h : c ∈ specials) : ∃ d, escapeChar c = ['\\', d] ∧ (c = '\\' → d = '\\') := by
  simp only [specials, List.mem_cons, List.not_mem_nil, or_false] at h
  obtain rfl | rfl | rfl | rfl | rfl | rfl | rfl := h
  all_goals exact ⟨_, rfl, by decide⟩

-- Backslashes that do not escape are read as they are: a text with special characters does not come back. The
-- backslashes that are read already are counted by `k`.
theorem lexStringBody_misread {s v r : Text} {k : Nat} (h : 0 < k ∨ ∃ c ∈ s, c ∈ specials)
    (hr : lexStringBody false (s.flatMap escapeChar ++ rest) = some (v, r)) :
    s ≠ List.replicate k '\\' ++ v := by
  induction s generalizing k v
  case nil =>
    obtain hk | ⟨c, hc, _⟩ := h
    · intro he
      have hl := congrArg List.length he
      simp only [List.length_nil, List.length_append, List.length_replicate] at hl
      omega
    · cases hc
  case cons c s ih =>
    rw [List.flatMap_cons, List.append_assoc] at hr
    intro he
    by_cases hc : c ∈ specials
    case pos =>
      obtain ⟨d, hd, hb⟩ := escapeChar_special hc
      rw [hd, List.cons_append, lex_plain _ (by decide) (by simp)] at hr
      obtain ⟨⟨v₁, r₁⟩, h₁, hv⟩ := Option.map_eq_some_iff.mp hr
      obtain ⟨rfl, rfl⟩ := Prod.mk.inj hv
      rw [List.append_cons, ← List.replicate_succ', List.replicate_succ, List.cons_append] at he
      obtain ⟨rfl, rfl⟩ := List.cons.inj he
      rw [hb rfl, List.singleton_append, lex_plain _ (by decide) (by simp)] at h₁
      obtain ⟨⟨v₂, r₂⟩, h₂, hv⟩ := Option.map_eq_some_iff.mp h₁
      obtain ⟨rfl, rfl⟩ := Prod.mk.inj hv
      exact ih (.inl (Nat.succ_pos k)) h₂ (by rw [List.replicate_succ', List.append_assoc, List.singleton_append])
    case neg =>
      have hq : c ≠ '\'' := fun hx => hc (hx ▸ by decide)
      have hb : c ≠ '\\' := fun hx => hc (hx ▸ by decide)
      rw [escapeChar_plain hc, List.singleton_append, lex_plain _ hq (by simp)] at hr
      obtain ⟨⟨v₁, r₁⟩, h₁, hv⟩ := Option.map_eq_some_iff.mp hr
      obtain ⟨rfl, rfl⟩ := Prod.mk.inj hv
      cases k
      case zero   =>
        obtain ⟨d, hd, hs⟩ := h.resolve_left (Nat.lt_irrefl 0)
        have hd : d ∈ s := (List.mem_cons.mp hd).resolve_left fun hx => hc (hx ▸ hs)
        exact ih (k := 0) (.inr ⟨d, hd, hs⟩) h₁ (List.cons.inj he).right
      case succ k => exact hb (List.cons.inj he).left

end Tokens

section Pieces

variable {backslashes : Bool} {text rest : Text} {t : Token} {p : Piece} {ps qs : List Piece} {plain plain' : Prop}

theorem accepts_cons : Accepts backslashes text (p :: ps) ↔
    ∃ t rest, lexToken backslashes text = some (t, rest) ∧ p.Admits t ∧ Accepts backslashes rest ps := by
  constructor
  · rintro ⟨_, hl, hp⟩
    obtain _ | ⟨ht, hps⟩ := hp
    obtain _ | ⟨hx, hl⟩ := hl
    exact ⟨_, _, hx, ht, _, hl, hps⟩
  · rintro ⟨t, rest, hx, ht, ts, hl, hps⟩
    exact ⟨t :: ts, .cons hx hl, .cons ht hps⟩

theorem accepts_token (h : lexToken backslashes text = some (t, rest)) (ht : p.Admits t) :
    Accepts backslashes text (p :: ps) ↔ Accepts backslashes rest ps := by
  rw [accepts_cons]
  constructor
  · rintro ⟨_, _, hx, _, hp⟩
    obtain ⟨rfl, rfl⟩ := Prod.mk.inj (Option.some.inj (h.symm.trans hx))
    exact hp
  · exact fun hp => ⟨_, _, h, ht, hp⟩

-- The text is read as it is meant if and only if backslashes escape or it is plain, whatever follows.
def Separates (backslashes : Bool) (text : Text) (ps : List Piece) (plain : Prop) : Prop :=
  ∀ rest qs, Ended rest →
    (Accepts backslashes (text ++ rest) (ps ++ qs) ↔
      (backslashes = true ∨ plain) ∧ Accepts backslashes rest qs)

theorem Separates.empty (h : plain) : Separates backslashes [] [] plain :=
  fun _ _ _ => (and_iff_right (.inr h)).symm

theorem Separates.token (h : ∀ rest, Ended rest → lexToken backslashes (text ++ rest) = some (t, rest))
    (ht : p.Admits t) (hp : plain) : Separates backslashes text [p] plain :=
  fun rest _ he => (accepts_token (h rest he) ht).trans (and_iff_right (.inr hp)).symm

theorem Separates.string (s : Text) :
    Separates backslashes (quoted (escapeString s)) [.text s] (∀ c ∈ s, c ∉ specials) := by
  intro rest qs he
  have ht : (Piece.text s).Admits (.string s) := rfl
  rw [List.singleton_append]
  cases backslashes
  case true => exact (accepts_token (lexToken_escaped s he) ht).trans (and_iff_right (.inl rfl)).symm
  case false =>
    by_cases hs : ∀ c ∈ s, c ∉ specials
    case pos =>
      have hx : escapeString s = s := by
        rw [escapeString_eq, List.flatMap_congr fun c hc => escapeChar_plain (hs c hc), List.flatMap_singleton']
      have hq : '\'' ∉ s := fun hc => hs _ hc (by decide)
      have hb : '\\' ∉ s := fun hc => hs _ hc (by decide)
      rw [hx]
      exact (accepts_token (lexToken_quoted hq hb he) ht).trans (and_iff_right (.inr hs)).symm
    case neg =>
      refine iff_of_false ?_ fun h => hs (h.left.resolve_left Bool.false_ne_true)
      rw [accepts_cons, quoted_append, lexToken_quote, escapeString_eq]
      rintro ⟨t, r, hl, rfl, _⟩
      obtain ⟨⟨v, r⟩, hv, ht⟩ := Option.map_eq_some_iff.mp hl
      obtain ⟨hs', rfl⟩ := Prod.mk.inj ht
      push Not at hs
      exact lexStringBody_misread (k := 0) (.inr hs) hv (Token.string.inj hs').symm

theorem Separates.symbol {c : Char} (h : Separates backslashes text ps plain) (hw : ¬isWordChar c)
    (hc : c ≠ '\'') : Separates backslashes (c :: text) (.punctuation c :: ps) plain := by
  intro rest qs he
  have ht : (Piece.punctuation c).Admits (.symbol c) := rfl
  exact (accepts_token (lexToken_symbol hw hc _) ht).trans (h rest qs he)

theorem Separates.append (h : Separates backslashes text ps plain)
    (h' : Separates backslashes text' ps' plain') (he : ∀ rest, Ended rest → Ended (text' ++ rest)) :
    Separates backslashes (text ++ text') (ps ++ ps') (plain ∧ plain') := by
  intro rest qs hr
  rw [List.append_assoc, List.append_assoc, h _ _ (he rest hr), h' rest qs hr, ← and_assoc, ← or_and_left]

end Pieces

section Leaves

-- The characters of dates and times.
def isCalendar (c : Char) : Bool :=
  c.isDigit || c ∈ ['+', '-', ':', '.', ' ']

-- What the calendar and the decimal numbers are written with.
structure Formatted [Libraries] : Prop where
  date     : ∀ d, ∀ c ∈ Chrono.formatDate d "%Y-%m-%d", isCalendar c
  time     : ∀ t, ∀ c ∈ Chrono.formatTime t "%H:%M:%S%.6f", isCalendar c
  dateTime : ∀ dt, ∀ c ∈ Chrono.formatDateTime dt "%Y-%m-%d %H:%M:%S%.6f", isCalendar c
  decimal  : ∀ d, Decimals.format d ≠ [] ∧ ∀ c ∈ Decimals.format d, Float64.isNumeral c

variable {backslashes : Bool} {text : Text} {n : Nat} {c : Char}

theorem isDigit_of_mem_ofNat (h : c ∈ Text.ofNat n) : c.isDigit :=
  Nat.isDigit_of_mem_toDigits (by decide) (by decide) h

theorem isDigit_of_mem_padded {width : Nat} (h : c ∈ Text.padded width n) : c.isDigit := by
  obtain h | h := List.mem_append.mp h
  · obtain rfl := (List.mem_replicate.mp h).right
    decide
  · exact isDigit_of_mem_ofNat h

theorem isCalendar_of_isDigit (h : c.isDigit) : isCalendar c := by
  simp [isCalendar, h]

theorem formatTimedelta_isCalendar [Libraries] (td : TimeDelta) : ∀ c ∈ formatTimedelta td, isCalendar c := by
  have padded {width n : Nat} : ∀ c ∈ Text.padded width n, isCalendar c :=
    fun c hc => isCalendar_of_isDigit (isDigit_of_mem_padded hc)
  have sign : isCalendar '-' := by decide
  have colon : isCalendar ':' := by decide
  have point : isCalendar '.' := by decide
  simp only [formatTimedelta]
  split_ifs
  all_goals
    simp only [List.cons_append, List.append_assoc, List.forall_mem_cons, List.forall_mem_append, List.append_nil]
  · exact ⟨sign, padded, colon, padded, colon, padded, point, padded⟩
  · exact ⟨sign, padded, colon, padded, colon, padded⟩
  · exact ⟨padded, colon, padded, colon, padded, point, padded⟩
  · exact ⟨padded, colon, padded, colon, padded⟩

theorem Separates.calendar {plain : Prop} (h : ∀ c ∈ text, isCalendar c) (hp : plain) :
    Separates backslashes (quoted text) [.literal] plain := by
  have hq : '\'' ∉ text := fun hc => absurd (h _ hc) (by decide)
  have hb : '\\' ∉ text := fun hc => absurd (h _ hc) (by decide)
  exact .token (fun _ he => lexToken_quoted hq hb he) trivial hp

theorem isWordChar_of_isNumeral (h : Float64.isNumeral c) : isWordChar c := by
  simp only [Float64.isNumeral, Bool.or_eq_true, decide_eq_true_eq] at h
  obtain ((h | rfl) | rfl) | rfl := h
  · simp [isWordChar, Char.isAlphanum, h]
  all_goals decide

theorem Separates.hex {ds : Text} {plain : Prop} (hd : ∀ c ∈ ds, isHexDigit c) (hl : ds.length % 2 = 0)
    (hp : plain) : Separates backslashes ('X' :: '\'' :: ds ++ ['\'']) [.literal] plain :=
  .token (fun rest _ => lexToken_hex hd hl rest) trivial hp

theorem Separates.word {w : Text} {plain : Prop} (hw : ∀ c ∈ w, isWordChar c) (hn : w ≠ [])
    (hx : w.head? ≠ some 'X') (hp : plain) : Separates backslashes w [.literal] plain :=
  .token (fun _ he => lexToken_word hw hn hx he) trivial hp

theorem Separates.numeral {plain : Prop} (h : ∀ c ∈ text, Float64.isNumeral c) (hn : text ≠ []) (hp : plain) :
    Separates backslashes text [.literal] plain := by
  have hx : text.head? ≠ some 'X' := fun hx => absurd (h _ (List.mem_of_head? hx)) (by decide)
  exact .word (fun c hc => isWordChar_of_isNumeral (h c hc)) hn hx hp

theorem ofInt_numeral (i : Int) : Text.ofInt i ≠ [] ∧ ∀ c ∈ Text.ofInt i, Float64.isNumeral c := by
  have digits : ∀ c ∈ Text.ofNat i.natAbs, Float64.isNumeral c := fun c hc => by
    simp [Float64.isNumeral, isDigit_of_mem_ofNat hc]
  rw [Text.ofInt]
  split_ifs
  · exact ⟨List.cons_ne_nil _ _, List.forall_mem_cons.mpr ⟨by decide, digits⟩⟩
  · exact ⟨Nat.toDigits_ne_nil, digits⟩

theorem escapeFloat_numeral {f : Float64} (h : f.isFinite) :
    ∃ text, escapeFloat f = .ok text ∧ text ≠ [] ∧ ∀ c ∈ text, Float64.isNumeral c := by
  have hd := f.debug_numeral h
  simp only [escapeFloat, h, Bool.not_true, Bool.false_eq_true, if_false]
  split_ifs with he
  · refine ⟨_, rfl, ?_, hd⟩
    intro hn
    simp [hn] at he
  · refine ⟨_, rfl, by simp, List.forall_mem_append.mpr ⟨hd, List.all_eq_true.mp (by decide)⟩⟩

end Leaves

namespace Value

section Items

variable {value : Value} {values : List Value}

theorem plain_of_leaf (hl : value.leaves = [value]) (hs : ∀ s, value ≠ string s) : value.Plain := by
  intro s h
  rw [hl, List.mem_singleton] at h
  exact absurd h.symm (hs s)

def ItemsPlain (values : List Value) : Prop :=
  ∀ s, string s ∈ itemLeaves values → ∀ c ∈ s, c ∉ specials

def ItemsFinite (values : List Value) : Prop :=
  ∀ f, float f ∈ itemLeaves values → f.isFinite

theorem itemsPlain_cons : ItemsPlain (value :: values) ↔ value.Plain ∧ ItemsPlain values := by
  simp only [ItemsPlain, Plain, itemLeaves, List.mem_append, or_imp, forall_and]

theorem itemsFinite_cons : ItemsFinite (value :: values) ↔ value.Finite ∧ ItemsFinite values := by
  simp only [ItemsFinite, Finite, itemLeaves, List.mem_append, or_imp, forall_and]

end Items

section Written

variable [Libraries] {backslashes : Bool} {encoding : Text} {value : Value} {values : List Value}

-- What is written for a value is read as it is meant.
def Written (backslashes : Bool) (encoding : Text) (value : Value) : Prop :=
  ∃ text, value.toSql encoding = .ok text ∧ Separates backslashes text value.pieces value.Plain

def ItemsWritten (backslashes : Bool) (encoding : Text) (values : List Value) : Prop :=
  ∃ texts, toSqlItems encoding values = .ok texts ∧ texts.length = values.length ∧
    Separates backslashes (Text.join [','] texts) (itemPieces values) (ItemsPlain values)

theorem itemsWritten_nil : ItemsWritten backslashes encoding [] :=
  ⟨[], rfl, rfl, .empty fun _ h => absurd h List.not_mem_nil⟩

theorem itemsWritten_cons (h : value.Written backslashes encoding)
    (hs : ItemsWritten backslashes encoding values) : ItemsWritten backslashes encoding (value :: values) := by
  obtain ⟨text, ht, hp⟩ := h
  obtain ⟨texts, hts, hl, hps⟩ := hs
  refine ⟨text :: texts, by simp [toSqlItems, ht, hts, bind, Except.bind, pure, Except.pure], ?_, ?_⟩
  · rw [List.length_cons, List.length_cons, hl]
  · rw [itemsPlain_cons]
    cases values
    case nil =>
      obtain rfl := List.length_eq_zero_iff.mp hl
      simpa [itemPieces, Text.join] using hp.append hps fun _ hr => hr
    case cons w vs =>
      obtain ⟨t, ts, rfl⟩ := List.exists_cons_of_length_eq_add_one hl
      have he : ∀ rest, Ended (',' :: Text.join [','] (t :: ts) ++ rest) :=
        fun rest => .cons (by decide) (by decide)
      simpa [itemPieces, Text.join] using
        hp.append (hps.symbol (c := ',') (by decide) (by decide)) fun rest _ => he rest

theorem written_of_items (h : ItemsWritten backslashes encoding values) :
    (list values).Written backslashes encoding ∧ (set values).Written backslashes encoding := by
  obtain ⟨texts, ht, _, hp⟩ := h
  refine ⟨⟨'(' :: Text.join [','] texts ++ [')'], ?_, ?_⟩, ⟨Text.join [','] texts, ?_, hp⟩⟩
  · simp [toSql, ht, bind, Except.bind, pure, Except.pure]
  · have hc : Separates backslashes [')'] [.punctuation ')'] True :=
      (Separates.empty trivial).symbol (by decide) (by decide)
    have hs := (hp.append hc fun rest _ => .cons (by decide) (by decide)).symbol (c := '(') (by decide) (by decide)
    rw [and_true] at hs
    exact hs
  · simp [toSql, ht, bind, Except.bind, pure, Except.pure]

theorem written_of_leaf {text : Text} (ht : value.toSql encoding = .ok text) (hp : value.pieces = [.literal])
    (hl : value.leaves = [value]) (hs : ∀ s, value ≠ string s)
    (h : ∀ {plain : Prop}, plain → Separates backslashes text [.literal] plain) :
    value.Written backslashes encoding :=
  ⟨text, ht, hp ▸ h (plain_of_leaf hl hs)⟩

theorem written_string (s : Text) : (string s).Written backslashes encoding := by
  refine ⟨_, rfl, ?_⟩
  have hp : (string s).Plain ↔ ∀ c ∈ s, c ∉ specials := by simp [Plain, leaves]
  rw [hp]
  exact .string s

theorem written_float {f : Float64} (h : (float f).Finite) : (float f).Written backslashes encoding := by
  obtain ⟨text, ht, hn, hd⟩ := escapeFloat_numeral (h f (List.mem_singleton.mpr rfl))
  exact written_of_leaf (by rw [toSql, ht]) rfl rfl (by simp) (.numeral hd hn)

theorem written_bytes (b : Bytes) : (bytes b).Written backslashes encoding := by
  obtain ⟨ds, he, hl, hd⟩ := escapeBytes_digits b encoding
  exact written_of_leaf (by rw [toSql, he]) rfl rfl (by simp) (.hex hd (by omega))

mutual

theorem written (hf : Formatted) (backslashes : Bool) (encoding : Text) :
    ∀ value : Value, value.Finite → value.Written backslashes encoding
  | null, _        =>
    written_of_leaf rfl rfl rfl (by simp) (.word (List.all_eq_true.mp (by decide)) (by decide) (by decide))
  | bool true, _   =>
    written_of_leaf rfl rfl rfl (by simp) (.numeral (List.all_eq_true.mp (by decide)) (by decide))
  | bool false, _  =>
    written_of_leaf rfl rfl rfl (by simp) (.numeral (List.all_eq_true.mp (by decide)) (by decide))
  | int i, _       =>
    written_of_leaf rfl rfl rfl (by simp) (.numeral (ofInt_numeral _).right (ofInt_numeral _).left)
  | float _, h     => written_float h
  | string s, _    => written_string s
  | bytes b, _     => written_bytes b
  | date d, _      => written_of_leaf rfl rfl rfl (by simp) (.calendar (hf.date d))
  | time t, _      =>
    written_of_leaf rfl rfl rfl (by simp) (.calendar fun c hc => hf.time t c (trimFraction_subset _ hc))
  | dateTime dt, _ =>
    written_of_leaf rfl rfl rfl (by simp) (.calendar fun c hc => hf.dateTime dt c (trimFraction_subset _ hc))
  | timeSpan td, _ => written_of_leaf rfl rfl rfl (by simp) (.calendar (formatTimedelta_isCalendar td))
  | decimal d, _   =>
    written_of_leaf rfl rfl rfl (by simp) (.numeral (hf.decimal d).right (hf.decimal d).left)
  | list items, h  => (written_of_items (itemsWritten hf backslashes encoding items h)).left
  | set items, h   => (written_of_items (itemsWritten hf backslashes encoding items h)).right

theorem itemsWritten (hf : Formatted) (backslashes : Bool) (encoding : Text) :
    ∀ values : List Value, ItemsFinite values → ItemsWritten backslashes encoding values
  | [], _              => itemsWritten_nil
  | value :: values, h =>
    itemsWritten_cons (written hf backslashes encoding value (itemsFinite_cons.mp h).left)
      (itemsWritten hf backslashes encoding values (itemsFinite_cons.mp h).right)

end

theorem Written.accepts_iff (h : value.Written backslashes encoding) :
    (∃ text, value.toSql encoding = .ok text ∧ Accepts backslashes text value.pieces) ↔
      backslashes = true ∨ value.Plain := by
  obtain ⟨text, ht, hs⟩ := h
  have he := hs [] [] (by rintro _ ⟨⟩)
  rw [List.append_nil, List.append_nil, and_iff_left ⟨[], .nil, .nil⟩] at he
  simp [ht, he]

end Written

def IsSequence : Value → Prop
  | list _ | set _ => True
  | _              => False

end Value

namespace Connection

-- The server reads a list or a set as it is meant if and only if backslashes escape or none of its strings
-- has a character that would be escaped.
theorem literal_accepted_iff [Libraries] (hf : Formatted) (c : Connection) {value : Value}
    (hv : value.IsSequence) (hx : value.Finite) :
    (∃ text, c.literal value = .ok text ∧ Accepts c.backslashEscapes text value.pieces) ↔
      c.backslashEscapes = true ∨ value.Plain := by
  have hw := value.written hf c.backslashEscapes c.encoding hx
  cases value
  case list => exact hw.accepts_iff
  case set  => exact hw.accepts_iff
  all_goals exact hv.elim

end Connection

section Examples

open Connection

def writeDate (d : NaiveDate) : Text :=
  (if d.year < 0 then ['-'] else if 9999 < d.year then ['+'] else []) ++ Text.padded 4 d.year.natAbs ++
    '-' :: Text.padded 2 d.month ++ '-' :: Text.padded 2 d.day

def writeTime (t : NaiveTime) : Text :=
  Text.padded 2 t.hour ++ ':' :: Text.padded 2 t.minute ++ ':' :: Text.padded 2 t.second ++
    '.' :: Text.padded 6 (t.nanosecond / 1000)

def writeDecimal (d : Decimal) : Text :=
  let ds := Text.padded (d.scale + 1) d.mantissa.natAbs
  (if d.mantissa < 0 then ['-'] else []) ++ ds.take (ds.length - d.scale) ++
    if d.scale = 0 then [] else '.' :: ds.drop (ds.length - d.scale)

-- Libraries that write dates, times and decimal numbers.
@[reducible]
def Libraries.formatting : Libraries :=
  { Libraries.utf8Only with
    formatDate d _      := writeDate d
    formatTime t _      := writeTime t
    formatDateTime dt _ := writeDate dt.date ++ ' ' :: writeTime dt.time
    format              := writeDecimal }

theorem writeDate_isCalendar (d : NaiveDate) : ∀ c ∈ writeDate d, isCalendar c := by
  have padded {width n : Nat} : ∀ c ∈ Text.padded width n, isCalendar c :=
    fun c hc => isCalendar_of_isDigit (isDigit_of_mem_padded hc)
  have sign : isCalendar '-' := by decide
  simp only [writeDate, List.cons_append, List.append_assoc, List.forall_mem_cons, List.forall_mem_append]
  refine ⟨?_, padded, sign, padded, sign, padded⟩
  split_ifs
  all_goals exact List.all_eq_true.mp (by decide)

theorem writeTime_isCalendar (t : NaiveTime) : ∀ c ∈ writeTime t, isCalendar c := by
  have padded {width n : Nat} : ∀ c ∈ Text.padded width n, isCalendar c :=
    fun c hc => isCalendar_of_isDigit (isDigit_of_mem_padded hc)
  simp only [writeTime, List.cons_append, List.append_assoc, List.forall_mem_cons, List.forall_mem_append]
  exact ⟨padded, by decide, padded, by decide, padded, by decide, padded⟩

theorem writeDecimal_numeral (d : Decimal) : ∀ c ∈ writeDecimal d, Float64.isNumeral c := by
  have digits : ∀ c ∈ Text.padded (d.scale + 1) d.mantissa.natAbs, Float64.isNumeral c := fun c hc => by
    simp [Float64.isNumeral, isDigit_of_mem_padded hc]
  simp only [writeDecimal, List.forall_mem_append]
  refine ⟨⟨?_, fun c hc => digits c (List.mem_of_mem_take hc)⟩, ?_⟩
  · split_ifs
    all_goals exact List.all_eq_true.mp (by decide)
  · split_ifs
    · exact List.all_eq_true.mp (by decide)
    · exact List.forall_mem_cons.mpr ⟨by decide, fun c hc => digits c (List.mem_of_mem_drop hc)⟩

theorem writeDecimal_ne_nil (d : Decimal) : writeDecimal d ≠ [] := by
  have hl : d.scale < (Text.padded (d.scale + 1) d.mantissa.natAbs).length := by
    rw [Text.padded, List.length_append, List.length_replicate]
    omega
  intro h
  have h := congrArg List.length (List.append_eq_nil_iff.mp (List.append_eq_nil_iff.mp h).left).right
  rw [List.length_take, List.length_nil] at h
  omega

attribute [local instance] Libraries.formatting

theorem formatting_formatted : Formatted where
  date          := writeDate_isCalendar
  time          := writeTime_isCalendar
  dateTime dt   := List.forall_mem_append.mpr
    ⟨writeDate_isCalendar _, List.forall_mem_cons.mpr ⟨by decide, writeTime_isCalendar _⟩⟩
  decimal d     := ⟨writeDecimal_ne_nil d, writeDecimal_numeral d⟩

def nested : Value :=
  .list [.string "a'b".toList, .set [.int (-1), .null, .float ⟨0x3FF8000000000000⟩], .bytes [0xAB],
    .date ⟨2024, 2, 29⟩, .decimal ⟨-150, 2⟩]

theorem literal_accepted_nested :
    let c := fresh {} ⟨45, "utf8mb4", true⟩
    nested.IsSequence ∧ nested.Finite ∧
      ((∃ text, c.literal nested = .ok text ∧ Accepts c.backslashEscapes text nested.pieces) ↔
        c.backslashEscapes = true ∨ nested.Plain) := by
  have hx : nested.Finite := by
    intro f hf
    simp [nested, Value.leaves, Value.itemLeaves] at hf
    subst hf
    decide
  exact ⟨trivial, hx, literal_accepted_iff formatting_formatted _ trivial hx⟩

-- The string ends in front of its parenthesis.
theorem literal_injected :
    let c := { fresh {} ⟨45, "utf8mb4", true⟩ with
      serverStatus := ServerStatus.SERVER_STATUS_NO_BACKSLASH_ESCAPES }
    let value : Value := .list [.string "') OR 1=1 #".toList]
    value.IsSequence ∧ value.Finite ∧
      ¬∃ text, c.literal value = .ok text ∧ Accepts c.backslashEscapes text value.pieces := by
  intro c value
  have hx : value.Finite := by
    intro f hf
    simp [value, Value.leaves, Value.itemLeaves] at hf
  refine ⟨trivial, hx, fun h => ?_⟩
  have hp := ((value.written formatting_formatted c.backslashEscapes c.encoding hx).accepts_iff.mp h).resolve_left
    (by decide)
  exact hp "') OR 1=1 #".toList (by simp [value, Value.leaves, Value.itemLeaves]) '\'' (by decide) (by decide)

end Examples
end MySQL
