import MysqlRs.Core.Utf8
import MysqlRs.Sql.Literals

namespace MySQL

-- The charsets in which a character may end in a byte that is an ASCII character of its own.
inductive Trailing
  | big5
  | sjis
  | gbk
  | cp932
  | gb18030
  deriving DecidableEq

namespace Trailing

def name : Trailing → String
  | big5    => "big5"
  | sjis    => "sjis"
  | gbk     => "gbk"
  | cp932   => "cp932"
  | gb18030 => "gb18030"

def inRange (low high : Nat) (b : UInt8) : Bool :=
  low ≤ b.toNat && b.toNat ≤ high

def isLead (t : Trailing) (b : UInt8) : Bool :=
  match t with
  | big5          => inRange 0xA1 0xF9 b
  | sjis | cp932  => inRange 0x81 0x9F b || inRange 0xE0 0xFC b
  | gbk | gb18030 => inRange 0x81 0xFE b

def isTrail (t : Trailing) (b : UInt8) : Bool :=
  match t with
  | big5          => inRange 0x40 0x7E b || inRange 0xA1 0xFE b
  | sjis | cp932  => inRange 0x40 0x7E b || inRange 0x80 0xFC b
  | gbk | gb18030 => inRange 0x40 0x7E b || inRange 0x80 0xFE b

-- Half of a character of four bytes.
def startsHalf (t : Trailing) : Bytes → Bool
  | b₁ :: b₂ :: _ => t.isLead b₁ && inRange 0x30 0x39 b₂
  | _             => false

-- The length of the character in front.
def charLength (t : Trailing) : Bytes → Nat
  | b₁ :: b₂ :: bs =>
    if t.isLead b₁ && t.isTrail b₂ then 2
    else if t = gb18030 && t.startsHalf (b₁ :: b₂ :: bs) && t.startsHalf bs then 4
    else 1
  | _ => 1

-- The server's lexer behind the quote that opens a string, after the bytes that are skipped: what follows the
-- quote that closes it.
def lexBody (t : Trailing) : Nat → Bytes → Option Bytes
  | _,        []      => none
  | skip + 1, _ :: bs => lexBody t skip bs
  | 0,        b :: bs =>
    if 1 < t.charLength (b :: bs) then lexBody t (t.charLength (b :: bs) - 1) bs
    else if b = 0x5C then lexBody t 1 bs
    else if b = 0x27 then
      if bs.head? = some 0x27 then lexBody t 1 bs else some bs
    else lexBody t 0 bs

def lexString (t : Trailing) : Bytes → Option Bytes
  | b :: bs => if b = 0x27 then t.lexBody 0 bs else none
  | []      => none

-- Whether a lead byte is still open behind bytes that are no ASCII characters.
def opens (t : Trailing) : Bool → Bytes → Bool
  | lead, []      => lead
  | lead, b :: bs => opens t (if lead && t.isTrail b then false else t.isLead b) bs

end Trailing

-- Where the server is with respect to the characters of the client: between two of them, behind a lead byte
-- that takes what comes next if it can, or behind a backslash that escapes what comes next.
inductive Place
  | between
  | behindLead
  | behindBackslash
  deriving DecidableEq

namespace Place

def after (t : Trailing) (p : Place) (c : Char) : Place :=
  if c = '\\' then
    if p = between then between else behindBackslash
  else if c.toNat < 0x80 then between
  else
    let bytes := String.utf8EncodeChar c
    let lead :=
      match p with
      | between         => t.opens false bytes
      | behindLead      => t.opens true bytes
      | behindBackslash => t.opens false bytes.tail
    if lead then behindLead else between

-- Every quote of a text is met between two characters, and its end not behind a backslash.
def Inside (t : Trailing) : Place → Text → Prop
  | p, []     => p ≠ behindBackslash
  | p, c :: s => (c = '\'' → p = between) ∧ Inside t (p.after t c) s

instance decidableInside (t : Trailing) : ∀ (p : Place) (s : Text), Decidable (Inside t p s)
  | p, []     => inferInstanceAs (Decidable (p ≠ behindBackslash))
  | p, c :: s =>
    have := decidableInside t (p.after t c) s
    inferInstanceAs (Decidable (_ ∧ _))

-- How the lexer goes on.
def lex (t : Trailing) : Place → Bytes → Option Bytes
  | between,         bs => t.lexBody 0 bs
  | behindLead,      bs => if bs.head?.any t.isTrail then t.lexBody 1 bs else t.lexBody 0 bs
  | behindBackslash, bs => t.lexBody 1 bs

end Place

namespace Trailing

variable {t : Trailing} {b : UInt8} {bs : Bytes}

theorem isLead_high (h : t.isLead b) : 0x80 ≤ b.toNat := by
  cases t
  all_goals
    simp only [isLead, inRange, Bool.or_eq_true, Bool.and_eq_true, decide_eq_true_eq] at h
    omega

theorem startsHalf_iff : t.startsHalf (b :: bs) ↔ t.isLead b ∧ ∃ d ∈ bs.head?, inRange 0x30 0x39 d := by
  cases bs
  case nil       => simp [startsHalf]
  case cons d bs => simp [startsHalf]

theorem ascii_of_digit (h : inRange 0x30 0x39 b) : b.toNat < 0x80 := by
  simp only [inRange, Bool.and_eq_true, decide_eq_true_eq] at h
  omega

theorem charLength_of_not_lead (h : t.isLead b = false) : t.charLength (b :: bs) = 1 := by
  cases bs
  case nil       => rfl
  case cons d bs => simp [charLength, startsHalf, h]

theorem asBytes_head_ascii {s : Text} (hb : s.asBytes = b :: bs) (h : b.toNat < 0x80) :
    ∃ s' : Text, bs = s'.asBytes := by
  cases s
  case nil       => cases hb
  case cons c s =>
    obtain hc | hc := Nat.lt_or_ge c.toNat 0x80
    · rw [Text.asBytes, List.flatMap_cons, Text.utf8EncodeChar_ascii hc] at hb
      exact ⟨s, (List.cons.inj hb).right.symm⟩
    · obtain ⟨b₁, b₂, hs, he, hh⟩ := Text.utf8EncodeChar_other hc
      rw [Text.asBytes, List.flatMap_cons, he] at hb
      have := hh b₁ List.mem_cons_self
      rw [(List.cons.inj hb).left] at this
      omega

theorem asBytes_head_other {s : Text} {b' : UInt8} (hb : s.asBytes = b :: b' :: bs) (h : 0x80 ≤ b.toNat) :
    0x80 ≤ b'.toNat := by
  cases s
  case nil      => cases hb
  case cons c s =>
    obtain hc | hc := Nat.lt_or_ge c.toNat 0x80
    · rw [Text.asBytes, List.flatMap_cons, Text.utf8EncodeChar_ascii hc] at hb
      rw [← (List.cons.inj hb).left, Text.ofNat_toNat_of_lt (by omega)] at h
      omega
    · obtain ⟨b₁, b₂, hs, he, hh⟩ := Text.utf8EncodeChar_other hc
      rw [Text.asBytes, List.flatMap_cons, he] at hb
      obtain ⟨_, hb⟩ := List.cons.inj hb
      exact (List.cons.inj hb).left ▸ hh b₂ (by simp)

-- A character of four bytes would need a digit behind each of its lead bytes. Where what follows starts a
-- character in UTF-8, the second lead byte is the first one of such a character, and has no digit behind it.
theorem charLength_stream {hs : Bytes} (hh : ∀ b ∈ hs, 0x80 ≤ b.toNat) (s : Text) :
    t.charLength (b :: (hs ++ s.asBytes)) =
      if t.isLead b && (hs ++ s.asBytes).head?.any t.isTrail then 2 else 1 := by
  have half : ∀ x xs, hs ++ s.asBytes = x :: xs → t.startsHalf (b :: x :: xs) → ¬t.startsHalf xs := by
    intro x xs hx hb hxs
    have hd : x.toNat < 0x80 := ascii_of_digit (by simpa using (startsHalf_iff.mp hb).right)
    cases hs
    case cons h hs =>
      have := hh h List.mem_cons_self
      rw [(List.cons.inj hx).left] at this
      omega
    case nil =>
      obtain ⟨s', rfl⟩ := asBytes_head_ascii hx hd
      cases hy : s'.asBytes
      case nil       => simp [hy, startsHalf] at hxs
      case cons y ys =>
        rw [hy, startsHalf_iff] at hxs
        obtain ⟨hl, z, hz, hd⟩ := hxs
        obtain ⟨zs, rfl⟩ : ∃ zs, ys = z :: zs := ⟨ys.tail, (List.cons_head?_tail hz).symm⟩
        have := asBytes_head_other hy (isLead_high hl)
        have := ascii_of_digit hd
        omega
  cases hx : hs ++ s.asBytes
  case nil       => simp [charLength]
  case cons x xs =>
    rw [charLength, List.head?_cons, Option.any_some]
    by_cases hl : (t.isLead b && t.isTrail x) = true
    case pos => rw [if_pos hl, if_pos hl]
    case neg =>
      rw [if_neg hl, if_neg hl]
      refine if_neg fun hf => ?_
      simp only [Bool.and_eq_true] at hf
      exact half x xs hx hf.left.right hf.right

-- What is left behind a string is shorter than what it is read from.
theorem lexBody_length {skip : Nat} {rest : Bytes} (h : t.lexBody skip bs = some rest) : rest.length < bs.length := by
  induction bs generalizing skip
  case nil          => cases skip <;> cases h
  case cons b bs ih =>
    rw [List.length_cons]
    cases skip
    case succ skip => exact Nat.lt_succ_of_lt (ih h)
    case zero      =>
      rw [lexBody] at h
      split_ifs at h
      case pos => exact Nat.lt_succ_of_lt (ih h)
      case pos => exact Nat.lt_succ_of_lt (ih h)
      case pos => exact Nat.lt_succ_of_lt (ih h)
      case neg =>
        cases h
        exact Nat.lt_succ_self _
      case neg => exact Nat.lt_succ_of_lt (ih h)

theorem lexBody_plain (hl : t.isLead b = false) (hb : b ≠ 0x5C) (hq : b ≠ 0x27) :
    t.lexBody 0 (b :: bs) = t.lexBody 0 bs := by
  rw [lexBody, charLength_of_not_lead hl, if_neg (by decide), if_neg hb, if_neg hq]

theorem lexBody_backslash : t.lexBody 0 (0x5C :: bs) = t.lexBody 1 bs := by
  have hl : t.isLead 0x5C = false := by cases t <;> rfl
  rw [lexBody, charLength_of_not_lead hl, if_neg (by decide), if_pos rfl]

theorem lexBody_quote : t.lexBody 0 (0x27 :: bs) = if bs.head? = some 0x27 then t.lexBody 1 bs else some bs := by
  have hl : t.isLead 0x27 = false := by cases t <;> rfl
  rw [lexBody, charLength_of_not_lead hl, if_neg (by decide), if_neg (by decide), if_pos rfl]

theorem isTrail_backslash : t.isTrail 0x5C = true := by
  cases t <;> rfl

theorem isTrail_quote : t.isTrail 0x27 = false := by
  cases t <;> rfl

-- The bytes of a character that is not an ASCII character are taken apart in pairs.
theorem lex_opens {hs : Bytes} (hh : ∀ b ∈ hs, 0x80 ≤ b.toNat) (s : Text) (lead : Bool) :
    (if lead then Place.behindLead else .between).lex t (hs ++ s.asBytes) =
      (if t.opens lead hs then Place.behindLead else .between).lex t s.asBytes := by
  induction hs generalizing lead
  case nil          => rfl
  case cons b hs ih =>
    have hb : 0x80 ≤ b.toNat := hh b List.mem_cons_self
    have hh : ∀ b ∈ hs, 0x80 ≤ b.toNat := fun b hb => hh b (List.mem_cons_of_mem _ hb)
    have single : t.lexBody 0 (b :: (hs ++ s.asBytes)) =
        (if t.isLead b then Place.behindLead else .between).lex t (hs ++ s.asBytes) := by
      have hn : b ≠ 0x5C := fun he => absurd (he ▸ hb) (by decide)
      have hq : b ≠ 0x27 := fun he => absurd (he ▸ hb) (by decide)
      rw [lexBody, charLength_stream hh, if_neg hn, if_neg hq]
      cases t.isLead b
      case false => rfl
      case true  =>
        rw [Bool.true_and, if_pos rfl, Place.lex]
        split <;> rfl
    rw [List.cons_append, Trailing.opens]
    cases lead
    case false =>
      rw [Bool.false_and, if_neg Bool.false_ne_true]
      exact single.trans (ih hh _)
    case true  =>
      rw [if_pos rfl, Place.lex, List.head?_cons, Option.any_some, Bool.true_and]
      split
      case isTrue  => exact ih hh false
      case isFalse => exact single.trans (ih hh _)

end Trailing

namespace Place

variable {t : Trailing} {p : Place} {c : Char} {s rest : Text}

theorem lex_plain {b : UInt8} {bs : Bytes} (hb : b.toNat < 0x80) (hs : b ≠ 0x5C) (hq : b ≠ 0x27) :
    p.lex t (b :: bs) = between.lex t bs := by
  have hl : t.isLead b = false := Bool.eq_false_iff.mpr fun h => by
    have := Trailing.isLead_high h
    omega
  cases p
  case between         => exact Trailing.lexBody_plain hl hs hq
  case behindBackslash => rfl
  case behindLead      =>
    refine (apply_ite (· = _) _ _ _).mpr ?_
    split
    case isTrue  => rfl
    case isFalse => exact Trailing.lexBody_plain hl hs hq

theorem lex_backslash {bs : Bytes} :
    p.lex t (0x5C :: bs) = (if p = between then behindBackslash else between).lex t bs := by
  cases p
  case between         => exact Trailing.lexBody_backslash
  case behindBackslash => rfl
  case behindLead      =>
    rw [lex, List.head?_cons, Option.any_some, Trailing.isTrail_backslash]
    rfl

theorem escapeChar_cases (c : Char) :
    c = '\\' ∧ escapeChar c = ['\\', '\\'] ∨ c = '\'' ∧ escapeChar c = ['\\', '\''] ∨
    (c ≠ '\\' ∧ c ≠ '\'') ∧ (escapeChar c = [c] ∨
      c.toNat < 0x80 ∧ ∃ d : Char, escapeChar c = ['\\', d] ∧ d.toNat < 0x80 ∧ d ≠ '\\' ∧ d ≠ '\'') := by
  rw [escapeChar]
  split_ifs with h₁ h₂
  case pos => exact .inl ⟨h₁, rfl⟩
  case pos => exact .inr (.inl ⟨h₂, rfl⟩)
  case neg => exact .inr (.inr ⟨⟨h₁, h₂⟩, .inl rfl⟩)
  all_goals
    subst c
    exact .inr (.inr ⟨⟨h₁, h₂⟩, .inr ⟨by decide, _, rfl, by decide, by decide, by decide⟩⟩)

theorem asBytes_cons {d : Char} : Text.asBytes (d :: s) = String.utf8EncodeChar d ++ s.asBytes :=
  List.flatMap_cons

theorem lex_ascii {d : Char} (hd : d.toNat < 0x80) (hs : d ≠ '\\') (hq : d ≠ '\'') :
    p.lex t (Text.asBytes (d :: s)) = between.lex t s.asBytes := by
  have ofNat_ne {e : Char} (he : d ≠ e) (hn : e.toNat < 0x80) : UInt8.ofNat d.toNat ≠ UInt8.ofNat e.toNat := by
    intro h
    have h := congrArg UInt8.toNat h
    rw [Text.ofNat_toNat_of_lt (by omega), Text.ofNat_toNat_of_lt (by omega)] at h
    exact he (Char.toNat_inj.mp h)
  rw [asBytes_cons, Text.utf8EncodeChar_ascii hd]
  refine lex_plain ?_ (ofNat_ne hs (by decide)) (ofNat_ne hq (by decide))
  rw [Text.ofNat_toNat_of_lt (by omega)]
  exact hd

theorem lex_other (hc : 0x80 ≤ c.toNat) : p.lex t (Text.asBytes (c :: s)) = (p.after t c).lex t s.asBytes := by
  obtain ⟨b₁, b₂, bs, he, hh⟩ := Text.utf8EncodeChar_other hc
  have hs : c ≠ '\\' := by
    rintro rfl
    exact absurd hc (by decide)
  rw [asBytes_cons, after, if_neg hs, if_neg (by omega), he]
  cases p
  case between    => exact Trailing.lex_opens hh s false
  case behindLead => exact Trailing.lex_opens hh s true
  case behindBackslash =>
    exact Trailing.lex_opens (fun b hb => hh b (List.mem_cons_of_mem _ hb)) s false

-- A character takes the server from place to place.
theorem lex_escapeChar (hc : c = '\'' → p = between) :
    p.lex t (escapeChar c ++ s).asBytes = (p.after t c).lex t s.asBytes := by
  obtain ⟨rfl, he⟩ | ⟨rfl, he⟩ | ⟨⟨hs, hq⟩, he | ⟨hn, d, he, hd, hds, hdq⟩⟩ := escapeChar_cases c
  case inl =>
    rw [he]
    change p.lex t (0x5C :: 0x5C :: s.asBytes) = _
    rw [lex_backslash]
    cases p
    case between         => rfl
    case behindLead      => exact lex_backslash
    case behindBackslash => exact lex_backslash
  case inr.inl =>
    rw [he, hc rfl]
    change between.lex t (0x5C :: 0x27 :: s.asBytes) = _
    rw [lex_backslash]
    rfl
  case inr.inr.inl =>
    rw [he]
    obtain hn | hn := Nat.lt_or_ge c.toNat 0x80
    · rw [after, if_neg hs, if_pos hn]
      exact lex_ascii hn hs hq
    · exact lex_other hn
  case inr.inr.inr =>
    rw [he, after, if_neg hs, if_pos hn]
    change p.lex t (0x5C :: Text.asBytes (d :: s)) = _
    rw [lex_backslash]
    exact lex_ascii hd hds hdq

theorem asBytes_head_quote {s : Text} : s.asBytes.head? = some 0x27 ↔ s.head? = some '\'' := by
  cases s
  case nil      => simp [Text.asBytes]
  case cons c s =>
    rw [asBytes_cons]
    obtain hc | hc := Nat.lt_or_ge c.toNat 0x80
    · have hn : UInt8.ofNat c.toNat = 0x27 ↔ c = '\'' := by
        rw [← UInt8.toNat_inj, Text.ofNat_toNat_of_lt (by omega), ← Char.toNat_inj]
        rfl
      rw [Text.utf8EncodeChar_ascii hc]
      simpa using hn
    · obtain ⟨b₁, b₂, bs, he, hh⟩ := Text.utf8EncodeChar_other hc
      rw [he]
      refine iff_of_false ?_ ?_
      · intro hb
        have := hh b₁ List.mem_cons_self
        rw [Option.some.inj hb] at this
        exact absurd this (by decide)
      · rintro ⟨⟩
        exact absurd hc (by decide)

-- What follows a literal cannot be left behind by anything shorter.
theorem lexBody_ne {skip : Nat} {bs r : Bytes} (h : bs.length ≤ r.length) : t.lexBody skip bs ≠ some r :=
  fun hl => Nat.not_lt.mpr h (Trailing.lexBody_length hl)

theorem lex_quote : p.lex t (0x27 :: rest.asBytes) = some rest.asBytes ↔
    rest.head? ≠ some '\'' ∧ p ≠ behindBackslash := by
  have closing : t.lexBody 0 (0x27 :: rest.asBytes) = some rest.asBytes ↔ rest.head? ≠ some '\'' := by
    rw [Trailing.lexBody_quote]
    split
    case isTrue h  => exact iff_of_false (lexBody_ne (Nat.le_refl _)) (not_not.mpr (asBytes_head_quote.mp h))
    case isFalse h => exact iff_of_true rfl (mt asBytes_head_quote.mpr h)
  cases p
  case between         => exact closing.trans (and_iff_left (by decide)).symm
  case behindLead      =>
    refine Iff.trans ?_ (closing.trans (and_iff_left (by decide)).symm)
    rw [lex, List.head?_cons, Option.any_some, Trailing.isTrail_quote]
    rfl
  case behindBackslash =>
    have hn : t.lexBody 0 rest.asBytes ≠ some rest.asBytes := lexBody_ne (Nat.le_refl _)
    exact iff_of_false hn fun h => h.right rfl

theorem escapeChar_head (c : Char) : ∃ d ds, escapeChar c = d :: ds ∧ d ≠ '\'' := by
  obtain ⟨_, he⟩ | ⟨_, he⟩ | ⟨⟨_, hq⟩, he | ⟨_, d, he, _⟩⟩ := escapeChar_cases c
  case inr.inr.inl => exact ⟨c, [], he, hq⟩
  all_goals exact ⟨'\\', _, he, by decide⟩

-- A quote that is not met between two characters ends the string, or is doubled by the one that should.
theorem lex_swallowed (hp : p ≠ between) :
    p.lex t (0x5C :: 0x27 :: Text.asBytes (s.flatMap escapeChar ++ '\'' :: rest)) ≠ some rest.asBytes := by
  rw [lex_backslash, if_neg hp]
  change t.lexBody 0 _ ≠ _
  rw [Trailing.lexBody_quote]
  split
  case isTrue h  =>
    replace h := asBytes_head_quote.mp h
    cases s
    case nil =>
      have hn : t.lexBody 0 rest.asBytes ≠ some rest.asBytes := lexBody_ne (Nat.le_refl _)
      exact hn
    case cons c s =>
      obtain ⟨d, ds, he, hd⟩ := escapeChar_head c
      rw [List.flatMap_cons, he] at h
      exact absurd (Option.some.inj h) hd
  case isFalse h =>
    intro he
    have hl := congrArg List.length (Option.some.inj he)
    rw [Text.asBytes_append, asBytes_cons, List.length_append, List.length_append] at hl
    have : (String.utf8EncodeChar '\'').length = 1 := rfl
    omega

-- The literal ends where it should if every quote in it is met between two characters.
theorem lex_escapeString_iff :
    p.lex t (Text.asBytes (s.flatMap escapeChar ++ '\'' :: rest)) = some rest.asBytes ↔
      rest.head? ≠ some '\'' ∧ Inside t p s := by
  induction s generalizing p
  case nil => exact lex_quote
  case cons c s ih =>
    rw [List.flatMap_cons, List.append_assoc, Inside]
    by_cases hc : c = '\'' → p = between
    case pos =>
      rw [lex_escapeChar hc, ih]
      exact and_congr_right fun _ => (and_iff_right hc).symm
    case neg =>
      obtain ⟨rfl, hp⟩ := Classical.not_imp.mp hc
      exact iff_of_false (lex_swallowed hp) fun h => hc h.right.left

end Place

namespace Connection

open Command

variable [Libraries]

-- The packet that has been queued last, as the first one of its command.
def Queued (payload : Bytes) (c : Connection) : Prop :=
  ∃ d : Connection, d.packetStream.nextSeqId = 0 ∧ writePacket payload d = .ok () c

theorem executeCommand_queued {command : UInt8} {sql : Bytes} {c c' : Connection}
    (h : executeCommand command sql c = .ok () c') : Queued (command :: sql) c' := by
  simp only [executeCommand, Proc.bind_apply, Proc.get_apply, Outcome.bind_ok] at h
  split at h
  case isTrue  => cases h
  case isFalse =>
    obtain ⟨_, _, _, h⟩ := Outcome.bind_eq_ok.mp h
    exact ⟨_, rfl, h⟩

-- A query is sent in UTF-8, and the server reads the bytes behind its opening quote in its own charset.
theorem literal_inside_iff (c : Connection) (hb : c.backslashEscapes) (t : Trailing) (s before rest : Text) :
    (∃ literal, c.literal (.string s) = .ok literal ∧
      let sql : Text := before ++ literal ++ rest
      (∀ c c', executeCommand COM_QUERY sql.asBytes c = .ok () c' → Queued (COM_QUERY :: sql.asBytes) c') ∧
      t.lexString (sql.asBytes.drop before.len) = some rest.asBytes) ↔
    rest.head? ≠ some '\'' ∧ Place.Inside t .between s := by
  have hs : c.escapeString s = s.flatMap escapeChar := by
    rw [escapeString, if_neg (not_not.mpr (of_decide_eq_true hb)), escapeString_eq]
  have hl : t.lexString ((before ++ quoted (c.escapeString s) ++ rest).asBytes.drop before.len) =
      Place.between.lex t (Text.asBytes (s.flatMap escapeChar ++ '\'' :: rest)) := by
    have hq : before ++ quoted (c.escapeString s) ++ rest =
        before ++ '\'' :: (s.flatMap escapeChar ++ '\'' :: rest) := by
      simp [quoted, hs]
    rw [hq, Text.asBytes_append, Text.len, List.drop_left]
    rfl
  rw [← Place.lex_escapeString_iff, ← hl]
  constructor
  · rintro ⟨_, ⟨⟩, _, h⟩
    exact h
  · exact fun h => ⟨_, rfl, fun _ _ => executeCommand_queued, h⟩

end Connection

section Examples

open Connection

theorem literal_inside_gbk :
    let := Libraries.utf8Only
    let c := fresh {} ⟨45, "utf8mb4", true⟩
    c.backslashEscapes ∧ ∃ literal, c.literal (.string "\u7e17a'".toList) = .ok literal ∧
      let sql : Text := "SELECT ".toList ++ literal ++ [';']
      (∀ c c', executeCommand Command.COM_QUERY sql.asBytes c = .ok () c' →
        Queued (Command.COM_QUERY :: sql.asBytes) c') ∧
      Trailing.gbk.lexString (sql.asBytes.drop (Text.len "SELECT ".toList)) = some (Text.asBytes [';']) := by
  intro this c
  have hb : c.backslashEscapes = true := by decide
  exact ⟨hb, (literal_inside_iff c hb .gbk _ _ _).mpr ⟨by decide, by decide⟩⟩

-- The last byte of the character and the backslash behind it are one character in GBK.
theorem literal_left_gbk :
    let := Libraries.utf8Only
    let c := fresh {} ⟨45, "utf8mb4", true⟩
    ∃ c' literal, setCharacterSet "gbk".toList none c = .ok () c' ∧ c'.options.charset = "gbk".toList ∧
      c'.backslashEscapes ∧ c'.literal (.string "\u7e17' OR 1=1 #".toList) = .ok literal ∧
      Trailing.gbk.lexString literal.asBytes = some (Text.asBytes " OR 1=1 #'".toList) :=
  ⟨_, _, rfl, rfl, rfl, rfl, rfl⟩

end Examples
end MySQL
