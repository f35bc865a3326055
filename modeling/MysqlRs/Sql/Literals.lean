import MysqlRs.Core.Commands
import MysqlRs.Library.Reading
import MysqlRs.Sql.Escape

namespace MySQL

-- What the server makes of a backslash and the character behind it.
def unescape : Char → Text
  | '0' => ['\x00']
  | 'b' => ['\x08']
  | 'n' => ['\n']
  | 'r' => ['\r']
  | 't' => ['\t']
  | 'Z' => ['\x1a']
  | '%' => ['\\', '%']
  | '_' => ['\\', '_']
  | c   => [c]

-- The server's lexer behind the quote that opens a string: the value, and what follows the quote that
-- closes it.
def lexStringBody (backslashes : Bool) : Text → Option (Text × Text)
  | []             => none
  | [c]            => if c = '\'' then some ([], []) else none
  | c :: d :: rest =>
    if c = '\'' then
      if d = '\'' then (fun r => ('\'' :: r.1, r.2)) <$> lexStringBody backslashes rest
      else some ([], d :: rest)
    else if backslashes ∧ c = '\\' then
      (fun r => (unescape d ++ r.1, r.2)) <$> lexStringBody backslashes rest
    else (fun r => (c :: r.1, r.2)) <$> lexStringBody backslashes (d :: rest)

def lexString (backslashes : Bool) : Text → Option (Text × Text)
  | '\'' :: rest => lexStringBody backslashes rest
  | _            => none

section Lexing

variable {backslashes : Bool} {c : Char} (rest : Text)

theorem lex_quotes : lexStringBody backslashes ('\'' :: '\'' :: rest) =
    (fun r => ('\'' :: r.1, r.2)) <$> lexStringBody backslashes rest := by
  rw [lexStringBody, if_pos rfl, if_pos rfl]

theorem lex_close (h : rest.head? ≠ some '\'') :
    lexStringBody backslashes ('\'' :: rest) = some ([], rest) := by
  cases rest
  case nil         => rfl
  case cons d rest => rw [lexStringBody, if_pos rfl, if_neg fun hd => h (congrArg some hd)]

theorem lex_escaped (d : Char) : lexStringBody true ('\\' :: d :: rest) =
    (fun r => (unescape d ++ r.1, r.2)) <$> lexStringBody true rest := by
  rw [lexStringBody, if_neg (by decide), if_pos ⟨rfl, rfl⟩]

theorem lex_plain (hc : c ≠ '\'') (hb : ¬(backslashes ∧ c = '\\')) :
    lexStringBody backslashes (c :: rest) = (fun r => (c :: r.1, r.2)) <$> lexStringBody backslashes rest := by
  cases rest
  case nil         => simp [lexStringBody, hc]
  case cons d rest => rw [lexStringBody, if_neg hc, if_neg hb]

-- Every character is recovered from its replacement, whatever follows.
theorem lex_escapeChar (c : Char) (rest : Text) :
    lexStringBody true (escapeChar c ++ rest) = (fun r => (c :: r.1, r.2)) <$> lexStringBody true rest := by
  rw [escapeChar]
  split_ifs with h₁ h₂
  case neg => exact lex_plain rest h₂ fun h => h₁ h.right
  all_goals
    subst c
    exact lex_escaped rest _

theorem lex_doubled (c : Char) (rest : Text) :
    lexStringBody false ((if c = '\'' then "''".toList else [c]) ++ rest) =
      (fun r => (c :: r.1, r.2)) <$> lexStringBody false rest := by
  split_ifs with h
  case pos =>
    subst h
    exact lex_quotes rest
  case neg => exact lex_plain rest h nofun

end Lexing

namespace Connection

variable {c : Connection} {rest : Text}

def backslashEscapes (c : Connection) : Bool :=
  c.serverStatus &&& ServerStatus.SERVER_STATUS_NO_BACKSLASH_ESCAPES = 0

theorem lex_escapeString (c : Connection) (s rest : Text) :
    lexStringBody c.backslashEscapes (c.escapeString s ++ rest) =
      (fun r => (s ++ r.1, r.2)) <$> lexStringBody c.backslashEscapes rest := by
  rw [escapeString, backslashEscapes]
  split_ifs with h
  case pos =>
    rw [decide_eq_false h]
    exact Reading.undo_flatMap lex_doubled s rest
  case neg =>
    rw [decide_eq_true (not_not.mp h), escapeString_eq]
    exact Reading.undo_flatMap lex_escapeChar s rest

-- The server reads an escaped string as one string literal, and what follows as it is.
theorem escapeString_lexed (c : Connection) (s : Text) (h : rest.head? ≠ some '\'') :
    lexString c.backslashEscapes (quoted (c.escapeString s) ++ rest) = some (s, rest) := by
  have hq : quoted (c.escapeString s) ++ rest = '\'' :: (c.escapeString s ++ '\'' :: rest) := by
    simp [quoted]
  rw [hq, lexString, lex_escapeString, lex_close rest h]
  exact congrArg (fun v => some (v, rest)) (List.append_nil s)

theorem escapeString_lexed_backslashes :
    let c := fresh {} ⟨45, "utf8mb4", true⟩
    lexString true (quoted (c.escapeString ['\\', '\'', '\\']) ++ [',']) = some (['\\', '\'', '\\'], [',']) :=
  escapeString_lexed (fresh {} ⟨45, "utf8mb4", true⟩) _ (by decide)

end Connection
end MySQL
