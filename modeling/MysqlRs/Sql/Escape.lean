import MysqlRs.Core.Converters

namespace MySQL

-- What `escapeString` makes of a single character.
def escapeChar (c : Char) : Text :=
  if c = '\\' then "\\\\".toList
  else if c = '\'' then "\\'".toList
  else if c = '\n' then "\\n".toList
  else if c = '\r' then "\\r".toList
  else if c = '\x00' then "\\0".toList
  else if c = '\x1a' then "\\Z".toList
  else if c = '"' then "\\\"".toList
  else [c]

-- The characters that are replaced later do not occur in what others have been replaced by.
theorem escapeString_eq (s : Text) : escapeString s = s.flatMap escapeChar := by
  simp only [escapeString, Text.replace, List.flatMap_assoc]
  refine congrArg (s.flatMap ·) (funext fun c => ?_)
  rw [escapeChar]
  split_ifs <;> simp [*]

end MySQL
