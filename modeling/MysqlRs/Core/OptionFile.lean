import MysqlRs.Core.Converters

namespace MySQL

-- The tables of the character database that `str::to_lowercase` looks characters up in.
class Unicode where
  toLowercase : Char → Text
  isCased : Char → Bool
  isCaseIgnorable : Char → Bool

namespace Text

-- `char::is_whitespace`
def isWhitespace (c : Char) : Bool :=
  let n := c.toNat
  (9 ≤ n && n ≤ 13) || n = 0x20 || n = 0x85 || n = 0xA0 || n = 0x1680 || (0x2000 ≤ n && n ≤ 0x200A) ||
    n = 0x2028 || n = 0x2029 || n = 0x202F || n = 0x205F || n = 0x3000

def trim (s : Text) : Text :=
  ((s.dropWhile isWhitespace).reverse.dropWhile isWhitespace).reverse

-- `str::split_inclusive`: every piece but the last one ends in the separator.
def splitInclusive (c : Char) : Text → List Text
  | []     => []
  | d :: s =>
    if d = c then [d] :: splitInclusive c s
    else
      match splitInclusive c s with
      | []            => [[d]]
      | line :: lines => (d :: line) :: lines

def stripSuffix (c : Char) (s : Text) : Option Text :=
  if s.getLast? = some c then some s.dropLast else none

-- `str::lines`
def lines (s : Text) : List Text :=
  (s.splitInclusive '\n').map fun line =>
    match line.stripSuffix '\n' with
    | none      => line
    | some line => (line.stripSuffix '\r').getD line

section Lowercase

variable [Unicode]

def caseIgnorableThenCased (s : Text) : Bool :=
  match s.dropWhile Unicode.isCaseIgnorable with
  | []     => false
  | c :: _ => Unicode.isCased c

-- The characters that come before are listed from the last one on. A sigma that ends a word has a form of its
-- own.
def lowercaseAfter (before : Text) : Text → Text
  | []     => []
  | c :: s =>
    let lower : Text :=
      if c = 'Σ' then
        if caseIgnorableThenCased before && !caseIgnorableThenCased s then ['ς'] else ['σ']
      else Unicode.toLowercase c
    lower ++ lowercaseAfter (c :: before) s

-- `str::to_lowercase`
def toLowercase (s : Text) : Text :=
  lowercaseAfter [] s

end Lowercase

end Text

-- `HashMap<String, HashMap<String, String>>`
structure OptionFile where
  groups : Text → Option (Text → Option Text) := fun _ => none

-- A line without a separator is a key without a value.
def splitKeyValue (line : Text) : Text × Text :=
  match line.dropWhile fun c => !(c = '=' || c = ':') with
  | []         => (line, [])
  | _ :: value => (line.takeWhile fun c => !(c = '=' || c = ':'), value)

def stripQuotes (value : Text) : Text :=
  let first := value.head?
  if 2 ≤ value.len && (first = some '\'' || first = some '"') && value.getLast? = first then value.tail.dropLast
  else value

namespace OptionFile

open ClientError

def get (file : OptionFile) (group key : Text) : Option Text :=
  (file.groups group).bind fun options => options key

-- `entry(group).or_default().insert(key, value)`
def insert (file : OptionFile) (group key value : Text) : OptionFile where
  groups name :=
    if name = group then
      let options := (file.groups group).getD fun _ => none
      some fun k => if k = key then some value else options k
    else file.groups name

def parseError (lineNo : Nat) (message : String) : Error :=
  .operationalError CR_UNKNOWN_ERROR s!"Invalid option file at line {lineNo + 1}: {message}"

variable [Unicode]

-- What the loop over the lines goes on with: the group that is current, and the file so far.
abbrev Progress := Option Text × OptionFile

-- The body of the loop.
def parseLine (lineNo : Nat) (rawLine : Text) (currentGroup : Option Text) (file : OptionFile) :
    Except Error Progress :=
  let line := rawLine.trim
  if line = [] || line.head? = some '#' || line.head? = some ';' then .ok (currentGroup, file)
  else if line.head? = some '[' then
    if line.getLast? ≠ some ']' then .error (parseError lineNo "unclosed section header")
    else
      let name : Text := Text.trim line.tail.dropLast
      if name = [] then .error (parseError lineNo "empty section name")
      else .ok (some name, file)
  else
    match currentGroup with
    | none       => .error (parseError lineNo "option without a section")
    | some group =>
      let (key, value) := splitKeyValue line
      let key := key.trim.toLowercase.replace '_' ['-']
      if key = [] then .error (parseError lineNo "empty option name")
      else .ok (some group, file.insert group key (stripQuotes value.trim))

def parseLines : Nat → List Text → Progress → Except Error Progress
  | _,      [],              progress => .ok progress
  | lineNo, rawLine :: rest, progress => do
    parseLines (lineNo + 1) rest (← parseLine lineNo rawLine progress.1 progress.2)

def parse (text : Text) : Except Error OptionFile := do
  return (← parseLines 0 text.lines (none, {})).2

end OptionFile
end MySQL
