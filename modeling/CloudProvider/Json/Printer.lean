import CloudProvider.Json.Basic
import CloudProvider.Text.Hexadecimal

/-!
# The text of a JSON value

* `Json.compact`: without blanks.
* `Json.pretty`: one item or member a line, indented by two blanks a level.
-/

namespace CloudProvider.Json

/-- A character within quotes: only quotes, backslashes and control characters are escaped. -/
def escapeChar (c : Char) : List Char :=
  if c = '"' then ['\\', '"']
  else if c = '\\' then ['\\', '\\']
  else if c = '\n' then ['\\', 'n']
  else if c = '\r' then ['\\', 'r']
  else if c = '\t' then ['\\', 't']
  else if c = '\x08' then ['\\', 'b']
  else if c = '\x0c' then ['\\', 'f']
  else if c.toNat < 0x20 then
    ['\\', 'u', '0', '0', Text.hexDigit (c.toNat / 16), Text.hexDigit (c.toNat % 16)]
  else [c]

/-- A text between quotes. -/
def quote (s : String) : List Char :=
  '"' :: s.toList.flatMap escapeChar ++ ['"']

/-! ## Without blanks -/

mutual

/-- The characters of a value, without blanks. -/
def compactChars : Json → List Char
  | .null => "null".toList
  | .bool b => (if b then "true" else "false").toList
  | .int n => (toString n).toList
  | .float x => x.render
  | .str s => quote s
  | .arr items => '[' :: compactItems items ++ [']']
  | .obj members => '\x7b' :: compactMembers members ++ ['\x7d']

def compactItems : List Json → List Char
  | [] => []
  | [j] => compactChars j
  | j :: k :: rest => compactChars j ++ ',' :: compactItems (k :: rest)

def compactMembers : List (String × Json) → List Char
  | [] => []
  | [(name, j)] => quote name ++ ':' :: compactChars j
  | (name, j) :: m :: rest =>
    quote name ++ ':' :: compactChars j ++ ',' :: compactMembers (m :: rest)

end

/-- **The text of a value without blanks.** -/
def compact (j : Json) : String := String.ofList j.compactChars

/-! ## With a line for each item -/

/-- The start of a line at a level. -/
def newline (level : Nat) : List Char :=
  '\n' :: List.replicate (2 * level) ' '

mutual

/-- The characters of a value that starts within a line at a level. -/
def prettyChars (level : Nat) : Json → List Char
  | .null => "null".toList
  | .bool b => (if b then "true" else "false").toList
  | .int n => (toString n).toList
  | .float x => x.render
  | .str s => quote s
  | .arr [] => ['[', ']']
  | .arr (j :: rest) => '[' :: prettyItems (level + 1) (j :: rest) ++ newline level ++ [']']
  | .obj [] => ['\x7b', '\x7d']
  | .obj (m :: rest) =>
    '\x7b' :: prettyMembers (level + 1) (m :: rest) ++ newline level ++ ['\x7d']

def prettyItems (level : Nat) : List Json → List Char
  | [] => []
  | [j] => newline level ++ prettyChars level j
  | j :: k :: rest => newline level ++ prettyChars level j ++ ',' :: prettyItems level (k :: rest)

def prettyMembers (level : Nat) : List (String × Json) → List Char
  | [] => []
  | [(name, j)] => newline level ++ quote name ++ ':' :: ' ' :: prettyChars level j
  | (name, j) :: m :: rest =>
    newline level ++ quote name ++ ':' :: ' ' :: prettyChars level j ++
      ',' :: prettyMembers level (m :: rest)

end

/-- **The text of a value with a line for each item.** -/
def pretty (j : Json) : String := String.ofList (j.prettyChars 0)

end CloudProvider.Json
