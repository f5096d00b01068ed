import ProbeWatch.Json.Basic
import ProbeWatch.Text.Hex

/-!
# JSON text

Two layouts of a value: compact, without any blank, and indented by two spaces a level.  Strings
escape only what JSON requires; every other character stands for itself.
-/

namespace ProbeWatch.Json

/-- The characters that stand for one character inside quotes. -/
def escapeChar (c : Char) : List Char :=
  if c = '"' then ['\\', '"']
  else if c = '\\' then ['\\', '\\']
  else if c = '\x08' then ['\\', 'b']
  else if c = '\x0c' then ['\\', 'f']
  else if c = '\n' then ['\\', 'n']
  else if c = '\r' then ['\\', 'r']
  else if c = '\t' then ['\\', 't']
  else if c.toNat < 32 then
    ['\\', 'u', '0', '0', Text.lowerHexDigit (c.toNat / 16), Text.lowerHexDigit (c.toNat % 16)]
  else [c]

/-- A text between quotes. -/
def quoted (text : List Char) : List Char :=
  '"' :: (text.flatMap escapeChar ++ ['"'])

mutual

/-- The compact characters of a value. -/
def compactChars : Json → List Char
  | .null => ['n', 'u', 'l', 'l']
  | .bool true => ['t', 'r', 'u', 'e']
  | .bool false => ['f', 'a', 'l', 's', 'e']
  | .number value => value.render.toList
  | .string text => quoted text.toList
  | .array [] => ['[', ']']
  | .array (item :: items) => '[' :: (compactChars item ++ compactItems items ++ [']'])
  | .object [] => ['\x7b', '\x7d']
  | .object ((key, value) :: members) =>
      '\x7b' :: (quoted key.toList ++ ':' :: (compactChars value ++ compactMembers members ++ ['\x7d']))

/-- The items of an array that follow its first one, each behind a comma. -/
def compactItems : List Json → List Char
  | [] => []
  | item :: items => ',' :: (compactChars item ++ compactItems items)

/-- The members of an object that follow its first one, each behind a comma. -/
def compactMembers : List (String × Json) → List Char
  | [] => []
  | (key, value) :: members =>
      ',' :: (quoted key.toList ++ ':' :: (compactChars value ++ compactMembers members))

end

/-- The compact text of a value. -/
def compact (value : Json) : String :=
  String.ofList value.compactChars

/-- A line break and the blanks of an indentation level. -/
def newLine (level : Nat) : List Char :=
  '\n' :: List.replicate (2 * level) ' '

mutual

/-- The indented characters of a value that starts at the given level. -/
def indentedChars (level : Nat) : Json → List Char
  | .array (item :: items) =>
      '[' :: (newLine (level + 1) ++ indentedChars (level + 1) item ++
        indentedItems (level + 1) items ++ newLine level ++ [']'])
  | .object ((key, value) :: members) =>
      '\x7b' :: (newLine (level + 1) ++ quoted key.toList ++ ':' :: ' ' ::
        (indentedChars (level + 1) value ++ indentedMembers (level + 1) members ++ newLine level ++
          ['\x7d']))
  | .array [] => ['[', ']']
  | .object [] => ['\x7b', '\x7d']
  | .null => ['n', 'u', 'l', 'l']
  | .bool true => ['t', 'r', 'u', 'e']
  | .bool false => ['f', 'a', 'l', 's', 'e']
  | .number value => value.render.toList
  | .string text => quoted text.toList

/-- The indented items that follow the first one, each behind a comma and a line break. -/
def indentedItems (level : Nat) : List Json → List Char
  | [] => []
  | item :: items => ',' :: (newLine level ++ indentedChars level item ++ indentedItems level items)

/-- The indented members that follow the first one, each behind a comma and a line break. -/
def indentedMembers (level : Nat) : List (String × Json) → List Char
  | [] => []
  | (key, value) :: members =>
      ',' :: (newLine level ++ quoted key.toList ++ ':' :: ' ' ::
        (indentedChars level value ++ indentedMembers level members))

end

/-- The text of a value indented by two spaces a level. -/
def indented (value : Json) : String :=
  String.ofList (value.indentedChars 0)

end ProbeWatch.Json
