import EntityMapping.Json.Basic
import EntityMapping.Text.Hex

/-!
# Writing JSON

JSON is written without blanks. In strings, the quote, the backslash and the control characters are escaped;
everything else stands for itself.
-/

namespace EntityMapping
namespace Json

/-- The characters that write one character of a string. -/
def escapeChar (c : Char) : List Char :=
  if c = '"' then ['\\', '"']
  else if c = '\\' then ['\\', '\\']
  else if c = '\x08' then ['\\', 'b']
  else if c = '\x0c' then ['\\', 'f']
  else if c = '\n' then ['\\', 'n']
  else if c = '\r' then ['\\', 'r']
  else if c = '\t' then ['\\', 't']
  else if c.toNat < 32 then
    ['\\', 'u', '0', '0', hexChar (c.toNat / 16), hexChar (c.toNat % 16)]
  else [c]

/-- The characters that write a string. A string without text is written as an empty one. -/
def quote (s : Option String) : List Char :=
  '"' :: ((s.getD "").toList.flatMap escapeChar ++ ['"'])

mutual

/-- The characters that write a tree. -/
def toChars : Json → List Char
  | .null => ['n', 'u', 'l', 'l']
  | .bool true => ['t', 'r', 'u', 'e']
  | .bool false => ['f', 'a', 'l', 's', 'e']
  | .number n => n.toChars
  | .string s => quote s
  | .array items => '[' :: (itemChars items ++ [']'])
  | .object members => '\x7b' :: (memberChars members ++ ['\x7d'])

/-- The characters that write items, with commas between. -/
def itemChars : List Json → List Char
  | [] => []
  | [j] => j.toChars
  | j :: k :: js => j.toChars ++ ',' :: itemChars (k :: js)

/-- The characters that write members, with commas between. -/
def memberChars : List (Option String × Json) → List Char
  | [] => []
  | [(key, j)] => quote key ++ ':' :: j.toChars
  | (key, j) :: m :: ms => quote key ++ ':' :: (j.toChars ++ ',' :: memberChars (m :: ms))

end

/-- The text of a tree. -/
def render (j : Json) : String := String.ofList j.toChars

end Json
end EntityMapping
