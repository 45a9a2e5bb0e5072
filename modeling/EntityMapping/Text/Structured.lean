/-!
# Structured texts

Texts that show how a thing is put together: its name, and its parts in brackets.
-/

namespace EntityMapping

/-- Parts with a comma and a space between them. -/
def commaSeparated (parts : List String) : String := ", ".intercalate parts

/-- Items in square brackets. -/
def bracketed (items : List String) : String := "[" ++ commaSeparated items ++ "]"

/-- Items in braces. -/
def inBraces (items : List String) : String := "\x7b" ++ commaSeparated items ++ "\x7d"

/-- A name and labelled parts in braces. -/
def braced (name : String) (parts : List (String × String)) : String :=
  name ++ " \x7b " ++ commaSeparated (parts.map fun p => p.1 ++ ": " ++ p.2) ++ " \x7d"

/-- A name and one part in parentheses. -/
def wrapped (name part : String) : String := name ++ "(" ++ part ++ ")"

/-- Something that may be absent. -/
def optionText : Option String → String
  | none => "None"
  | some part => wrapped "Some" part

/-- A truth value. -/
def boolText (b : Bool) : String := if b then "true" else "false"

end EntityMapping
