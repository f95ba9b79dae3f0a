import ModuleHost.Text.Visible

/-!
# Quoted text

Text as diagnostics show it: between double quotes, with escapes for what could be misread.

* `quoted`, `quotedOption`, `quotedList`, `quotedSet`.
-/

namespace ModuleHost.Text

/-- The code of a character in hexadecimal, without leading zeros. -/
def hexCode (c : Char) : String :=
  String.ofList (Nat.toDigits 16 c.toNat)

/-- How a character is written between quotes. -/
def escapeChar (c : Char) : String :=
  if c == '\x00' then "\\0"
  else if c == '\t' then "\\t"
  else if c == '\r' then "\\r"
  else if c == '\n' then "\\n"
  else if c == '"' then "\\\""
  else if c == '\\' then "\\\\"
  else if isVisible c then c.toString
  else "\\u\x7b" ++ hexCode c ++ "\x7d"

/-- **The text between quotes.** -/
def quoted (s : String) : String :=
  "\"" ++ String.join (s.toList.map escapeChar) ++ "\""

/-- A text that may be missing. -/
def quotedOption : Option String → String
  | some s => "Some(" ++ quoted s ++ ")"
  | none => "None"

def quotedList (xs : List String) : String :=
  "[" ++ String.intercalate ", " (xs.map quoted) ++ "]"

def quotedSet (xs : List String) : String :=
  "\x7b" ++ String.intercalate ", " (xs.map quoted) ++ "\x7d"

end ModuleHost.Text
