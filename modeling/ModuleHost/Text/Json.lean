/-!
# Text in documents

* `jsonString`: a text between double quotes.
* `jsonList`: texts between brackets.
-/

namespace ModuleHost.Text

/-- A code below 256 as two hexadecimal digits. -/
def hexByte (n : Nat) : String :=
  let digits := Nat.toDigits 16 n
  String.ofList (List.replicate (2 - digits.length) '0' ++ digits)

/-- How a character is written in a document: quotes, backslashes and control characters have
escapes, all else stands for itself. -/
def jsonChar (c : Char) : String :=
  if c == '"' then "\\\""
  else if c == '\\' then "\\\\"
  else if c == '\x08' then "\\b"
  else if c == '\t' then "\\t"
  else if c == '\n' then "\\n"
  else if c == '\x0c' then "\\f"
  else if c == '\r' then "\\r"
  else if c.toNat < 0x20 then "\\u00" ++ hexByte c.toNat
  else c.toString

/-- **A text in a document.** -/
def jsonString (s : String) : String :=
  "\"" ++ String.join (s.toList.map jsonChar) ++ "\""

/-- Texts in a document. -/
def jsonList (xs : List String) : String :=
  "[" ++ String.intercalate "," (xs.map jsonString) ++ "]"

end ModuleHost.Text
