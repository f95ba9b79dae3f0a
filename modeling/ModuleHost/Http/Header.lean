/-!
# Header values

* `isHeaderValue`: the texts that can be sent as the value of a header.
-/

namespace ModuleHost.Http

/-- A character that may stand in a header value: no control character except the tab. -/
def isHeaderChar (c : Char) : Bool :=
  (0x20 ≤ c.toNat && c.toNat != 0x7F) || c == '\t'

/-- **A text that can be sent as a header value.** -/
def isHeaderValue (s : String) : Bool :=
  s.toList.all isHeaderChar

end ModuleHost.Http
