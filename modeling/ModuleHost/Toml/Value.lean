/-!
# TOML values

What a TOML document says, without its spelling.

* `Toml.Value`: a value of a document.
* `Toml.Reader`: what reads documents. What a host does with its settings holds for every reader.
-/

namespace ModuleHost.Toml

/-- A value of a document. Numbers with a fraction or an exponent, dates and times keep their
spelling: a host has no setting of these kinds. -/
inductive Value where
  | text (s : String)
  | integer (n : Int)
  | real (spelling : String)
  | flag (b : Bool)
  | moment (spelling : String)
  | list (items : List Value)
  | table (entries : List (String × Value))
  deriving Inhabited

/-- **A reader of documents**: the entries that a text stands for, nothing if it is no document. -/
abbrev Reader :=
  String → Option (List (String × Value))

/-- The value at a key, the first one if there are several. -/
def entry? (entries : List (String × Value)) (key : String) : Option Value :=
  (entries.find? (fun e => e.1 == key)).map (·.2)

end ModuleHost.Toml
