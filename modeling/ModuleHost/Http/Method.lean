import ModuleHost.Text.Blank

/-!
# Request methods

* `isTokenChar`: the characters of an HTTP token.
* `Method.parse?`: a method is a non-empty token.
* `AllowedMethods`: the set of methods a host answers, with the text of its `Allow` header.
-/

namespace ModuleHost.Http

/-- A character of an HTTP token. -/
def isTokenChar (c : Char) : Bool :=
  c.isAlphanum || "!#$%&'*+-.^_`|~".toList.contains c

/-- A request method. -/
structure Method where
  text : String
  deriving DecidableEq, Inhabited

/-- **Reading a method.** Every non-empty run of token characters is one. -/
def Method.parse? (s : String) : Option Method :=
  if s.isEmpty || !s.toList.all isTokenChar then none else some ⟨s⟩

/-- The methods that a host answers, each once, in the order in which they were first named. -/
structure AllowedMethods where
  methods : List Method
  deriving DecidableEq, Inhabited

namespace AllowedMethods

/-- The method that a configured name stands for: blanks around it are dropped, and ASCII letters
are read as capitals. -/
def ofName? (name : String) : Option Method :=
  Method.parse? (Text.upper (Text.trim name))

/-- Take one more name into the set; a name that is no token or is known already changes nothing. -/
def addName (ms : List Method) (name : String) : List Method :=
  match ofName? name with
  | some m => if m ∈ ms then ms else ms ++ [m]
  | none => ms

/-- The set of the given names. -/
def ofNames (names : List String) : AllowedMethods :=
  ⟨names.foldl addName []⟩

/-- Names that stand for no method, in order. -/
def refusedNames (names : List String) : List String :=
  names.filter (fun n => (ofName? n).isNone)

/-- Whether the host answers the method. Methods differ by case. -/
def allows (a : AllowedMethods) (m : Method) : Bool :=
  m ∈ a.methods

/-- The value of the `Allow` header. -/
def headerText (a : AllowedMethods) : String :=
  String.intercalate ", " (a.methods.map (·.text))

end AllowedMethods

end ModuleHost.Http
