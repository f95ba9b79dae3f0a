import ModuleHost.Toml.Value

/-!
# Tables under construction

While a document is read, each table remembers how it came to be, since that decides how it may be
extended.

* `Tree.insertDotted`: a value at a dotted key.
* `Tree.openTable`, `Tree.openRow`, `Tree.close`: headers.
-/

namespace ModuleHost.Toml

/-- How a table came to be: by a header of its own, as a step on the way of another header, or as a
step of a dotted key. -/
inductive Opening where
  | written
  | implied
  | dotted
  deriving DecidableEq, Inhabited

/-- A node of a document under construction. -/
inductive Tree where
  | leaf (v : Value)
  | table (how : Opening) (entries : List (String × Tree))
  | rows (rows : List (List (String × Tree)))
  deriving Inhabited

namespace Tree

/-- Entries of a table, each key once. -/
abbrev Entries := List (String × Tree)

def find? (es : Entries) (key : String) : Option Tree :=
  (es.find? (fun e => e.1 == key)).map (·.2)

/-- Put a node at a key, in the place of the one that is there. -/
def put (es : Entries) (key : String) (t : Tree) : Entries :=
  if (find? es key).isSome then es.map (fun e => if e.1 == key then (key, t) else e)
  else es ++ [(key, t)]

def remove (es : Entries) (key : String) : Entries :=
  es.filter (fun e => e.1 != key)

/-- **A value at a dotted key**, inside a table that came to be as `how`. The steps on the way may be
new, dotted or implied tables, or the last row of a list of tables; the table that gets the value
must be a dotted one unless the key has one part. -/
def insertDotted (root : Bool) (how : Opening) (es : Entries) (key : String) (v : Value) :
    List String → Option Entries
  | [] =>
    if !root && how != .dotted then none
    else if (find? es key).isSome then none
    else some (es ++ [(key, .leaf v)])
  | step :: steps =>
    match find? es step with
    | none => do
      let inner ← insertDotted false .dotted [] key v steps
      return put es step (.table .dotted inner)
    | some (.leaf _) => none
    | some (.rows rs) => do
      let last ← rs.getLast?
      let inner ← insertDotted false .written last key v steps
      return put es step (.rows (rs.dropLast ++ [inner]))
    | some (.table .written _) => none
    | some (.table inside es') => do
      let inner ← insertDotted false inside es' key v steps
      return put es step (.table inside inner)

/-- Apply a change inside the table that a header's path leads to, making implied tables on the way.
-/
def modifyAt {α : Type} (change : Entries → Option (α × Entries)) :
    List String → Entries → Option (α × Entries)
  | [], es => change es
  | step :: steps, es =>
    match find? es step with
    | none => do
      let (a, inner) ← modifyAt change steps []
      return (a, put es step (.table .implied inner))
    | some (.leaf _) => none
    | some (.rows rs) => do
      let last ← rs.getLast?
      let (a, inner) ← modifyAt change steps last
      return (a, put es step (.rows (rs.dropLast ++ [inner])))
    | some (.table how es') => do
      let (a, inner) ← modifyAt change steps es'
      return (a, put es step (.table how inner))

/-- **A table header** takes the place of an implied table and keeps what is in it. Gives the entries
to go on with. -/
def openTable (path : List String) (key : String) (es : Entries) : Option (Entries × Entries) :=
  modifyAt (fun es =>
    match find? es key with
    | none => some ([], es)
    | some (.table .implied inner) => some (inner, remove es key)
    | some _ => none) path es

/-- **A header of a list of tables** needs a list of tables or nothing at its key. -/
def openRow (path : List String) (key : String) (es : Entries) : Option Entries :=
  (modifyAt (fun es =>
    match find? es key with
    | none => some ((), es ++ [(key, .rows [])])
    | some (.rows _) => some ((), es)
    | some _ => none) path es).map (·.2)

/-- Put a finished table where its header said. -/
def close (isRow : Bool) (path : List String) (key : String) (done : Entries) (es : Entries) :
    Option Entries :=
  (modifyAt (fun es =>
    match isRow, find? es key with
    | false, none => some ((), put es key (.table .written done))
    | false, some _ => none
    | true, some (.rows rs) => some ((), put es key (.rows (rs ++ [done])))
    | true, _ => none) path es).map (·.2)

mutual

/-- The finished value of a node. -/
def toValue : Tree → Value
  | .leaf v => v
  | .table _ es => .table (entryValues es)
  | .rows rs => .list (rowValues rs)

/-- The finished entries of a table. -/
def entryValues : List (String × Tree) → List (String × Value)
  | [] => []
  | (k, t) :: es => (k, toValue t) :: entryValues es

/-- The finished rows of a list of tables. -/
def rowValues : List (List (String × Tree)) → List Value
  | [] => []
  | es :: rs => .table (entryValues es) :: rowValues rs

end

end Tree

end ModuleHost.Toml
