/-!
# Paths

The text of a path, taken apart at its slashes without looking at any directory.

* `Path.parent?`, `Path.fileName?`: up to the last name, and the last name.
* `Path.stem?`, `Path.extension?`: the last name around its last dot.
* `Path.components`: what two spellings of one path agree on.
* `Path.steps`: what a directory walk goes through.
-/

namespace ModuleHost.Path

/-- The pieces between slashes, empty ones included. -/
def pieces : List Char → List (List Char)
  | [] => [[]]
  | c :: r =>
    if c = '/' then [] :: pieces r
    else
      match pieces r with
      | p :: ps => (c :: p) :: ps
      | [] => [[c]]

/-- A path in two parts: what it starts from (the root, the directory itself, or nothing), and the
pieces after that. -/
structure Parts where
  start : String
  pieces : List String
  deriving Inhabited

def isFiller (piece : String) : Bool :=
  piece == "" || piece == "."

/-- Drop pieces from the end that lead nowhere. -/
def dropFiller (ps : List String) : List String :=
  (ps.reverse.dropWhile isFiller).reverse

/-- The parts of a path, with nothing at the end that leads nowhere. -/
def parts (path : String) : Parts :=
  match (pieces path.toList).map String.ofList with
  | "" :: p :: ps => ⟨"/", dropFiller (p :: ps)⟩
  | "." :: ps => ⟨".", dropFiller ps⟩
  | ps => ⟨"", dropFiller ps⟩

/-- **The components of a path**: what it starts from, and its names without the pieces that lead nowhere. Paths
are compared by these, so `a//b`, `a/./b` and `a/b/` are one path, and `./a` is another than `a`. -/
def components (path : String) : String × List String :=
  ((parts path).start, (parts path).pieces.filter (!isFiller ·))

/-- The text of a path given in parts. -/
def Parts.text (p : Parts) : String :=
  match p.pieces with
  | [] => p.start
  | ps =>
    (if p.start = "." then "./" else p.start) ++ String.intercalate "/" ps

/-- **The path without its last name**; the root and the empty path have none. -/
def parent? (path : String) : Option String :=
  let p := parts path
  match p.pieces with
  | [] => if p.start = "." then some "" else none
  | ps => some (Parts.text ⟨p.start, dropFiller ps.dropLast⟩)

/-- **The last name**, unless the path ends in a step to itself or upwards. -/
def fileName? (path : String) : Option String :=
  match (parts path).pieces.getLast? with
  | none => none
  | some ".." => none
  | some name => some name

/-- A name around its last dot: what stands before it and after it. A dot at the start does not
count. -/
def splitName (name : String) : String × Option String :=
  let cs := name.toList
  let after := (cs.reverse.takeWhile (· != '.')).reverse
  let before := (cs.reverse.dropWhile (· != '.')).drop 1
  if before.isEmpty then (name, none)
  else (String.ofList before.reverse, some (String.ofList after))

/-- The last name without its extension. -/
def stem? (path : String) : Option String :=
  (fileName? path).map (fun n => (splitName n).1)

/-- What follows the last dot of the last name. -/
def extension? (path : String) : Option String :=
  (fileName? path).bind (fun n => (splitName n).2)

/-- A name inside a directory. -/
def join (dir name : String) : String :=
  if dir.isEmpty then name
  else if dir.toList.getLast? = some '/' then dir ++ name
  else dir ++ "/" ++ name

/-- Whether the path starts at the root. -/
def isAbsolute (path : String) : Bool :=
  path.toList.head? == some '/'

/-- Whether the path ends in a slash, which says that it must be a directory. -/
def endsInSlash (path : String) : Bool :=
  path.toList.getLast? == some '/'

/-- **The steps of a walk**: every piece that is not empty. -/
def steps (path : String) : List String :=
  ((pieces path.toList).map String.ofList).filter (· != "")

end ModuleHost.Path
