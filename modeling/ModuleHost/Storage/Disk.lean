import ModuleHost.Storage.Path
import ModuleHost.Storage.SystemError

/-!
# Files and directories

A tree of directories, links and files, with the calls that a host makes on it. A file has a number
of its own: whoever opened it goes on writing to it after its name was changed or removed.

* `Disk.openAppend`, `Disk.append`: opening for appending, and appending.
* `Disk.rename`, `Disk.removeFile`, `Disk.list`: names in a directory.
* `Disk.createDirs`: a directory and those above it.
* `Disk.items`, `Disk.place`: what a disk holds.
-/

namespace ModuleHost

/-- What a file holds. -/
abbrev Bytes := List UInt8

/-- The number of a node. -/
abbrev NodeId := Nat

/-- A node of the tree. -/
inductive Node where
  /-- A directory knows the one above it and the names in it. -/
  | dir (above : NodeId) (entries : List (String × NodeId))
  | link (target : String)
  /-- A file has its content and, if it is limited, the room that is left for more. -/
  | file (content : Bytes) (room : Option Nat)
  deriving DecidableEq, Inhabited

/-- All nodes by number, and the directory that relative paths start from. -/
structure Disk where
  nodes : Array Node
  home : NodeId
  deriving DecidableEq, Inhabited

namespace Disk

/-- The number of the root directory. -/
def root : NodeId := 0

/-- **An empty working directory**, and a device that takes no byte at `/dev/full`. -/
def empty : Disk where
  nodes := #[.dir 0 [("dev", 1), ("work", 3)], .dir 0 [("full", 2)], .file [] (some 0), .dir 0 []]
  home := 3

def node? (d : Disk) (i : NodeId) : Option Node :=
  d.nodes[i]?

def setNode (d : Disk) (i : NodeId) (n : Node) : Disk :=
  { d with nodes := d.nodes.setIfInBounds i n }

/-- Add a node under a new number. -/
def addNode (d : Disk) (n : Node) : NodeId × Disk :=
  (d.nodes.size, { d with nodes := d.nodes.push n })

/-- The names in a directory. -/
def entries? (d : Disk) (i : NodeId) : Option (List (String × NodeId)) :=
  match d.node? i with
  | some (.dir _ es) => some es
  | _ => none

def isDirNode (d : Disk) (i : NodeId) : Bool :=
  (d.entries? i).isSome

/-- The node that a name in a list of entries stands for. -/
def lookup (es : List (String × NodeId)) (name : String) : Option NodeId :=
  (es.find? (fun e => e.1 == name)).map (·.2)

/-- Replace the names in a directory. -/
def setEntries (d : Disk) (i : NodeId) (es : List (String × NodeId)) : Disk :=
  match d.node? i with
  | some (.dir above _) => d.setNode i (.dir above es)
  | _ => d

/-- Put a name into a directory, in the place of the one that is there. -/
def bindName (d : Disk) (dir : NodeId) (name : String) (i : NodeId) : Disk :=
  match d.entries? dir with
  | some es => d.setEntries dir (es.filter (fun e => e.1 != name) ++ [(name, i)])
  | none => d

/-- Take a name out of a directory. -/
def dropName (d : Disk) (dir : NodeId) (name : String) : Disk :=
  match d.entries? dir with
  | some es => d.setEntries dir (es.filter (fun e => e.1 != name))
  | none => d

/-! ### Walking -/

/-- The longest name that a directory takes, in bytes. -/
def nameLimit : Nat := 255

/-- The longest path that a call takes, in bytes. -/
def pathLimit : Nat := 4095

/-- A path may lead through this many links, one inside the other. -/
def linkLimit : Nat := 40

/-- Look up a name in the directory with the given number, links not followed. -/
def entryAt (d : Disk) (i : NodeId) (name : String) : Except SystemError NodeId :=
  match d.node? i with
  | some (.dir above es) =>
    if name = "." then .ok i
    else if name = ".." then .ok above
    else if nameLimit < name.utf8ByteSize then .error .nameTooLong
    else
      match lookup es name with
      | some j => .ok j
      | none => .error .notFound
  | _ => .error .notADirectory

/-- Walk through the steps, with links resolved as `follow` says. -/
def walkWith (d : Disk) (follow : NodeId → String → Except SystemError NodeId) :
    NodeId → List String → Except SystemError NodeId
  | i, [] => .ok i
  | i, step :: steps =>
    match d.entryAt i step with
    | .error e => .error e
    | .ok j =>
      match d.node? j with
      | some (.link target) =>
        match follow i target with
        | .error e => .error e
        | .ok k => walkWith d follow k steps
      | _ => walkWith d follow j steps

/-- Where a path starts that is written in the directory with the given number. -/
def startOf (path : String) (i : NodeId) : NodeId :=
  if Path.isAbsolute path then root else i

/-- The steps to the node itself: a slash at the end asks for a directory. -/
def fullSteps (path : String) : List String :=
  Path.steps path ++ (if Path.endsInSlash path then ["."] else [])

/-- Resolve a link's target. -/
def follow (d : Disk) : Nat → NodeId → String → Except SystemError NodeId
  | 0, _, _ => .error .linkLoop
  | fuel + 1, i, target => d.walkWith (d.follow fuel) (startOf target i) (fullSteps target)

/-- A text that every call refuses as a path. -/
def checkText (path : String) : Except SystemError Unit :=
  if path.toList.contains '\x00' then
    .error (.invalidInput "file name contained an unexpected NUL byte")
  else if path.isEmpty then .error .notFound
  else if pathLimit < path.utf8ByteSize then .error .nameTooLong
  else .ok ()

/-- **The node at a path**, links followed. -/
def resolve (d : Disk) (path : String) : Except SystemError NodeId := do
  checkText path
  d.walkWith (d.follow linkLimit) (startOf path d.home) (fullSteps path)

/-- **The directory and the name** that a path ends in; no name for the root itself. -/
def locate (d : Disk) (path : String) : Except SystemError (NodeId × Option String) := do
  checkText path
  match (Path.steps path).getLast? with
  | none => return (root, none)
  | some name =>
    let dir ← d.walkWith (d.follow linkLimit) (startOf path d.home) (Path.steps path).dropLast
    if d.isDirNode dir then return (dir, some name) else throw .notADirectory

def exists? (d : Disk) (path : String) : Bool :=
  match d.resolve path with
  | .ok i => (d.node? i).isSome
  | .error _ => false

def isDir (d : Disk) (path : String) : Bool :=
  match d.resolve path with
  | .ok i => d.isDirNode i
  | .error _ => false

/-! ### Directories -/

/-- Whether a name means a directory that is there already. -/
def isDots (name : String) : Bool :=
  name == "." || name == ".."

/-- Make one directory. -/
def createDir (d : Disk) (path : String) : Except SystemError Disk := do
  let (dir, name?) ← d.locate path
  match name? with
  | none => throw .alreadyExists
  | some name =>
    if isDots name then throw .alreadyExists
    else
      match d.entryAt dir name with
      | .ok _ => throw .alreadyExists
      | .error .notFound =>
        let (i, d) := d.addNode (.dir dir [])
        return d.bindName dir name i
      | .error e => throw e

/-- Make a directory and those above it, as deep as the fuel goes. One that is there is fine. -/
def createDirsWithin : Nat → String → Disk → Except SystemError Unit × Disk
  | 0, _, d => (.error .nameTooLong, d)
  | fuel + 1, path, d =>
    if path.isEmpty then (.ok (), d)
    else
      match d.createDir path with
      | .ok d => (.ok (), d)
      | .error .notFound =>
        match Path.parent? path with
        | none => (.error .notFound, d)
        | some parent =>
          match createDirsWithin fuel parent d with
          | (.error e, d) => (.error e, d)
          | (.ok (), d) =>
            match d.createDir path with
            | .ok d => (.ok (), d)
            | .error e => if d.isDir path then (.ok (), d) else (.error e, d)
      | .error e => if d.isDir path then (.ok (), d) else (.error e, d)

/-- **Make a directory and those above it.** Directories made before a failure stay. -/
def createDirs (path : String) (d : Disk) : Except SystemError Unit × Disk :=
  createDirsWithin (path.length + 1) path d

/-- **The names in a directory**, in no order that matters. -/
def list (d : Disk) (path : String) : Except SystemError (List String) := do
  let i ← d.resolve path
  match d.entries? i with
  | some es => return es.map (·.1)
  | none => throw .notADirectory

/-! ### Files -/

/-- Open for appending a name inside a directory, or what the link there leads to. -/
def openAppendAt : Nat → NodeId → String → Disk → Except SystemError (NodeId × Disk)
  | 0, _, _, _ => .error .linkLoop
  | fuel + 1, start, path, d =>
    match (Path.steps path).getLast? with
    | none => .error .isADirectory
    | some name =>
      match d.walkWith (d.follow linkLimit) (startOf path start) (Path.steps path).dropLast with
      | .error e => .error e
      | .ok dir =>
        if !d.isDirNode dir then .error .notADirectory
        else if Path.endsInSlash path || isDots name then .error .isADirectory
        else
          match d.entryAt dir name with
          | .error .notFound =>
            let (i, d) := d.addNode (.file [] none)
            .ok (i, d.bindName dir name i)
          | .error e => .error e
          | .ok i =>
            match d.node? i with
            | some (.link target) =>
              if target.isEmpty then .error .notFound else openAppendAt fuel dir target d
            | some (.file ..) => .ok (i, d)
            | _ => .error .isADirectory

/-- **Open a file for appending**, making it if it is not there. -/
def openAppend (d : Disk) (path : String) : Except SystemError (NodeId × Disk) := do
  checkText path
  openAppendAt (linkLimit + 1) d.home path d

/-- The number of bytes in a file. -/
def length (d : Disk) (i : NodeId) : Nat :=
  match d.node? i with
  | some (.file content _) => content.length
  | _ => 0

/-- **Append to an open file.** The file takes all of it or nothing. -/
def append (d : Disk) (i : NodeId) (bytes : Bytes) : Except SystemError Disk :=
  match d.node? i with
  | some (.file content room) =>
    match room with
    | none => .ok (d.setNode i (.file (content ++ bytes) none))
    | some n =>
      if bytes.length ≤ n then .ok (d.setNode i (.file (content ++ bytes) (some (n - bytes.length))))
      else .error .storageFull
  | _ => .error .storageFull

/-- The content of the file at a path. -/
def read (d : Disk) (path : String) : Except SystemError Bytes := do
  let i ← d.resolve path
  match d.node? i with
  | some (.file content _) => return content
  | some (.dir ..) => throw .isADirectory
  | _ => throw .notFound

/-- The number of bytes of the file at a path, nothing if there is none. -/
def fileSize? (d : Disk) (path : String) : Option Nat :=
  match d.resolve path with
  | .ok i =>
    match d.node? i with
    | some (.file content _) => some content.length
    | _ => none
  | .error _ => none

/-- Replace the content of the file at a path, making it if it is not there. -/
def write (d : Disk) (path : String) (content : Bytes) : Except SystemError Disk := do
  let (i, d) ← d.openAppend path
  match d.node? i with
  | some (.file _ none) => return d.setNode i (.file content none)
  | _ => if content.isEmpty then return d else throw .storageFull

/-- Make a link. -/
def link (d : Disk) (path target : String) : Except SystemError Disk := do
  let (dir, name?) ← d.locate path
  match name? with
  | none => throw .alreadyExists
  | some name =>
    match d.entryAt dir name with
    | .ok _ => throw .alreadyExists
    | .error .notFound =>
      let (i, d) := d.addNode (.link target)
      return d.bindName dir name i
    | .error e => throw e

/-- **Give a file or directory another name.** What has that name already is lost, except that a
directory and anything else cannot take each other's place. -/
def rename (d : Disk) (source target : String) : Except SystemError Disk := do
  let (fromDir, from?) ← d.locate source
  let (toDir, to?) ← d.locate target
  match from?, to? with
  | some fromName, some toName =>
    if isDots fromName || isDots toName then throw .alreadyExists
    let i ← d.entryAt fromDir fromName
    let moved := (d.dropName fromDir fromName).bindName toDir toName i
    match d.entryAt toDir toName with
    | .error .notFound => return moved
    | .error e => throw e
    | .ok j =>
      if i = j then return d
      match d.isDirNode i, d.isDirNode j with
      | false, true => throw .isADirectory
      | true, false => throw .notADirectory
      | true, true => if d.entries? j = some [] then return moved else throw .alreadyExists
      | false, false => return moved
  | _, _ => throw .alreadyExists

/-- **Remove the name of a file or a link.** -/
def removeFile (d : Disk) (path : String) : Except SystemError Disk := do
  let (dir, name?) ← d.locate path
  match name? with
  | none => throw .isADirectory
  | some name =>
    let i ← d.entryAt dir name
    if d.isDirNode i then throw .isADirectory
    if Path.endsInSlash path then throw .notADirectory
    return d.dropName dir name

/-! ### Everything below the working directory -/

/-- What a listing shows at a path. -/
inductive Item where
  | dir
  | link (target : String)
  | file (content : Bytes)

/-- The items below a directory, with paths that start as given, as deep as the fuel goes. -/
def itemsBelow (d : Disk) : Nat → String → NodeId → List (String × Item)
  | 0, _, _ => []
  | fuel + 1, start, i =>
    ((d.entries? i).getD []).flatMap (fun (name, j) =>
      match d.node? j with
      | some (.dir ..) => (start ++ name, .dir) :: d.itemsBelow fuel (start ++ name ++ "/") j
      | some (.link target) => [(start ++ name, .link target)]
      | some (.file content _) => [(start ++ name, .file content)]
      | none => [])

/-- All items below the working directory. -/
def items (d : Disk) : List (String × Item) :=
  d.itemsBelow (d.nodes.size + 1) "" d.home

/-- **Place an item** at a path, with the directories above it. Nothing but those is placed where the
system refuses the item. -/
def place (d : Disk) (path : String) (item : Item) : Disk :=
  let above := (createDirs ((Path.parent? path).getD "") d).2
  match item with
  | .dir => (createDirs path d).2
  | .link target => (above.link path target).toOption.getD above
  | .file content => (above.write path content).toOption.getD above

end Disk

end ModuleHost
