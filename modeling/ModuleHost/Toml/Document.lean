import ModuleHost.Toml.Scan
import ModuleHost.Toml.Tree

/-!
# Reading a TOML document

* `Document.parse?`: the entries of a document, nothing if it is not well formed.
-/

namespace ModuleHost.Toml

mutual

/-- **A value**, in a place that is `depth` lists and tables deep. -/
def value? : Nat → Nat → Rest → Option (Value × Rest)
  | 0, _, _ => none
  | fuel + 1, depth, cs =>
    match cs with
    | '"' :: _ => (text? cs).map (fun x => (.text x.1, x.2))
    | '\'' :: _ => (text? cs).map (fun x => (.text x.1, x.2))
    | '[' :: r =>
      if depth + 1 < depthLimit then
        (items? fuel (depth + 1) true r).map (fun x => (.list x.1, x.2))
      else none
    | '{' :: r =>
      if depth + 1 < depthLimit then
        (pairs? fuel (depth + 1) true [] r).map (fun x => (.table (Tree.entryValues x.1), x.2))
      else none
    | 't' :: 'r' :: 'u' :: 'e' :: r => some (.flag true, r)
    | 'f' :: 'a' :: 'l' :: 's' :: 'e' :: r => some (.flag false, r)
    | _ =>
      match moment? cs with
      | some r => some (.moment (String.ofList (cs.take (cs.length - r.length))), r)
      | none =>
        match real? cs with
        | some (s, r) => some (.real s, r)
        | none => (integer? cs).map (fun x => (.integer x.1, x.2))

/-- The items of a list up to its closing bracket; `first` before the first one. -/
def items? : Nat → Nat → Bool → Rest → Option (List Value × Rest)
  | 0, _, _, _ => none
  | fuel + 1, depth, first, cs =>
    match skipBlankLines (cs.length + 1) cs with
    | ']' :: r => some ([], r)
    | r =>
      let r' := if first then some r else (mark? ',' r).map (fun r => skipBlankLines (r.length + 1) r)
      match first, r' with
      | false, some (']' :: r) => some ([], r)
      | _, none => none
      | _, some r =>
        match value? fuel depth r with
        | none => none
        | some (v, r) => (items? fuel depth false r).map (fun x => (v :: x.1, x.2))

/-- The pairs of an inline table up to its closing brace, on one line. -/
def pairs? : Nat → Nat → Bool → Tree.Entries → Rest → Option (Tree.Entries × Rest)
  | 0, _, _, _, _ => none
  | fuel + 1, depth, first, es, cs =>
    match first, skipSpaces cs with
    | true, '}' :: r => some (es, r)
    | _, r =>
      match key? r with
      | none => none
      | some (path, last, r) =>
        match mark? '=' r with
        | none => none
        | some r =>
          match value? fuel depth (skipSpaces r) with
          | none => none
          | some (v, r) =>
            match Tree.insertDotted true .written es last v path, skipSpaces r with
            | some es, '}' :: r => some (es, r)
            | some es, ',' :: r => pairs? fuel depth false es r
            | _, _ => none

end

/-- Enough fuel for any value in the text: each step of the readers takes a character. -/
def valueFuel (cs : Rest) : Nat :=
  2 * cs.length + 4

/-- A document while it is read: the tables that are finished, the place and kind of the open one,
and its entries. -/
structure Document where
  finished : Tree.Entries := []
  header : Option (Bool × List String × String) := none
  current : Tree.Entries := []

namespace Document

/-- Put the open table into its place. -/
def closeCurrent (d : Document) : Option Tree.Entries :=
  match d.header with
  | none => some d.current
  | some (isRow, path, key) => Tree.close isRow path key d.current d.finished

/-- A line with a key and its value, after which the line must end. -/
def readPair (d : Document) (cs : Rest) : Option (Document × Rest) := do
  let (path, last, r) ← key? cs
  let r ← mark? '=' r
  let r := skipSpaces r
  let (v, r) ← value? (valueFuel r) 0 r
  let r ← restOfLine? r
  let current ← Tree.insertDotted true .written d.current last v path
  return ({ d with current }, r)

/-- A line with the header of a table. -/
def readTable (d : Document) (cs : Rest) : Option (Document × Rest) := do
  let (path, last, r) ← key? cs
  let r ← mark? ']' r
  let r ← restOfLine? r
  let finished ← d.closeCurrent
  let (current, finished) ← Tree.openTable path last finished
  return ({ finished, header := some (false, path, last), current }, r)

/-- A line with the header of a row in a list of tables. -/
def readRow (d : Document) (cs : Rest) : Option (Document × Rest) := do
  let (path, last, r) ← key? cs
  let r ← mark? ']' r
  let r ← mark? ']' r
  let r ← restOfLine? r
  let finished ← d.closeCurrent
  let finished ← Tree.openRow path last finished
  return ({ finished, header := some (true, path, last), current := [] }, r)

/-- The lines of a document. -/
def readLines : Nat → Document → Rest → Option Document
  | 0, _, _ => none
  | fuel + 1, d, cs =>
    match skipSpaces cs with
    | [] => some d
    | '#' :: r => (lineEnd? (r.dropWhile isPlain)).bind (readLines fuel d)
    | '[' :: '[' :: r => (d.readRow r).bind (fun x => readLines fuel x.1 x.2)
    | '[' :: r => (d.readTable r).bind (fun x => readLines fuel x.1 x.2)
    | c :: r =>
      if c = '\n' ∨ c = '\r' then (lineFeed? (c :: r)).bind (readLines fuel d)
      else (d.readPair (c :: r)).bind (fun x => readLines fuel x.1 x.2)

/-- **Reading a document.** A byte order mark at the start does not count. -/
def parse? (s : String) : Option (List (String × Value)) := do
  let cs := match s.toList with
    | '\uFEFF' :: r => r
    | cs => cs
  let d ← readLines (cs.length + 1) {} cs
  let es ← d.closeCurrent
  return Tree.entryValues es

end Document

end ModuleHost.Toml
