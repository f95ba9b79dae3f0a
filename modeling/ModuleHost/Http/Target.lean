import ModuleHost.Text.Blank
import ModuleHost.Text.Split

/-!
# Request targets

What a request names: a path with an optional query, an address with a scheme before it, an
authority alone, or a star.

* `Target.parse?`: reading a target; a fragment is dropped.
-/

namespace ModuleHost.Http

/-- **A request target.** An authority alone has no path at all. -/
structure Target where
  path : String
  query : Option String := none
  deriving DecidableEq, Inhabited

namespace Target

/-- The longest target, in bytes. -/
def maxLength : Nat := 65534

/-- The longest name of a scheme. -/
def maxSchemeLength : Nat := 64

/-- A character of a path. Beyond what has to be written there as it is, quotes and braces pass,
and everything above ASCII. -/
def isPathChar (c : Char) : Bool :=
  let n := c.toNat
  (0x21 ≤ n && n ≤ 0x22) || (0x24 ≤ n && n ≤ 0x3B) || n == 0x3D || (0x40 ≤ n && n ≤ 0x5F) ||
    0x61 ≤ n

/-- A character of a query. -/
def isQueryChar (c : Char) : Bool :=
  let n := c.toNat
  n == 0x21 || (0x24 ≤ n && n ≤ 0x3B) || n == 0x3D || 0x3F ≤ n

/-- A reserved or an unreserved character. -/
def isUriChar (c : Char) : Bool :=
  c.isAlphanum || "!#$&'()*+,-./:;=?@[]_~".toList.contains c

/-- A character of the name of a scheme. -/
def isSchemeChar (c : Char) : Bool :=
  c.isAlphanum || c == '+' || c == '-' || c == '.'

/-- Whether a character ends an authority. -/
def endsAuthority (c : Char) : Bool :=
  c == '/' || c == '?' || c == '#'

/-- What was seen of an authority. -/
structure AuthorityScan where
  colons : Nat := 0
  opened : Bool := false
  closed : Bool := false
  percent : Bool := false
  endsInAt : Bool := false

/-- One more character of an authority. An at sign ends the part before the host, a closing bracket
a literal host; what was counted before either is forgotten. -/
def AuthorityScan.step (s : AuthorityScan) (c : Char) : Option AuthorityScan :=
  let s := { s with endsInAt := false }
  if c = ':' then (if 8 ≤ s.colons then none else some { s with colons := s.colons + 1 })
  else if c = '[' then (if s.percent || s.opened then none else some { s with opened := true })
  else if c = ']' then
    if !s.opened || s.closed then none
    else some { s with closed := true, colons := 0, percent := false }
  else if c = '@' then some { s with colons := 0, percent := false, endsInAt := true }
  else if c = '%' then some { s with percent := true }
  else if isUriChar c then some s
  else none

/-- Whether some characters are an authority. -/
def isAuthority (cs : List Char) : Bool :=
  match cs.foldlM AuthorityScan.step {} with
  | none => false
  | some s => s.opened == s.closed && s.colons ≤ 1 && !s.endsInAt && !s.percent

/-- A path with its query. -/
def pathAndQuery? (cs : List Char) : Option (List Char × Option (List Char)) :=
  let path := cs.takeWhile (fun c => c != '?' && c != '#')
  let query? := match cs.drop path.length with
    | '?' :: r => some (r.takeWhile (· != '#'))
    | _ => none
  if path.all isPathChar && (query?.getD []).all isQueryChar then some (path, query?) else none

/-- What follows the scheme, if there is one. -/
inductive Scheme where
  | absent
  | tooLong
  | before (rest : List Char)

/-- The scheme at the start of a target. -/
def scheme (cs : List Char) : Scheme :=
  let name := cs.takeWhile isSchemeChar
  match Text.stripFront? [':', '/', '/'] (cs.drop name.length) with
  | none => .absent
  | some rest => if maxSchemeLength < name.length then .tooLong else .before rest

/-- The target with a path in text; an empty one is the root. -/
def ofParts (path : List Char) (query? : Option (List Char)) : Target :=
  ⟨if path.isEmpty then "/" else String.ofList path, query?.map String.ofList⟩

/-- A target that does not start with a slash. -/
def parseFull? (cs : List Char) : Option Target :=
  match scheme cs with
  | .tooLong => none
  | .absent =>
    if !cs.any endsAuthority && isAuthority cs then some ⟨"", none⟩ else none
  | .before rest =>
    let authority := rest.takeWhile (fun c => !endsAuthority c)
    if authority.isEmpty || !isAuthority authority then none
    else (pathAndQuery? (rest.drop authority.length)).map (fun x => ofParts x.1 x.2)

/-- **Reading a target.** -/
def parse? (s : String) : Option Target :=
  if maxLength < s.utf8ByteSize then none
  else
    match s.toList with
    | [] => none
    | ['*'] => some ⟨"*", none⟩
    | '/' :: r => (pathAndQuery? ('/' :: r)).map (fun x => ofParts x.1 x.2)
    | cs => parseFull? cs

end Target

end ModuleHost.Http
