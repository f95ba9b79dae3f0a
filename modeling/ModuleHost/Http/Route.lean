import ModuleHost.Text.Quoted
import ModuleHost.Text.Split

/-!
# Routes

A route names the paths that it answers: letters stand for themselves, a name in braces stands for
one segment, and a name after a star in braces for all that is left.

* `RoutePattern.parse?`: reading a route.
* `RoutePattern.covers`: whether a path belongs to a route.
* `Router.add`, `Router.merge`: routes that do not get in each other's way.
* `Router.find?`: the route of a path; letters go before captures.
-/

namespace ModuleHost.Http

/-- A part of a route. -/
inductive Piece where
  | letter (c : Char)
  /-- One segment. -/
  | capture (name : String)
  /-- All that is left. -/
  | remainder (name : String)
  deriving DecidableEq, Inhabited

namespace Piece

def isLetter : Piece → Bool
  | letter _ => true
  | _ => false

/-- Whether two pieces lead the same way: they are the same letter, or both are names. -/
def sameWay (p q : Piece) : Bool :=
  if p.isLetter then p == q else !q.isLetter

end Piece

/-- Why a route cannot be read. -/
inductive PatternFault where
  | badName
  | sharedSegment
  | notLast
  deriving DecidableEq, Inhabited

def PatternFault.message : PatternFault → String
  | badName => "Parameters must be registered with a valid name"
  | sharedSegment => "Only one parameter is allowed per path segment"
  | notLast => "Catch-all parameters are only allowed at the end of a route"

namespace RoutePattern

/-- The braces around a name. -/
def opening : Char := '\x7b'
def closing : Char := '\x7d'

/-- The characters of a route. A brace that is written twice stands for itself; the mark says so. -/
def unescape : List Char → List (Char × Bool)
  | [] => []
  | [c] => [(c, false)]
  | c :: d :: r =>
    if c = d ∧ (c = opening ∨ c = closing) then (c, true) :: unescape r
    else (c, false) :: unescape (d :: r)

/-- The rest of a name after its first character, and what follows the closing brace. -/
def nameRest? : List (Char × Bool) → Option (List Char × List (Char × Bool))
  | [] => none
  | (c, escaped) :: r =>
    if c = closing ∧ !escaped then some ([], r)
    else if c = '*' ∨ c = '/' then none
    else (nameRest? r).map (fun x => (c :: x.1, x.2))

/-- The piece of a name between braces. -/
def pieceOf (first : Char) (name : List Char) : Except PatternFault Piece :=
  if first = '*' then
    if name.isEmpty then .error .badName else .ok (.remainder (String.ofList name))
  else .ok (.capture (String.ofList (first :: name)))

/-- Whether a name in braces may be followed by this. -/
def followCheck (p : Piece) : List (Char × Bool) → Except PatternFault Unit
  | [] => .ok ()
  | (c, _) :: _ =>
    if c ≠ '/' then .error .sharedSegment
    else
      match p with
      | .remainder _ => .error .notLast
      | _ => .ok ()

theorem length_of_nameRest? {cs rest : List (Char × Bool)} {name : List Char}
    (h : nameRest? cs = some (name, rest)) : rest.length < cs.length := by
  induction cs generalizing name with
  | nil => simp [nameRest?] at h
  | cons x r ih =>
    obtain ⟨c, escaped⟩ := x
    rw [nameRest?] at h
    split at h
    · simp only [Option.some.injEq, Prod.mk.injEq] at h
      simp [h.2]
    · split at h
      · simp at h
      · obtain ⟨⟨n, t⟩, hn, he⟩ := Option.map_eq_some_iff.1 h
        obtain ⟨-, rfl⟩ := Prod.mk.inj he
        exact Nat.lt_succ_of_lt (ih hn)

/-- The pieces of a route. -/
def pieces (cs : List (Char × Bool)) : Except PatternFault (List Piece) :=
  match cs with
  | [] => .ok []
  | (c, escaped) :: r =>
    if escaped then (pieces r).map (.letter c :: ·)
    else if c = closing then .error .badName
    else if c ≠ opening then (pieces r).map (.letter c :: ·)
    else
      match r with
      | [] => .error .badName
      | (first, _) :: r =>
        if first = closing then .error .badName
        else
          match h : nameRest? r with
          | none => .error .badName
          | some (name, rest) => do
            have := length_of_nameRest? h
            let p ← pieceOf first name
            followCheck p rest
            return p :: (← pieces rest)
termination_by cs.length

/-- **Reading a route.** -/
def parse (path : String) : Except PatternFault (List Piece) :=
  pieces (unescape path.toList)

/-- The route as it is shown. -/
def text (ps : List Piece) : String :=
  String.join (ps.map fun
    | .letter c => c.toString
    | .capture name => "\x7b" ++ name ++ "\x7d"
    | .remainder name => "\x7b*" ++ name ++ "\x7d")

/-- **Whether a path belongs to a route.** A name never stands for nothing. -/
def covers : List Piece → List Char → Bool
  | [], cs => cs.isEmpty
  | .letter c :: ps, d :: cs => c == d && covers ps cs
  | .letter _ :: _, [] => false
  | .capture _ :: ps, cs =>
    !(cs.takeWhile (· != '/')).isEmpty && covers ps (cs.dropWhile (· != '/'))
  | .remainder _ :: _, cs => !cs.isEmpty

/-- Whether two routes cannot stand beside each other: they name the same paths, or where they first
differ one has a segment and the other all that is left. -/
def clash : List Piece → List Piece → Bool
  | [], [] => true
  | .letter c :: ps, .letter d :: qs => c == d && clash ps qs
  | .capture _ :: ps, .capture _ :: qs => clash ps qs
  | .capture _ :: _, .remainder _ :: _ => true
  | .remainder _ :: _, .capture _ :: _ => true
  | .remainder _ :: _, .remainder _ :: _ => true
  | _, _ => false

/-- Whether two routes name the same paths. -/
def sameShape : List Piece → List Piece → Bool
  | [], [] => true
  | .letter c :: ps, .letter d :: qs => c == d && sameShape ps qs
  | .capture _ :: ps, .capture _ :: qs => sameShape ps qs
  | .remainder _ :: _, .remainder _ :: _ => true
  | _, _ => false

/-- Whether the first of two routes of the same path goes before the second: where they first
differ, it has a letter. -/
def goesBefore : List Piece → List Piece → Bool
  | .letter c :: ps, .letter d :: qs => c == d && goesBefore ps qs
  | .letter _ :: _, _ => true
  | .capture _ :: ps, .capture _ :: qs => goesBefore ps qs
  | _, _ => false

end RoutePattern

/-- Why a route cannot be added. -/
inductive RouteFault where
  | emptyPath
  | notRooted
  | colonSegment
  | starSegment
  | overlap (path : String)
  | malformed (path : String) (fault : PatternFault)
  | conflict (path : String) (other : String)
  deriving DecidableEq, Inhabited

/-- The beginning of what is said about a segment that starts with a mark. -/
def segmentAdvice (mark use word : String) : String :=
  s!"Path segments must not start with `{mark}`. For {use}. If you meant to literally match a " ++
    s!"segment starting with {word}, call `without_v07_checks` on the router."

def RouteFault.message : RouteFault → String
  | emptyPath => "Paths must start with a `/`. Use \"/\" for root routes"
  | notRooted => "Paths must start with a `/`"
  | colonSegment => segmentAdvice ":" "capture groups, use `\x7bcapture\x7d`" "a colon"
  | starSegment => segmentAdvice "*" "wildcard capture, use `\x7b*wildcard\x7d`" "an asterisk"
  | overlap path => s!"Overlapping method route. Handler for `GET {path}` already exists"
  | malformed path fault => s!"Invalid route {Text.quoted path}: {fault.message}"
  | conflict path other =>
    s!"Invalid route {Text.quoted path}: Insertion failed due to conflict with previously " ++
      s!"registered route: {other}"

/-- A route with what it leads to. -/
structure Route (α : Type) where
  path : String
  pieces : List Piece
  content : α
  deriving Inhabited

/-- **Routes**, in the order in which they were added. -/
structure Router (α : Type) where
  routes : List (Route α) := []
  deriving Inhabited

namespace Router

variable {α : Type}

/-- What is wrong with the segments of a path: the first that starts with a mark. -/
def segmentFault? (path : String) : Option RouteFault :=
  (Text.splitAll '/' path.toList).findSome? fun
    | ':' :: _ => some .colonSegment
    | '*' :: _ => some .starSegment
    | _ => none

/-- What is wrong with a path before it is read. -/
def pathFault? (path : String) : Option RouteFault :=
  match path.toList with
  | [] => some .emptyPath
  | '/' :: _ => segmentFault? path
  | _ => some .notRooted

/-- The piece that was first to be as frequent as any. -/
def leader? (ps : List Piece) : Option Piece :=
  (ps.foldl (fun (seen, best?) p =>
    let seen := p :: seen
    match best? with
    | none => (seen, some p)
    | some best => (seen, some (if seen.count best < seen.count p then p else best)))
    (([] : List Piece), (none : Option Piece))).2

/-- Among routes that go on in different ways, follow the way that most of them take, letters before
names, down to where a route ends. -/
def deepest? : Nat → List (List Piece × Route α) → Option (Route α)
  | 0, rs => rs.head?.map (·.2)
  | fuel + 1, rs =>
    let heads := rs.filterMap (·.1.head?)
    match leader? (heads.filter Piece.isLetter) <|> heads.head? with
    | none => rs.head?.map (·.2)
    | some p =>
      let next := rs.filter (fun r => r.1.head?.any p.sameWay)
      deepest? fuel (next.map (fun r => (r.1.drop 1, r.2)))

/-- The route that stands in the way of another one. -/
def conflicting? (r : Router α) (ps : List Piece) : Option (Route α) :=
  match r.routes.find? (fun q => RoutePattern.sameShape q.pieces ps) with
  | some q => some q
  -- several routes may share the name that is in the way
  | none =>
    let qs := r.routes.filter (fun q => RoutePattern.clash q.pieces ps)
    deepest? ((qs.map (·.pieces.length)).foldl max 0 + 1) (qs.map (fun q => (q.pieces, q)))

/-- **Add a route.** -/
def add (r : Router α) (path : String) (content : α) : Except RouteFault (Router α) :=
  match pathFault? path with
  | some f => .error f
  | none =>
    if r.routes.any (fun q => q.path == path) then .error (.overlap path)
    else
      match RoutePattern.parse path with
      | .error f => .error (.malformed path f)
      | .ok ps =>
        match r.conflicting? ps with
        | some q => .error (.conflict path (RoutePattern.text q.pieces))
        | none => .ok ⟨r.routes ++ [⟨path, ps, content⟩]⟩

/-- Routes of some paths. -/
def ofList (rs : List (String × α)) : Except RouteFault (Router α) :=
  rs.foldlM (fun r x => r.add x.1 x.2) {}

/-- **Add the routes of another router.** -/
def merge (r other : Router α) : Except RouteFault (Router α) :=
  other.routes.foldlM (fun r q => r.add q.path q.content) r

/-- **The route of a path.** -/
def find? (r : Router α) (path : String) : Option (Route α) :=
  (r.routes.filter (fun q => RoutePattern.covers q.pieces path.toList)).foldl
    (fun best q =>
      match best with
      | none => some q
      | some b => if RoutePattern.goesBefore q.pieces b.pieces then some q else some b) none

end Router

end ModuleHost.Http
