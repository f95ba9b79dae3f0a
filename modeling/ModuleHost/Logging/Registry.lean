import ModuleHost.Logging.Appender
import ModuleHost.Logging.Tree

/-!
# The log registry

Who owns which logging category, and the outputs that are live. A category has one owner; the root
belongs to nobody. Outputs are built anew in place: the new ones are live before the old ones stop.

* `Registry.claim`, `Registry.release`: categories of an owner.
* `Registry.init`, `Registry.reset`, `Registry.stop`: generations of outputs.
* `Registry.rebuild`: the tree and the outputs that the settings and the owners ask for.
* `Registry.writeThrough`: a record by way of a generation, live or not.
* `Registry.writeFor`: a record by way of the live tree, in as many copies as it says.
-/

namespace ModuleHost

/-- The name of the root logger, which nobody owns. -/
def rootCategory : String := "ROOT"

/-- **Categories that an owner asks for**, with the level and additivity of their loggers. -/
structure Claim where
  owner : String
  categories : Categories
  level : Level
  additive : Bool := false
  deriving DecidableEq, Inhabited

/-- The logger of each category of a claim. -/
def Claim.node (c : Claim) : LoggerNode :=
  ⟨c.level, c.additive⟩

inductive RegistryState where
  | uninitialized
  | active
  | stopped
  deriving DecidableEq, Inhabited

def RegistryState.name : RegistryState → String
  | uninitialized => "uninitialized"
  | active => "active"
  | stopped => "stopped"

/-- Why a call on the registry was refused. -/
inductive RegistryError where
  | noCategories (owner : String)
  | onlyRoot (owner : String)
  | conflict (category owner : String)
  | duplicateOwner (owner : String)
  | inactive (state : RegistryState)
  | appender (e : SystemError)
  deriving DecidableEq, Inhabited

def RegistryError.message : RegistryError → String
  | noCategories owner =>
    s!"invalid logger configuration: owner '{owner}' declared no categories"
  | onlyRoot owner =>
    s!"invalid logger configuration: owner '{owner}' may not claim the {rootCategory} logger"
  | conflict category owner => s!"category '{category}' is already owned by '{owner}'"
  | duplicateOwner owner => s!"owner '{owner}' already has a logger configuration"
  | inactive state => s!"log registry is {state.name}"
  | appender e => s!"failed to build appenders: {e.message}"

/-- **The registry**: owners in the order in which they came, the owner of each category, the logging
section for the next generation of outputs, the live tree, and all outputs built so far, the newest
first. -/
structure Registry where
  state : RegistryState := .uninitialized
  owners : List Claim := []
  byCategory : Table String := .empty
  config : Settings.Logging
  generation : Nat := 0
  tree : LoggerTree := .detached
  sets : List AppenderSet := []
  deriving Inhabited

namespace Registry

/-- A registry that was not started yet. -/
def new (config : Settings.Logging) : Registry where
  config := config

/-- Only an active registry takes changes. -/
def ensureActive (r : Registry) : Except RegistryError Unit :=
  if r.state = .active then .ok () else .error (.inactive r.state)

/-! ### Trees -/

/-- Put a claim's loggers into a tree. -/
def attach (t : LoggerTree) (c : Claim) : LoggerTree :=
  c.categories.names.foldl (fun t name => t.insert name c.node) t

/-- The logger that the settings ask for. A level that cannot be read counts as `debug`. -/
def hostNode (l : Settings.Logger) : LoggerNode :=
  ⟨Level.parseOrDebug l.level, l.additive⟩

/-- The name of a logger of the settings, without the blanks around it. -/
def hostName (l : Settings.Logger) : String :=
  Text.trim l.name

/-- The tree of the settings alone. -/
def hostTree (config : Settings.Logging) (generation : Nat) : LoggerTree :=
  config.loggers.foldl (fun t l => t.insert (hostName l) (hostNode l))
    { rootLevel := Level.parseOrDebug config.rootLevel, attached := some generation }

/-- **The tree of the settings and the owners**, who win over the settings. -/
def builtTree (config : Settings.Logging) (generation : Nat) (owners : List Claim) : LoggerTree :=
  owners.foldl attach (hostTree config generation)

/-- Take a category out of a tree. A logger of the same name in the settings takes its place. -/
def detachName (config : Settings.Logging) (t : LoggerTree) (name : String) : LoggerTree :=
  match config.loggers.find? (fun l => hostName l == name) with
  | some l => (t.remove name).insert name (hostNode l)
  | none => t.remove name

/-- Take a claim's loggers out of a tree. -/
def detach (config : Settings.Logging) (t : LoggerTree) (c : Claim) : LoggerTree :=
  c.categories.names.foldl (detachName config) t

/-! ### Claims -/

/-- The first category, in the order of names, that has an owner already, with that owner. -/
def contested? (r : Registry) (names : List String) : Option (String × String) :=
  names.findSome? (fun c => (r.byCategory.get? c).map (fun o => (c, o)))

/-- Whether a claim names the root among other categories. -/
def namesRoot (r : Registry) (c : Claim) : Bool :=
  r.state = .active && c.categories.names.contains rootCategory && c.categories.names != [rootCategory]

/-- Why a claim cannot be granted, if it cannot. -/
def refusal? (r : Registry) (c : Claim) : Option RegistryError :=
  if r.state ≠ .active then some (.inactive r.state)
  else if c.categories.names = [] then some (.noCategories c.owner)
  else if c.categories.names = [rootCategory] then some (.onlyRoot c.owner)
  else if r.owners.any (fun o => o.owner == c.owner) then some (.duplicateOwner c.owner)
  else (r.contested? (c.categories.erase rootCategory).names).map (fun x => .conflict x.1 x.2)

/-- The claim without the root. -/
def withoutRoot (c : Claim) : Claim :=
  { c with categories := c.categories.erase rootCategory }

/-- **Grant a claim.** A refused one changes nothing. -/
def claim (r : Registry) (c : Claim) : Except RegistryError Registry :=
  match r.refusal? c with
  | some e => .error e
  | none =>
    let c := withoutRoot c
    .ok { r with
      owners := r.owners ++ [c]
      byCategory := c.categories.names.foldl (fun t name => t.insert name c.owner) r.byCategory
      tree := attach r.tree c }

/-- The claim of an owner. -/
def claimOf? (r : Registry) (owner : String) : Option Claim :=
  r.owners.find? (fun o => o.owner == owner)

/-- **Release the categories of an owner.** An owner who is not known has nothing to release. -/
def release (r : Registry) (owner : String) : Except RegistryError Registry :=
  match r.ensureActive with
  | .error e => .error e
  | .ok () =>
    match r.claimOf? owner with
    | none => .ok r
    | some c =>
      .ok { r with
        owners := r.owners.eraseP (fun o => o.owner == owner)
        byCategory := c.categories.names.foldl (fun t name => t.erase name) r.byCategory
        tree := detach r.config r.tree c }

/-! ### Outputs -/

/-- The outputs of a generation. -/
def set? (r : Registry) (generation : Nat) : Option AppenderSet :=
  r.sets.find? (fun a => a.generation == generation)

/-- The outputs that the live tree writes to. -/
def live? (r : Registry) : Option AppenderSet :=
  r.tree.attached.bind r.set?

/-- Put outputs in the place of those of the same generation. -/
def putSet (r : Registry) (a : AppenderSet) : Registry :=
  { r with sets := r.sets.map (fun b => if b.generation == a.generation then a else b) }

/-- Stop the outputs of a generation, if there is one. -/
def stopSet (r : Registry) (generation : Option Nat) (m : Machine) : Registry × Machine :=
  match generation.bind r.set? with
  | none => (r, m)
  | some a =>
    match a.stop m with
    | (a, m) => (r.putSet a, m)

/-- **Build the next generation of outputs** and the tree, then stop the outputs before it. -/
def rebuild (r : Registry) (m : Machine) : Except RegistryError Registry × Machine :=
  match AppenderSet.build r.config (r.generation + 1) m with
  | (.error e, m) => (.error (.appender e), m)
  | (.ok a, m) =>
    -- the new tree is live before the old outputs stop, so no event meets stopped outputs
    let next := { r with
      tree := builtTree r.config (r.generation + 1) r.owners
      generation := r.generation + 1
      sets := a :: r.sets }
    match next.stopSet r.tree.attached m with
    | (next, m) => (.ok next, m)

/-- **Start**: the first generation of outputs. -/
def init (r : Registry) (m : Machine) : Except RegistryError Registry × Machine :=
  if r.state ≠ .uninitialized then (.error (.inactive r.state), m)
  else
    match r.rebuild m with
    | (.error e, m) => (.error e, m)
    | (.ok r, m) => (.ok { r with state := .active }, m)

/-- **Reset**: the next generation of outputs, with every owner kept. -/
def reset (r : Registry) (m : Machine) : Except RegistryError Registry × Machine :=
  match r.ensureActive with
  | .error e => (.error e, m)
  | .ok () => r.rebuild m

/-- The logging section for the next generation. -/
def updateConfig (r : Registry) (config : Settings.Logging) : Registry :=
  { r with config }

/-- **Stop** for good: no tree, no outputs. -/
def stop (r : Registry) (m : Machine) : Registry × Machine :=
  if r.state = .stopped then (r, m)
  else { r with state := .stopped, tree := .detached }.stopSet r.tree.attached m

/-- **A record by way of a generation**, which may have been stopped since. -/
def writeThrough (r : Registry) (generation : Nat) (sink : Sink) (copies : Nat) (s : Severity)
    (record : Bytes) (m : Machine) : Except SystemError Unit × Registry × Machine :=
  match r.set? generation with
  | none => (.ok (), r, m)
  | some a =>
    match AppenderSet.writeCopies sink s record copies a m with
    | (res, a, m) => (res, r.putSet a, m)

/-- The writer behind the queue of a generation catches up. -/
def work (r : Registry) (generation : Nat) (m : Machine) : Registry × Machine :=
  match r.set? generation with
  | none => (r, m)
  | some a =>
    match a.work m with
    | (a, m) => (r.putSet a, m)

/-- **A record through the writer for a target**: it goes to one of the outputs that the live tree is attached to,
as often as that tree says. Without outputs it is passed over. -/
def writeFor (r : Registry) (sink : Sink) (target : String) (s : Severity) (record : Bytes) (m : Machine) :
    Except SystemError Unit × Registry × Machine :=
  match r.tree.attached with
  | none => (.ok (), r, m)
  | some g => r.writeThrough g sink (r.tree.routeCount target) s record m

/-- **A record of an event** goes through the writer for its target if the live tree lets it pass. What an output
refuses is passed over. -/
def publish (r : Registry) (sink : Sink) (target : String) (s : Severity) (record : Bytes)
    (m : Machine) : Registry × Machine :=
  match r.tree.attached with
  | none => (r, m)
  | some g =>
    if r.tree.enabled target s then
      match r.writeFor sink target s record m with
      | (res, r, m) => r.work g (m.goOnAfter res)
    else (r, m)

/-- Drop the registry: live outputs are written out without being stopped. -/
def drop (r : Registry) (m : Machine) : Machine :=
  match r.live? with
  | none => m
  | some a => a.drop m

/-- The registry as diagnostics show it. -/
def describe (r : Registry) : String :=
  let state := match r.state with
    | .uninitialized => "Uninitialized"
    | .active => "Active"
    | .stopped => "Stopped"
  "LogRegistry \x7b " ++ s!"state: {state}, owners: {r.owners.length}, generation: {r.generation}" ++
    " \x7d"

end Registry

end ModuleHost
