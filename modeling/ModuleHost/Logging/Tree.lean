import ModuleHost.Data.Table
import ModuleHost.Logging.Category
import ModuleHost.Logging.Level

/-!
# The logger tree

Loggers by category. The nearest logger above a target decides which records pass; each logger on the
way to the root writes a record once, up to the first that keeps its records to itself.

* `LoggerTree.effectiveLevel`, `LoggerTree.routeCount`: level and number of copies for a target.
* `LoggerTree.enabled`: whether a record is written at all.
-/

namespace ModuleHost

/-- A logger: the level of its category, and whether records go on to the loggers above. -/
structure LoggerNode where
  level : Level
  additive : Bool
  deriving DecidableEq, Inhabited

/-- **The loggers at one point in time**, with the level of the root and the generation of outputs
that they write to, if there is one. -/
structure LoggerTree where
  rootLevel : Level
  loggers : Table LoggerNode := .empty
  attached : Option Nat := none
  deriving DecidableEq, Inhabited

namespace LoggerTree

/-- A tree that writes nowhere and lets nothing pass. -/
def detached : LoggerTree where
  rootLevel := .off

def insert (t : LoggerTree) (name : String) (node : LoggerNode) : LoggerTree :=
  { t with loggers := t.loggers.insert name node }

def remove (t : LoggerTree) (name : String) : LoggerTree :=
  { t with loggers := t.loggers.erase name }

/-- The logger of exactly this category. -/
def logger? (t : LoggerTree) (name : String) : Option LoggerNode :=
  t.loggers.get? name

/-- The loggers of a target on the way to the root, the nearest first. -/
def onPath (t : LoggerTree) (target : String) : List LoggerNode :=
  (lineage target).filterMap t.logger?

/-- **The level for a target**: that of the nearest logger, or of the root. -/
def effectiveLevel (t : LoggerTree) (target : String) : Level :=
  match t.onPath target with
  | [] => t.rootLevel
  | n :: _ => n.level

/-- Copies written by the loggers of a path: each one writes, up to the first that is not additive;
past all of them the root writes too. -/
def countRoutes : List LoggerNode → Nat
  | [] => 1
  | n :: ns => if n.additive then countRoutes ns + 1 else 1

/-- **The number of copies of a record** for a target. -/
def routeCount (t : LoggerTree) (target : String) : Nat :=
  countRoutes (t.onPath target)

/-- **Whether a record is written**: the tree has outputs and the level lets it pass. -/
def enabled (t : LoggerTree) (target : String) (s : Severity) : Bool :=
  t.attached.isSome && (t.effectiveLevel target).passes s

end LoggerTree

end ModuleHost
