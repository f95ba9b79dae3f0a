import ModuleHost.Framework.Start
import ModuleHost.Lifecycle.Shutdown

/-!
# Startup

The hooks that a host runs before it serves anybody: each name once, by priority and then by name, up
to the first one that fails.

* `StartupHook`: what there is to know of a hook, of whatever kind.
* `Host.runHook`: one hook.
* `Host.startup`: all of them.
-/

namespace ModuleHost

/-- A hook that publishes values, looks at some, and may fail. -/
structure CustomHook where
  name : String
  priority : Int := 0
  sets : List (String × String) := []
  reads : List String := []
  refusal : Option String := none
  deriving DecidableEq, Inhabited

/-- **A startup hook** that the host knows. -/
inductive Hook where
  /-- Makes the directory of the modules. -/
  | modulesRoot
  /-- Starts the modules. -/
  | moduleFramework
  | custom (c : CustomHook)
  deriving DecidableEq, Inhabited

namespace Hook

def name : Hook → String
  | modulesRoot => "modules-root"
  | moduleFramework => "module-framework"
  | custom c => c.name

def priority : Hook → Int
  | modulesRoot => -100
  | moduleFramework => 0
  | custom c => c.priority

end Hook

/-- **Why a host did not get ready.** -/
inductive StartupError where
  | configuration (what : String)
  | initialization (hook : String) (source : String)
  deriving DecidableEq, Inhabited

/-- The error as text. -/
def StartupError.message : StartupError → String
  | configuration what => s!"configuration error: {what}"
  | initialization hook source => s!"startup hook '{hook}' failed: {source}"

/-- What is done when a host shuts down. -/
inductive HostAction where
  | stopFramework
  | note (name : String)
  deriving DecidableEq, Inhabited

/-- **What is left to do of a host that got ready.** -/
structure Ready where
  /-- The hooks that were run, in order. -/
  executed : List String
  shutdown : ShutdownSequence HostAction := {}
  deriving Inhabited

namespace Ready

/-- Register an action. -/
def onShutdown (r : Ready) (name : String) (a : HostAction) : Ready :=
  { r with shutdown := r.shutdown.push name a }

/-- The handle as text. -/
def describe (r : Ready) : String :=
  s!"ReadyHandle \x7b executed: {Text.quotedList r.executed}, shutdown: {r.shutdown.describe} \x7d"

end Ready

namespace Host

/-- The attribute that names the directory of the modules. -/
def modulesRootAttribute : String := "modules.root"

/-- Make the directory of the modules. -/
def prepareModulesRoot (h : Host) : Except String Unit × Host :=
  let root := h.settings.modules.rootDir
  let made := Disk.createDirs root h.book.machine.disk
  let h := { h with book := { h.book with machine := { h.book.machine with disk := made.2 } } }
  match made.1 with
  | .error e => (.error e.message, h)
  | .ok () =>
    (.ok (), (h.setAttribute modulesRootAttribute root).report
      ⟨.info, "plughost::lifecycle::hooks", "Modules root ready", [("root", .shown root)]⟩)

/-- Start the modules and announce it. -/
def bringUpModules (h : Host) : Except String Unit × Host :=
  match h.startFramework with
  | (.error e, h) => (.error e.message, h)
  | (.ok (), h) => (.ok (), h.dispatch .frameworkReady)

/-- What a hook of a kind of its own does. -/
def runCustom (h : Host) (c : CustomHook) : Except String Unit × Host :=
  let h := c.sets.foldl (fun h (k, v) => h.setAttribute k v) (h.note (.hook c.name))
  let h := c.reads.foldl (fun h k => h.note (.looked k (h.attributes.get? k))) h
  match c.refusal with
  | some source => (.error source, h)
  | none => (.ok (), h)

/-- What a hook does. -/
def perform (h : Host) : Hook → Except String Unit × Host
  | .modulesRoot => h.prepareModulesRoot
  | .moduleFramework => h.bringUpModules
  | .custom c => h.runCustom c

end Host

/-- **Hooks of a kind**: what they are called, who goes first, and what one of them does with the host
that gives it its turn. -/
class StartupHook (α : Type) where
  name : α → String
  /-- The lowest priority goes first. -/
  priority : α → Int
  /-- What a hook does, and why it failed if it did. -/
  perform : Host → α → Except String Unit × Host

instance : StartupHook Hook := ⟨Hook.name, Hook.priority, Host.perform⟩

variable {α : Type} [StartupHook α]

namespace Hook

/-- Whether a hook may go before another one. -/
def goesBefore (a b : α) : Bool :=
  StartupHook.priority a < StartupHook.priority b ||
    (StartupHook.priority a == StartupHook.priority b && StartupHook.name a ≤ StartupHook.name b)

/-- **The order in which hooks are looked at.** -/
def schedule (hooks : List α) : List α :=
  hooks.mergeSort goesBefore

end Hook

namespace Host

open StartupHook (name priority)

/-- Report something about a hook. -/
def sayHook (h : Host) (hook : α) (severity : Severity) (message : String)
    (more : List (String × FieldValue)) : Host :=
  h.report ⟨severity, "plughost::lifecycle::startup", message,
    ("hook", .shown (name hook)) :: more⟩

/-- The priority of a hook, as events show it. -/
def onPriority (hook : α) : List (String × FieldValue) :=
  [("priority", .shown (toString (priority hook)))]

/-- Give a hook its turn: it is announced and remembered. -/
def callHook (h : Host) (hook : α) : Host :=
  (h.sayHook hook .info "Running startup hook" (onPriority hook)).record (.ran (name hook))

/-- **Run one hook.** Only if it succeeds it is counted. -/
def runHook (h : Host) (hook : α) : Except StartupError Unit × Host :=
  match StartupHook.perform (h.callHook hook) hook with
  | (.error source, h) =>
    (.error (.initialization (name hook) source),
      h.sayHook hook .error "Startup hook failed" [("error", .shown source)])
  | (.ok (), h) =>
    -- hooks before a failure are not undone, so there is nothing to remember here
    let h := h.sayHook hook .debug "Startup hook completed" [("elapsed_ms", .ofNat 0)]
    (.ok (), { h with book := h.book.count (·.countHook (name hook)) })

/-- Run hooks in this order after those that were executed. A name is not run twice. -/
def runHooks : List α → (executed : List String) → Host →
    Except StartupError (List String) × Host
  | [], executed, h => (.ok executed, h)
  | hook :: rest, executed, h =>
    if executed.contains (name hook) then
      runHooks rest executed
        (h.sayHook hook .warn "Duplicate startup hook ignored" (onPriority hook))
    else
      match h.runHook hook with
      | (.error e, h) => (.error e, h)
      | (.ok (), h) => runHooks rest (executed ++ [name hook]) h

/-- **Run all hooks.** -/
def startup (h : Host) (hooks : List α) : Except StartupError Ready × Host :=
  if hooks.isEmpty then
    (.error (.configuration "at least one startup hook is required"),
      h.report ⟨.error, "plughost::lifecycle::startup", "No startup hooks registered", []⟩)
  else
    match runHooks (Hook.schedule hooks) [] h with
    | (.error e, h) => (.error e, h)
    | (.ok executed, h) => (.ok { executed }, h)

/-- Take an action. -/
def act : HostAction → Host → Host
  | .stopFramework, h => h.stopFramework
  | .note name, h => h.note (.action name)

/-- **Take all actions** that were registered, the last one first. -/
def runShutdown (h : Host) (s : ShutdownSequence HostAction) : Host :=
  s.run (fun e h => h.report e) act h

end Host

end ModuleHost
