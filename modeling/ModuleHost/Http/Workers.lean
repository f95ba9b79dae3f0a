import ModuleHost.Settings.Basic

/-!
# Worker pool

In production a host has at least eight workers for each processor and room for twice as many; what
is configured is never lowered. In development the configured sizes stand.
-/

namespace ModuleHost.Http

/-- The largest number of threads that can be written down. -/
def maxThreadCount : Nat :=
  UInt64.size - 1

/-- Workers for each processor in production. -/
def workersPerProcessor : Nat :=
  8

/-- A product that stops at `maxThreadCount`. -/
def clampedProduct (a b : Nat) : Nat :=
  min (a * b) maxThreadCount

/-- The sizes that a host starts with. -/
structure WorkerPool where
  core : Nat
  max : Nat
  deriving DecidableEq, Inhabited

/-- **Sizing the pool** for a run mode and a number of processors. -/
def WorkerPool.size (mode : RunMode) (processors : Nat) (configured : Settings.Workers) :
    WorkerPool :=
  match mode with
  | .dev => ⟨configured.coreThreads, configured.maxThreads⟩
  | .prod =>
    let core := Nat.max configured.coreThreads (clampedProduct processors workersPerProcessor)
    ⟨core, Nat.max configured.maxThreads (clampedProduct core 2)⟩

end ModuleHost.Http
