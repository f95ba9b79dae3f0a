import ModuleHost.Settings.Basic
import ModuleHost.Http.Method
import ModuleHost.Logging.Level
import ModuleHost.Logging.FileSize

/-!
# Checking settings

Settings that can be read may still make no sense together. Every problem is reported, in the order
of the sections.

* `Settings.problems`: the problems of the whole; `Settings.Valid` when there are none.
* `Settings.Logging.problems`: those of the logging section alone.
-/

namespace ModuleHost

/-- One problem: the dotted name of the setting and what is wrong with it. -/
structure Problem where
  field : String
  fault : String
  deriving DecidableEq, Inhabited

/-- The problem in one line. -/
def Problem.text (p : Problem) : String :=
  s!"{p.field}: {p.fault}"

namespace Settings

/-- The problem, if the condition is true. -/
def reportIf (c : Bool) (field fault : String) : List Problem :=
  if c then [⟨field, fault⟩] else []

/-- Problems of the logger at a position of the list of loggers. -/
def Logger.problems (index : Nat) (l : Logger) : List Problem :=
  reportIf (Text.trim l.name).isEmpty s!"logging.loggers[{index}].name" "must not be empty" ++
  reportIf (Level.parse? l.level).isNone s!"logging.loggers[{index}].level"
    s!"unknown level: {l.level}"

/-- Problems of a list of loggers whose first one has the given position. -/
def loggerProblems (first : Nat) : List Logger → List Problem
  | [] => []
  | l :: r => l.problems first ++ loggerProblems (first + 1) r

/-- **Problems of the queue**, which matter only when it is in use. -/
def AsyncOutput.problems (a : AsyncOutput) : List Problem :=
  if a.enabled then
    reportIf (a.queueSize == 0) "logging.async.queue_size" "must be greater than 0" ++
    reportIf (a.queueSize < a.discardThreshold) "logging.async.discard_threshold"
      "must not exceed logging.async.queue_size"
  else []

/-- A size limit that is unreadable or zero. -/
def FileOutput.hasBadSize (f : FileOutput) : Bool :=
  match FileSize.parse? f.maxSize with
  | none => true
  | some n => n == 0

/-- **Problems of the logging section.** -/
def Logging.problems (l : Logging) : List Problem :=
  reportIf (Level.parse? l.rootLevel).isNone "logging.root_level" s!"unknown level: {l.rootLevel}" ++
  loggerProblems 0 l.loggers ++
  reportIf l.file.path.isEmpty "logging.file.path" "must not be empty" ++
  reportIf l.file.hasBadSize "logging.file.max_size" s!"invalid size: {l.file.maxSize}" ++
  l.async.problems

/-- Problems of the worker pool. -/
def Workers.problems (w : Workers) : List Problem :=
  reportIf (w.coreThreads == 0) "workers.core_threads" "must be greater than 0" ++
  reportIf (w.maxThreads < w.coreThreads) "workers.max_threads"
    "must not be lower than workers.core_threads"

/-- Problems of the pipeline. A method name is checked as it stands, with its blanks. -/
def Pipeline.problems (p : Pipeline) : List Problem :=
  reportIf p.allowedMethods.isEmpty "pipeline.allowed_methods" "must not be empty" ++
  (p.allowedMethods.filter (fun m => (Http.Method.parse? (Text.upper m)).isNone)).map
    (fun m => ⟨"pipeline.allowed_methods", s!"invalid HTTP method: {m}"⟩) ++
  reportIf (p.maxConcurrentRequests == 0) "pipeline.max_concurrent_requests" "must be greater than 0"

/-- Whether a path starts at the root. -/
def isRooted (path : String) : Bool :=
  path.toList.head? == some '/'

/-- Problems of the console section. -/
def Console.problems (c : Console) : List Problem :=
  reportIf (!isRooted c.route) "console.route" "must start with '/'" ++
  reportIf (c.redirectPaths.any (fun p => !isRooted p)) "console.redirect_paths"
    "paths must start with '/'"

/-- Problems of the TLS listener, which matter only when it is in use. -/
def Https.problems (h : Https) : List Problem :=
  if h.enabled then
    reportIf h.certPath.isEmpty "https.cert_path" "required when https is enabled" ++
    reportIf h.keyPath.isEmpty "https.key_path" "required when https is enabled"
  else []

/-- **Problems of the whole**, section by section. -/
def problems (s : Settings) : List Problem :=
  s.workers.problems ++ s.pipeline.problems ++ s.console.problems ++ s.https.problems ++
    s.logging.problems

/-- Settings that a host accepts. -/
def Valid (s : Settings) : Prop :=
  s.problems = []

instance (s : Settings) : Decidable s.Valid :=
  inferInstanceAs (Decidable (s.problems = []))

/-- A logging section that a host accepts. -/
def Logging.Valid (l : Logging) : Prop :=
  l.problems = []

instance (l : Logging) : Decidable l.Valid :=
  inferInstanceAs (Decidable (l.problems = []))

end Settings

end ModuleHost
