import ModuleHost.Logging.FileSize
import ModuleHost.Logging.Queue
import ModuleHost.Text.Quoted

/-!
# One generation of log outputs

The console and the log file, with or without a queue in front of it, built and stopped as one.

* `AppenderSet.build`: opening what the logging section says.
* `AppenderSet.writeConsole`, `AppenderSet.writeFile`: one record.
* `AppenderSet.stop`: from then on every record is passed over.
-/

namespace ModuleHost

/-- Where a copy of a record goes. -/
inductive Sink where
  | console
  | file
  deriving DecidableEq, Inhabited

/-- **A generation of outputs.** -/
structure AppenderSet where
  generation : Nat
  stream : ConsoleStream
  file : RollingFile
  queue : Option LogQueue
  stopped : Bool := false
  deriving Inhabited

namespace AppenderSet

/-- The size limit when the settings say none that can be read. -/
def defaultMaxSize : Nat :=
  10 * 1024 * 1024

/-- The policy that the settings of the file say. -/
def policyOf (f : Settings.FileOutput) : RollingPolicy where
  maxSize := (FileSize.parse? f.maxSize).getD defaultMaxSize
  maxHistory := f.maxHistory
  rotation := f.rotation

/-- The queue that the settings ask for, if any. Its writer is a thread of its own. -/
def startQueue (a : Settings.AsyncOutput) (threadRefusal : Option SystemError) :
    Except SystemError (Option LogQueue) :=
  if a.enabled then
    match threadRefusal with
    | some e => .error e
    | none => .ok (some (LogQueue.ofSettings a.queueSize a.discardThreshold))
  else .ok none

/-- **Open the outputs** that a logging section says. -/
def build (l : Settings.Logging) (generation : Nat) (m : Machine) :
    Except SystemError AppenderSet × Machine :=
  match RollingFile.openAt l.file.path (policyOf l.file) l.file.immediateFlush m.now m.fileTime
      m.disk with
  | (.error e, disk) => (.error e, { m with disk })
  | (.ok file, disk) =>
    match startQueue l.async m.threadRefusal with
    -- the file is open by then, and is let go again
    | .error e => (.error e, { m with disk := file.drop disk })
    | .ok queue => (.ok { generation, file, queue, stream := l.console.target }, { m with disk })

def isAsync (a : AppenderSet) : Bool :=
  a.queue.isSome

/-- Records shed by the queue. -/
def droppedRecords (a : AppenderSet) : Nat :=
  match a.queue with
  | some q => q.dropped
  | none => 0

/-- **Write a record to the console.** -/
def writeConsole (a : AppenderSet) (record : Bytes) (m : Machine) :
    Except SystemError Unit × AppenderSet × Machine :=
  if a.stopped then (.ok (), a, m)
  else
    match a.stream with
    | .stdout => (.ok (), a, { m with stdout := m.stdout ++ record })
    | .stderr => (.ok (), a, { m with stderr := m.stderr ++ record })

/-- **Write a record to the file**, through the queue if there is one. -/
def writeFile (a : AppenderSet) (s : Severity) (record : Bytes) (m : Machine) :
    Except SystemError Unit × AppenderSet × Machine :=
  if a.stopped then (.ok (), a, m)
  else
    match a.queue with
    | none =>
      match a.file.write record m.now m.disk with
      | (r, file, disk) => (r, { a with file }, { m with disk })
    | some q =>
      let q' := q.offer s record
      (.ok (), { a with queue := some q' },
        { m with meters := m.meters.countDropped (q'.dropped - q.dropped) })

/-- The writer behind the queue catches up. -/
def work (a : AppenderSet) (m : Machine) : AppenderSet × Machine :=
  match a.queue with
  | none => (a, m)
  | some q =>
    match q.work a.file m with
    | (q, file, m) => ({ a with queue := some q, file }, m)

/-- A record to one of the outputs. -/
def writeTo (a : AppenderSet) (sink : Sink) (s : Severity) (record : Bytes) (m : Machine) :
    Except SystemError Unit × AppenderSet × Machine :=
  match sink with
  | .console => a.writeConsole record m
  | .file => a.writeFile s record m

/-- **Copies of a record** to one of the outputs, up to the first that fails. -/
def writeCopies (sink : Sink) (s : Severity) (record : Bytes) :
    Nat → AppenderSet → Machine → Except SystemError Unit × AppenderSet × Machine
  | 0, a, m => (.ok (), a, m)
  | n + 1, a, m =>
    match a.writeTo sink s record m with
    | (.error e, a, m) => (.error e, a, m)
    | (.ok (), a, m) => writeCopies sink s record n a m

/-- **Stop**: write what is queued, hand over what is buffered, and close the file. -/
def stop (a : AppenderSet) (m : Machine) : AppenderSet × Machine :=
  if a.stopped then (a, m)
  else
    -- the queue comes first: what it holds belongs into the file
    let (queue, file, m) := match a.queue with
      | none => (none, a.file, m)
      | some q =>
        match q.stop a.file m with
        | (q, file, m) => (some q, file, m)
    match file.close m.disk with
    | (r, file, disk) =>
      ({ a with queue, file, stopped := true },
        { m with disk }.complainIf s!"failed to flush appender generation {a.generation}" r)

/-- Drop the outputs without stopping them: what is queued and what is buffered is still written. -/
def drop (a : AppenderSet) (m : Machine) : Machine :=
  let (file, m) := match a.queue with
    | none => (a.file, m)
    | some q =>
      match q.stop a.file m with
      | (_, file, m) => (file, m)
  { m with disk := file.drop m.disk }

/-- The outputs as diagnostics show them. -/
def describe (a : AppenderSet) : String :=
  "AppenderSet \x7b " ++ s!"generation: {a.generation}, file: {Text.quoted a.file.path}, " ++
    s!"async: {a.isAsync}, stopped: {a.stopped}" ++ " \x7d"

end AppenderSet

end ModuleHost
