import ModuleHost.Http.Wire
import ModuleHost.Program.Launch
import Std.Internal.UV.Signal
import Std.Internal.UV.TCP
import Std.Sync.Mutex
import Std.Time.Zoned

/-!
# The command line

Brings the files, the clock, the sockets and the signals of the system to the program, and what it
writes back to the system. All decisions are the program's.
-/

namespace ModuleHost.CommandLine

open Std.Internal.UV (Signal)
open Std.Internal.UV.TCP (Socket)

/-! ### The clock -/

/-- A time on the clock of the system's time zone. Where the zone is not known, that is UTC. -/
def onLocalClock (seconds : Int) (nanos : Nat) : IO Instant := do
  let offset ← try
      let zone ← Std.Time.Database.defaultGetLocalZoneRules
      pure (zone.timezoneAt (.ofSecondsSinceUnixEpoch (.ofInt seconds))).offset.second.val
    catch _ => pure 0
  return { seconds, nanos, offset }

/-- The time now. -/
def now : IO Instant := do
  let ns := (← Std.Time.Timestamp.now).toNanosecondsSinceUnixEpoch.val
  onLocalClock (ns / 1000000000) (ns % 1000000000).toNat

/-! ### Files -/

/-- Put the file or the directory at a path onto a disk. -/
def loadItem (d : Disk) (path : String) : IO Disk := do
  try
    let place := (← IO.currentDir) / path
    if ← place.isDir then return d.place path .dir
    return d.place path (.file (← IO.FS.readBinFile place).toList)
  catch _ => return d

/-- Put a directory with its files onto a disk. -/
def loadDir (d : Disk) (path : String) : IO Disk := do
  try
    let entries ← ((← IO.currentDir) / path).readDir
    entries.foldlM (fun d e => loadItem d s!"{path}/{e.fileName}") (d.place path .dir)
  catch _ => return d

/-- Put onto a disk what a program with these arguments looks at. -/
def loadDisk (args : List String) (env : Overrides.Environment) : IO (Disk × Instant) := do
  let some i := (Invocation.parse args).toOption | return (Disk.empty, ← now)
  let d ← loadItem Disk.empty i.config
  let some (s, _) := (Program.configure i env d).toOption | return (d, ← now)
  let d ← [s.https.certPath, s.https.keyPath, s.modules.rootDir].foldlM loadItem d
  let d ← loadDir d ((Path.parent? s.logging.file.path).getD ".")
  try
    let time := (← ((← IO.currentDir) / s.logging.file.path).metadata).modified
    return (d, ← onLocalClock time.sec time.nsec.toNat)
  catch _ => return (d, ← now)

/-- Save an item whose content was different before. -/
def saveItem (before : Option Disk.Item) (path : String) : Disk.Item → IO Unit
  | .dir => IO.FS.createDirAll path
  | .link _ => return ()
  | .file content => do
    let (mode, bytes) : IO.FS.Mode × Bytes := match before with
      | some (.file old) =>
        if old.isPrefixOf content then (.append, content.drop old.length) else (.write, content)
      | _ => (.write, content)
    if mode matches .append && bytes.isEmpty then return ()
    (← IO.FS.Handle.mk path mode).write bytes.toByteArray

/-- Save what differs between two disks. -/
def saveDisk (before after : Disk) : IO Unit := do
  let old := before.items
  for (path, _) in old do
    if (after.items.lookup path).isNone then IO.FS.removeFile path
  for (path, item) in after.items do
    saveItem (old.lookup path) path item

/-- Save the files of a machine and write what it has for the standard streams. -/
def publish (before : Disk) (m : Machine) : IO Unit := do
  let out ← IO.getStdout
  let err ← IO.getStderr
  out.write m.stdout.toByteArray
  err.write m.stderr.toByteArray
  out.flush
  saveDisk before m.disk

/-! ### The environment -/

/-- The variables that the program reads. -/
def environment : IO Overrides.Environment := do
  let keys := [Overrides.portKey, Overrides.modeKey, Overrides.checkPortKey,
    Overrides.enableHttpsKey, Overrides.enableAltKey, Overrides.logAsyncKey,
    Overrides.logImmediateFlushKey]
  let pairs ← keys.filterMapM (fun k => do return (← IO.getEnv k).map (k, ·))
  return fun k => pairs.lookup k

/-- How many processors there are. -/
def processors : IO Nat := do
  try
    let lines := (← IO.FS.readFile "/proc/cpuinfo").splitOn "\n"
    return max 1 (lines.filter (·.startsWith "processor")).length
  catch _ => return 1

/-- A number for this boot. -/
def bootId : IO String := do
  let bytes ← (List.range 16).mapM (fun _ => return (← IO.rand 0 255).toUInt8)
  return Program.bootIdText bytes

/-! ### Sockets -/

def addressOf : Net.SocketAddress → Std.Net.SocketAddress
  | ⟨.v4 a b c d, port⟩ => .v4 ⟨⟨#v[a, b, c, d]⟩, port⟩
  | ⟨.v6 groups, port⟩ => .v6 ⟨⟨Vector.ofFn (fun i => groups.getD i 0)⟩, port⟩

/-- Bind the listeners of a host, or say which address is taken. -/
def openAll (listeners : List Http.ListenerSpec) :
    IO (Except Net.SocketAddress (List (Http.ListenerSpec × Socket))) := do
  let mut opened := []
  for l in listeners do
    try
      let socket ← Socket.new
      socket.bind (addressOf l.address)
      socket.listen 1024
      opened := opened ++ [(l, socket)]
    catch _ => return .error l.address
  return .ok opened

/-- The result of a call that the system finishes later. -/
def finished {α : Type} (p : IO.Promise (Except IO.Error α)) : IO α := do
  match ← IO.wait p.result? with
  | some r => IO.ofExcept r
  | none => throw (IO.userError "the call was dropped")

/-! ### A running host -/

/-- Change a running host, and publish what it wrote. -/
def update {α : Type} (host : Std.Mutex RunningHost) (f : RunningHost → α × RunningHost) : IO α := do
  let time ← now
  host.atomically do
    let r ← get
    let before := r.host.book.machine
    let machine := { before with now := time, stdout := [], stderr := [] }
    let (a, r) := f { r with host := { r.host with book := { r.host.book with machine } } }
    publish before.disk r.host.book.machine
    set r
    return a

/-- Read until the head of a request is there. -/
partial def readHead (socket : Socket) (got : Bytes) : IO (Option (List Char)) := do
  match Http.Wire.head? got with
  | some head => return some head
  | none =>
    match ← finished (← socket.recv? 65536) with
    | none => return none
    | some bytes => readHead socket (got ++ bytes.toList)

/-- Answer the request of a connection. -/
def converse (host : Std.Mutex RunningHost) (socket : Socket) : IO Unit := do
  if let some head ← readHead socket [] then
    let answer ← update host (·.withServer (fun s b => s.request (Http.Wire.request? head) b))
    if let some response := answer then
      finished (← socket.send #[(Http.Wire.response response).toByteArray])
  finished (← socket.shutdown)

/-- Take connections as long as there are any. Encrypted ones are not understood. -/
partial def acceptAll (host : Std.Mutex RunningHost) (l : Http.ListenerSpec) (listener : Socket) :
    IO Unit := do
  let socket ← finished (← listener.accept)
  let talk : IO Unit :=
    if l.kind == .https then do finished (← socket.shutdown) else converse host socket
  let _ ← IO.asTask talk
  acceptAll host l listener

/-- Look at the configuration file every two seconds. -/
partial def watchConfig (host : Std.Mutex RunningHost) (path : String) (current : Settings)
    (known : Disk) : IO Unit := do
  IO.sleep 2000
  let d ← loadItem Disk.empty path
  if (d.read path).toOption == (known.read path).toOption then watchConfig host path current known
  else
    let change := Settings.reload current (Settings.load Toml.Document.parse? d path)
    update host (fun r =>
      let book := (change.events.foldl Logbook.emit r.host.book).applyUpdates change.sent.toList
      ((), { r with host := { r.host with book } }))
    watchConfig host path change.current d

/-- Wait for a signal that asks the program to end. -/
def awaitSignal : IO ModuleHost.Signal := do
  let interrupted := (← (← Signal.mk 2 false).next).result?.map (fun _ => Signal.interrupt)
  let terminated := (← (← Signal.mk 15 false).next).result?.map (fun _ => Signal.terminate)
  IO.waitAny [interrupted, terminated]

/-- Serve until a signal comes. -/
def serve (args : List String) (r : RunningHost) (sockets : List (Http.ListenerSpec × Socket)) :
    IO UInt8 := do
  let host ← Std.Mutex.new r
  for (l, socket) in sockets do
    let _ ← IO.asTask (acceptAll host l socket) .dedicated
  if let some i := (Invocation.parse args).toOption then
    let _ ← IO.asTask (watchConfig host i.config r.host.settings r.host.book.machine.disk) .dedicated
  let signal ← awaitSignal
  update host (fun r => Program.stop r signal)

/-- Launch the program. If the system refuses an address, it is launched again with that address
taken. -/
partial def launch (args : List String) (env : Overrides.Environment) (count : Nat) (id : String)
    (m : Machine) : IO UInt8 := do
  match Program.launch args env count id m with
  | .ended status after =>
    publish m.disk after
    return status
  | .serving r =>
    match ← openAll r.server.listeners with
    | .error taken =>
      launch args env count id { m with sockets := { bound := taken :: m.sockets.bound } }
    | .ok sockets =>
      publish m.disk r.host.book.machine
      serve args r sockets

end ModuleHost.CommandLine

open ModuleHost.CommandLine in
def main (args : List String) : IO UInt32 := do
  let env ← environment
  let (disk, fileTime) ← loadDisk args env
  let status ← launch args env (← processors) (← bootId) { disk, fileTime, now := ← now }
  return status.toUInt32
