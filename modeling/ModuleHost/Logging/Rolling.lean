import ModuleHost.Logging.Archive
import ModuleHost.Storage.Disk

/-!
# Rolling log files

A log file that is set aside as an archive when its period ends or it grows too large, with a bounded
number of archives kept.

* `LogWriter.put`, `LogWriter.flush`: the buffer in front of an open file.
* `RollingFile.openAt`: opening, or taking up again what is there.
* `RollingFile.write`: one record, after rolling over if it is time to.
* `RollingFile.archives`, `RollingFile.renew`, `RollingFile.prune`: the archives, and the two parts of a roll.
-/

namespace ModuleHost

/-! ### The buffer -/

/-- An open file with the bytes that were not handed to it yet. -/
structure LogWriter where
  file : NodeId
  buffer : Bytes := []
  deriving DecidableEq, Inhabited

namespace LogWriter

/-- The buffer holds this many bytes. -/
def capacity : Nat := 8192

/-- **Hand over the buffer.** If the file does not take it, it stays. -/
def flush (w : LogWriter) (d : Disk) : Except SystemError Unit × LogWriter × Disk :=
  if w.buffer.isEmpty then (.ok (), w, d)
  else
    match d.append w.file w.buffer with
    | .ok d => (.ok (), { w with buffer := [] }, d)
    | .error e => (.error e, w, d)

/-- Take bytes after the buffer was emptied if that was needed: those that would not fit into an
empty buffer go straight to the file. -/
def putAfterFlush (w : LogWriter) (bytes : Bytes) (d : Disk) :
    Except SystemError Unit × LogWriter × Disk :=
  if capacity ≤ bytes.length then
    match d.append w.file bytes with
    | .ok d => (.ok (), w, d)
    | .error e => (.error e, w, d)
  else (.ok (), { w with buffer := w.buffer ++ bytes }, d)

/-- **Take bytes.** They are kept back while there is room for them. -/
def put (w : LogWriter) (bytes : Bytes) (d : Disk) : Except SystemError Unit × LogWriter × Disk :=
  let free := capacity - w.buffer.length
  if bytes.length < free then (.ok (), { w with buffer := w.buffer ++ bytes }, d)
  else if free < bytes.length then
    -- there is no room, so what came before goes first
    match w.flush d with
    | (.ok (), w, d) => w.putAfterFlush bytes d
    | (.error e, w, d) => (.error e, w, d)
  -- the bytes fit to the last one
  else w.putAfterFlush bytes d

/-- Let go of the file: the buffer is handed over if the file takes it, and lost if not. -/
def release (w : LogWriter) (d : Disk) : Disk :=
  (w.flush d).2.2

end LogWriter

/-! ### The file -/

/-- When a log file rolls over and how many archives it keeps. -/
structure RollingPolicy where
  maxSize : Nat
  maxHistory : Nat
  rotation : Rotation
  deriving DecidableEq, Inhabited

/-- **A rolling log file**: where it is and under which policy, and what is known of the active file:
the writer, the bytes written to it, and the period of its content. -/
structure RollingFile where
  path : String
  dir : String
  name : LogName
  policy : RollingPolicy
  immediateFlush : Bool
  writer : Option LogWriter
  size : Nat
  period : String
  closed : Bool := false
  deriving DecidableEq, Inhabited

namespace RollingFile

/-- The directory of a path, which is the working directory for a lone name. -/
def dirOf (path : String) : String :=
  match Path.parent? path with
  | some parent => if parent.isEmpty then "." else parent
  | none => "."

/-- **Open a log file**, making it and its directory if they are not there. A file that has content
already belongs to the period of its modification time, an empty one to the present. -/
def openAt (path : String) (policy : RollingPolicy) (immediateFlush : Bool) (now modified : Instant)
    (d : Disk) : Except SystemError RollingFile × Disk :=
  match Disk.createDirs (dirOf path) d with
  | (.error e, d) => (.error e, d)
  | (.ok (), d) =>
    match Path.stem? path with
    | none => (.error (.invalidInput "log file name is not valid UTF-8"), d)
    | some stem =>
      match d.openAppend path with
      | .error e => (.error e, d)
      | .ok (file, d) =>
        let size := d.length file
        (.ok {
          path, dir := dirOf path, name := ⟨stem, Path.extension? path⟩, policy, immediateFlush
          writer := some { file }
          size
          period := policy.rotation.period (if 0 < size then modified else now) }, d)

/-- **The archives with their keys**, the oldest first. -/
def keyedArchives (f : RollingFile) (d : Disk) : Except SystemError (List (ArchiveKey × String)) :=
  match d.list f.dir with
  | .ok names => .ok (f.name.archivesAmong names)
  | .error e => .error e

/-- The paths of the archives, the oldest first. -/
def archives (f : RollingFile) (d : Disk) : Except SystemError (List String) :=
  (f.keyedArchives d).map (fun as => as.map (fun a => Path.join f.dir a.2))

/-- The path under which the active file is set aside next. If there is no next number, the call stops here. -/
def nextArchive (f : RollingFile) (d : Disk) : Except SystemError String :=
  match d.list f.dir with
  | .error e => .error e
  | .ok names =>
    match f.name.nextIndex f.period names with
    | none => .error .overflow
    | some index => .ok (Path.join f.dir (f.name.archive ⟨f.period, index⟩))

/-- Remove files one by one, up to the first that cannot be removed. -/
def removeAll : List String → Disk → Except SystemError Unit × Disk
  | [], d => (.ok (), d)
  | path :: paths, d =>
    match d.removeFile path with
    | .ok d => removeAll paths d
    | .error e => (.error e, d)

/-- The oldest archives, beyond those that are kept. -/
def excess (f : RollingFile) (d : Disk) : Except SystemError (List String) :=
  (f.archives d).map (fun paths => paths.take (paths.length - f.policy.maxHistory))

/-- **Remove the oldest archives** beyond those that are kept. -/
def prune (f : RollingFile) (d : Disk) : Except SystemError Unit × Disk :=
  match f.excess d with
  | .error e => (.error e, d)
  | .ok paths => removeAll paths d

/-- Let go of the writer after handing over its buffer. -/
def settle (f : RollingFile) (d : Disk) : Except SystemError Unit × RollingFile × Disk :=
  match f.writer with
  | none => (.ok (), f, d)
  | some w =>
    match w.flush d with
    | (.ok (), _, d) => (.ok (), { f with writer := none }, d)
    -- the writer is let go all the same, and its buffer is tried once more
    | (.error e, w, d) => (.error e, { f with writer := none }, w.release d)

/-- Set the active file aside if anything was written to it. -/
def setAside (f : RollingFile) (d : Disk) : Except SystemError Unit × Disk :=
  if f.size = 0 then (.ok (), d)
  else
    match f.nextArchive d with
    | .error e => (.error e, d)
    | .ok target =>
      match d.rename f.path target with
      | .error e => (.error e, d)
      | .ok d => (.ok (), d)

/-- **Begin a new active file** for the period `next`, with the old one set aside. -/
def renew (f : RollingFile) (next : String) (d : Disk) :
    Except SystemError Unit × RollingFile × Disk :=
  match f.settle d with
  | (.error e, f, d) => (.error e, f, d)
  | (.ok (), f, d) =>
    match f.setAside d with
    | (.error e, d) => (.error e, f, d)
    | (.ok (), d) =>
      match d.openAppend f.path with
      | .error e => (.error e, f, d)
      | .ok (file, d) =>
        (.ok (), { f with writer := some { file }, size := 0, period := next }, d)

/-- **Roll over** to a new active file for the period `next`. -/
def roll (f : RollingFile) (next : String) (d : Disk) :
    Except SystemError Unit × RollingFile × Disk :=
  match f.renew next d with
  | (.error e, f, d) => (.error e, f, d)
  | (.ok (), f, d) =>
    -- the new file is in use by now, but trouble with old archives still refuses the record
    let (r, d) := f.prune d
    (r, f, d)

/-- Whether a record of the given length belongs into a new file. -/
def mustRoll (f : RollingFile) (period : String) (length : Nat) : Bool :=
  period != f.period || (0 < f.size && f.policy.maxSize < f.size + length)

/-- The writer, opened again if a failure left the file without one. -/
def ensureWriter (f : RollingFile) (d : Disk) : Except SystemError (LogWriter × Disk) :=
  match f.writer with
  | some w => .ok (w, d)
  | none =>
    match d.openAppend f.path with
    | .ok (file, d) => .ok ({ file }, d)
    | .error e => .error e

/-- Append a record to the active file. -/
def appendRecord (f : RollingFile) (record : Bytes) (d : Disk) :
    Except SystemError Unit × RollingFile × Disk :=
  match f.ensureWriter d with
  | .error e => (.error e, f, d)
  | .ok (w, d) =>
    match w.put record d with
    | (.error e, w, d) => (.error e, { f with writer := some w }, d)
    | (.ok (), w, d) =>
      if f.immediateFlush then
        match w.flush d with
        | (.error e, w, d) => (.error e, { f with writer := some w }, d)
        | (.ok (), w, d) =>
          (.ok (), { f with writer := some w, size := f.size + record.length }, d)
      else (.ok (), { f with writer := some w, size := f.size + record.length }, d)

/-- **Write one record** at a point in time. A closed file takes no record and says nothing. -/
def write (f : RollingFile) (record : Bytes) (now : Instant) (d : Disk) :
    Except SystemError Unit × RollingFile × Disk :=
  if f.closed then (.ok (), f, d)
  else
    let period := f.policy.rotation.period now
    if f.mustRoll period record.length then
      -- a record that cannot roll over is not written to the old file either
      match f.roll period d with
      | (.error e, f, d) => (.error e, f, d)
      | (.ok (), f, d) => f.appendRecord record d
    else f.appendRecord record d

/-- Hand over what is buffered. -/
def flush (f : RollingFile) (d : Disk) : Except SystemError Unit × RollingFile × Disk :=
  match f.writer with
  | none => (.ok (), f, d)
  | some w =>
    let (r, w, d) := w.flush d
    (r, { f with writer := some w }, d)

/-- **Close**: hand over what is buffered and refuse further records. A newer file may already be open
at the same path, and a closed one never moves it away. -/
def close (f : RollingFile) (d : Disk) : Except SystemError Unit × RollingFile × Disk :=
  let (r, f, d) := f.settle d
  (r, { f with closed := true }, d)

/-- Drop the file: what is buffered is handed over if the file takes it. -/
def drop (f : RollingFile) (d : Disk) : Disk :=
  match f.writer with
  | none => d
  | some w => w.release d

end RollingFile

end ModuleHost
