import ModuleHost.Logging.Event
import ModuleHost.Time.Instant

/-!
# Log records

How an event is written to the console and to the log file: time, severity, thread, target, message
and values, in one line.

* `LogEvent.record`: the record, coloured or not.
-/

namespace ModuleHost

/-- The ways in which a part of a record is set off on a terminal. -/
inductive Paint where
  | dim
  | italic
  | colour (code : String)

/-- The text between the marks that switch its paint on and off, or as it stands. -/
def Paint.apply (ansi : Bool) (p : Paint) (s : String) : String :=
  if ansi then
    let code := match p with
      | dim => "2"
      | italic => "3"
      | colour c => c
    "\x1b[" ++ code ++ "m" ++ s ++ "\x1b[0m"
  else s

/-- The colour of a severity. -/
def Severity.paint : Severity → Paint
  | .error => .colour "31"
  | .warn => .colour "33"
  | .info => .colour "32"
  | .debug => .colour "34"
  | .trace => .colour "35"

/-- The severity right-aligned in five columns. -/
def Severity.column (s : Severity) : String :=
  String.ofList (List.replicate (5 - s.label.length) ' ') ++ s.label

/-- A character of a message, with those that could steer a terminal spelled out. -/
def disarm (c : Char) : String :=
  if c == '\x1b' then "\\x1b"
  else if c == '\x07' then "\\x07"
  else if c == '\x08' then "\\x08"
  else if c == '\x0c' then "\\x0c"
  else if c == '\x7f' then "\\x7f"
  else if 0x80 ≤ c.toNat && c.toNat ≤ 0x9F then "\\u\x7b" ++ Text.hexCode c ++ "\x7d"
  else c.toString

/-- **The record of an event**, ended by a line feed. -/
def LogEvent.record (e : LogEvent) (ansi : Bool) (now : Instant) (thread : String) : String :=
  Paint.dim.apply ansi now.stamp ++ " " ++ e.severity.paint.apply ansi e.severity.column ++ " " ++
    thread ++ " " ++ Paint.dim.apply ansi e.target ++ Paint.dim.apply ansi ":" ++ " " ++
    String.join (e.message.toList.map disarm) ++
    String.join (e.fields.map (fun f =>
      " " ++ Paint.italic.apply ansi f.1 ++ Paint.dim.apply ansi "=" ++ f.2.inRecord)) ++ "\n"

end ModuleHost
