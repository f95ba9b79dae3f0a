import ModuleHost.Logging.Level
import ModuleHost.Text.Quoted

/-!
# Log events

What the parts of a host report: a message about a target, with a severity and named values.

* `LogEvent.line`: the event in one line, without a time.
-/

namespace ModuleHost

/-- A value beside a message. -/
inductive FieldValue where
  /-- Shown as it stands. -/
  | shown (text : String)
  /-- A text that records show between quotes. -/
  | text (s : String)
  deriving DecidableEq, Inhabited

namespace FieldValue

/-- The value as it stands. -/
def plain : FieldValue → String
  | shown t => t
  | text s => s

/-- The value as records show it. -/
def inRecord : FieldValue → String
  | shown t => t
  | text s => Text.quoted s

def ofNat (n : Nat) : FieldValue := shown (toString n)

def ofBool (b : Bool) : FieldValue := shown (if b then "true" else "false")

end FieldValue

/-- **A log event.** -/
structure LogEvent where
  severity : Severity
  target : String
  message : String
  fields : List (String × FieldValue) := []
  deriving DecidableEq, Inhabited

namespace LogEvent

/-- The event without the fields of some names. -/
def without (e : LogEvent) (names : List String) : LogEvent :=
  { e with fields := e.fields.filter (fun f => !names.contains f.1) }

/-- **The event in one line.** -/
def line (e : LogEvent) : String :=
  s!"{e.severity.label} {e.target} {e.message}" ++
    String.join (e.fields.map (fun f => s!" {f.1}={f.2.plain}"))

end LogEvent

end ModuleHost
