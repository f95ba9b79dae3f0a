import ModuleHost.Settings.Override
import ModuleHost.Text.Split

/-!
# Arguments

The command line of the program. Arguments are taken one after another, and the first that ends the
matter counts: a fault, or the wish for help or the version.

* `Invocation.parse`: the arguments of a run.
-/

namespace ModuleHost

/-- What an argument is about. -/
inductive Flag where
  | config
  | port
  | checkPort
  | mode
  | https
  | alt
  | logAsync
  | help
  | version
  deriving DecidableEq, Inhabited

namespace Flag

/-- The long names. -/
def longNames : List (String × Flag) :=
  [("config", config), ("port", port), ("check-port", checkPort), ("mode", mode), ("https", https),
    ("alt", alt), ("log-async", logAsync), ("help", help), ("version", version)]

/-- The names of one letter. -/
def letters : List (Char × Flag) :=
  [('c', config), ('p', port), ('h', help), ('V', version)]

def ofLongName? (name : String) : Option Flag :=
  (longNames.find? (·.1 == name)).map (·.2)

def ofLetter? (c : Char) : Option Flag :=
  (letters.find? (·.1 == c)).map (·.2)

/-- Whether a value belongs to it. -/
def takesValue : Flag → Bool
  | config | port | mode => true
  | _ => false

end Flag

/-- An argument. -/
inductive Argument where
  | flag (f : Flag)
  | valued (f : Flag) (value : String)
  /-- The value is the next argument. -/
  | expecting (f : Flag)
  /-- Nothing but operands may follow. -/
  | separator
  | unknown
  deriving DecidableEq, Inhabited

namespace Argument

/-- An argument with a long name. -/
def ofLong (body : List Char) : Argument :=
  let (name, value?) := match Text.splitAt? ['='] body with
    | some (name, value) => (name, some (String.ofList value))
    | none => (body, none)
  match Flag.ofLongName? (String.ofList name), value? with
  | none, _ => unknown
  | some f, some value => if f.takesValue then valued f value else unknown
  | some f, none => if f.takesValue then expecting f else flag f

/-- An argument of letters. -/
def ofLetters (c : Char) (rest : List Char) : Argument :=
  match Flag.ofLetter? c with
  | none => unknown
  | some f =>
    if !f.takesValue then flag f
    else
      match rest with
      | [] => expecting f
      | '=' :: value => valued f (String.ofList value)
      | value => valued f (String.ofList value)

/-- **Reading an argument.** The program has no operands. -/
def ofText (s : String) : Argument :=
  match s.toList with
  | ['-', '-'] => separator
  | '-' :: '-' :: body => ofLong body
  | '-' :: c :: rest => ofLetters c rest
  | _ => unknown

/-- Whether a text looks like an argument of its own and is no value. -/
def looksLikeFlag (s : String) : Bool :=
  match s.toList with
  | '-' :: _ :: _ => true
  | _ => false

end Argument

/-- **What a run is started with.** -/
structure Invocation where
  /-- The path of the configuration file. -/
  config : String := "plughost.toml"
  overrides : Overrides := {}
  /-- What was given so far. -/
  given : List Flag := []
  deriving DecidableEq, Inhabited

/-- Why the arguments lead to no run. -/
inductive NoRun where
  | help
  | version
  | misuse (argument : String)
  deriving DecidableEq, Inhabited

namespace Invocation

/-- A port: a number with an optional sign. -/
def port? (s : String) : Option UInt16 :=
  match s.toList with
  | '-' :: r => ((Text.Numeral.read? r).filter (· = 0)).map Nat.toUInt16
  | _ => Text.Numeral.port? s

/-- Take a value. -/
def setValue? (i : Invocation) (value : String) : Flag → Option Invocation
  | .config => if value.isEmpty then none else some { i with config := value }
  | .port => (port? value).map (fun p => { i with overrides := { i.overrides with port := some p } })
  | .mode =>
    (RunMode.parse? value).map (fun m => { i with overrides := { i.overrides with mode := some m } })
  | _ => none

/-- Turn a switch on. -/
def turnOn (i : Invocation) : Flag → Except NoRun Invocation
  | .checkPort => .ok { i with overrides := { i.overrides with checkPort := true } }
  | .https => .ok { i with overrides := { i.overrides with enableHttps := true } }
  | .alt => .ok { i with overrides := { i.overrides with enableAlt := true } }
  | .logAsync => .ok { i with overrides := { i.overrides with logAsync := true } }
  | .help => .error .help
  | .version => .error .version
  | _ => .ok i

/-- Nothing may be given twice. -/
def once (i : Invocation) (f : Flag) : Except NoRun Invocation :=
  if i.given.contains f then .error (.misuse "") else .ok { i with given := f :: i.given }

/-- Take an argument with its value. -/
def takeValue (i : Invocation) (f : Flag) (value : String) : Except NoRun Invocation := do
  match i.setValue? value f with
  | none => throw (.misuse value)
  | some i => i.once f

/-- Take a switch. -/
def takeFlag (i : Invocation) (f : Flag) : Except NoRun Invocation := do
  let i ← i.turnOn f
  i.once f

/-- Take the arguments that are left. -/
def take : List String → Invocation → Except NoRun Invocation
  | [], i => .ok i
  | a :: rest, i =>
    match Argument.ofText a with
    | .flag f => (i.takeFlag f).bind (take rest)
    | .valued f value => (i.takeValue f value).bind (take rest)
    | .expecting f =>
      match rest with
      | [] => .error (.misuse a)
      | value :: rest =>
        if Argument.looksLikeFlag value then .error (.misuse a)
        else (i.takeValue f value).bind (take rest)
    | .separator => if rest.isEmpty then .ok i else .error (.misuse a)
    | .unknown => .error (.misuse a)

/-- **The run that the arguments ask for.** -/
def parse (args : List String) : Except NoRun Invocation :=
  take args {}

end Invocation

end ModuleHost
