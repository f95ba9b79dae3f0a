import Mathlib
import ModuleHost.Proofs.Settings.InEffect

/-!
# Reloads and restarts

A host that runs takes a new content of its file into effect without the overrides at hand: it keeps the switches
that are on. A host that starts applies the overrides to the last content.

* `Settings.LogSwitch`: the two switches that a reload keeps.
* `Settings.unswitched_effective`, `Settings.isOn_effective_iff`: what is in effect after any contents.
* `Settings.reload_eq_restart_iff`: **a reload agrees with a restart exactly if every switch that some content
  turned on is on in the last one too**, or overridden.
* `Settings.reload_ne_restart`: a switch that is turned off in the file stays on.
-/

namespace ModuleHost.Settings

/-- The switches of the logging section. A reload never turns one off. -/
inductive LogSwitch where
  | async
  | immediateFlush
  deriving DecidableEq

namespace LogSwitch

/-- Whether a logging section has the switch on. -/
def isOn (w : LogSwitch) (l : Logging) : Bool :=
  match w with
  | async => l.async.enabled
  | immediateFlush => l.file.immediateFlush

/-- Whether overrides turn the switch on. -/
def isForced (w : LogSwitch) (o : Overrides) : Bool :=
  match w with
  | async => o.logAsync
  | immediateFlush => o.logImmediateFlush

/-- A content of the file can be loaded, and turns the switch on. -/
def TurnedOn (w : LogSwitch) (toml : Toml.Reader) (path : String) (d : Disk) : Prop :=
  ∃ new, load toml d path = .ok new ∧ w.isOn new.logging = true

end LogSwitch

/-- What a logging section says apart from its switches. -/
def Logging.unswitched (l : Logging) : Logging :=
  { l with
    async := { l.async with enabled := false }
    file := { l.file with immediateFlush := false } }

/-- **The settings of the last content that can be loaded**, or those from before if there is none. -/
def lastLoaded (toml : Toml.Reader) (path : String) (s : Settings) (ds : List Disk) : Settings :=
  ds.foldl (fun s d => (load toml d path).toOption.getD s) s

variable {s current new : Settings} {l l' : Logging} {o : Overrides} {toml : Toml.Reader}
  {path : String} {d : Disk} {ds : List Disk} {w : LogSwitch}

/-- Sections that count as equal have the same switches on. -/
theorem Logging.Same.isOn (h : l.Same l') (w : LogSwitch) : w.isOn l = w.isOn l' := by
  cases w with
  | async => exact congrArg AsyncOutput.enabled h.async
  | immediateFlush =>
    have hfile := congrArg FileOutput.immediateFlush h.1.2
    exact hfile

/-- And what else they say counts as equal as well. -/
theorem Logging.Same.unswitched (h : l.Same l') : l.unswitched.Same l'.unswitched :=
  ⟨⟨h.1.1, congrArg (fun f : FileOutput => { f with immediateFlush := false }) h.1.2⟩,
    congrArg (fun l : Logging => { l with async := { l.async with enabled := false } }) h.2⟩

/-- A logging section is told by its switches and what else it says. -/
theorem Logging.same_iff_unswitched :
    l.Same l' ↔ l.unswitched.Same l'.unswitched ∧ ∀ w : LogSwitch, w.isOn l = w.isOn l' := by
  refine ⟨fun h => ⟨h.unswitched, h.isOn⟩, ?_⟩
  rintro ⟨⟨⟨hpath, hfile⟩, hrest⟩, hon⟩
  have hasync : l.async.enabled = l'.async.enabled := hon .async
  have hflush : l.file.immediateFlush = l'.file.immediateFlush := hon .immediateFlush
  refine ⟨⟨hpath, ?_⟩, ?_⟩
  · have hback := congrArg (fun f : FileOutput => { f with immediateFlush := l.file.immediateFlush }) hfile
    rw [hflush] at hback
    calc { l.file with path := "" } = _ := by rw [← hflush]; rfl
      _ = _ := hback
      _ = _ := rfl
  · have hback := congrArg
      (fun l₁ : Logging => { l₁ with async := { l₁.async with enabled := l.async.enabled } }) hrest
    rw [hasync] at hback
    calc { l with file := {} } = _ := by rw [← hasync]; rfl
      _ = _ := hback
      _ = _ := rfl

theorem isOn_applyLogging (w : LogSwitch) (o : Overrides) (l : Logging) :
    w.isOn (Overrides.applyLogging o.logAsync o.logImmediateFlush l) = (w.isOn l || w.isForced o) := by
  cases w <;> rfl

theorem isOn_keepSwitches (w : LogSwitch) (current new : Logging) :
    w.isOn (keepSwitches current new) = (w.isOn new || w.isOn current) := by
  cases w <;> rfl

/-! ### Contents, one after another -/

theorem effective_cons :
    effective toml path current (d :: ds) = effective toml path (reload current (load toml d path)).current ds :=
  rfl

theorem lastLoaded_cons :
    lastLoaded toml path s (d :: ds) = lastLoaded toml path ((load toml d path).toOption.getD s) ds :=
  rfl

/-- **Apart from the switches**, what is in effect counts as equal to the last content that can be loaded. -/
theorem unswitched_effective (h : current.logging.unswitched.Same s.logging.unswitched) :
    (effective toml path current ds).logging.unswitched.Same (lastLoaded toml path s ds).logging.unswitched := by
  induction ds generalizing current s with
  | nil => exact h
  | cons d ds ih =>
    rw [effective_cons, lastLoaded_cons]
    cases hload : load toml d path with
    | error e => exact ih h
    | ok new =>
      exact ih (reload_current_logging rfl).unswitched

/-- One content keeps a switch on, or turns it on. -/
theorem isOn_reload_iff :
    w.isOn (reload current (load toml d path)).current.logging = true ↔
      w.isOn current.logging = true ∨ w.TurnedOn toml path d := by
  unfold LogSwitch.TurnedOn
  cases hload : load toml d path with
  | error e => simp [reload_error]
  | ok new =>
    rw [(reload_current_logging rfl).isOn, isOn_keepSwitches, Bool.or_eq_true, or_comm]
    simp

/-- **A switch is on** once it was, or if some content turned it on. -/
theorem isOn_effective_iff :
    w.isOn (effective toml path current ds).logging = true ↔
      w.isOn current.logging = true ∨ ∃ d ∈ ds, w.TurnedOn toml path d := by
  induction ds generalizing current with
  | nil => simp [effective]
  | cons d ds ih =>
    rw [effective_cons, ih, isOn_reload_iff]
    simp [or_assoc]

/-- A switch that is on in the last content that can be loaded was turned on by some content. -/
theorem turnedOn_of_lastLoaded (h : w.isOn (lastLoaded toml path s ds).logging = true) :
    w.isOn s.logging = true ∨ ∃ d ∈ ds, w.TurnedOn toml path d := by
  induction ds generalizing s with
  | nil => exact Or.inl h
  | cons d ds ih =>
    rw [lastLoaded_cons] at h
    rcases ih h with hon | ⟨d', hd', hon⟩
    · cases hload : load toml d path with
      | error e =>
        rw [hload] at hon
        exact Or.inl hon
      | ok new =>
        rw [hload] at hon
        exact Or.inr ⟨d, List.mem_cons_self, new, hload, hon⟩
    · exact Or.inr ⟨d', List.mem_cons_of_mem d hd', hon⟩

/-- **When a reload agrees with a restart.** A host is started on a content of its file, with overrides; other
contents follow, of which some may not be loadable. Then the logging section in effect counts as equal to the one
that a restart on the last loadable content would put into effect, up to the switches. A switch is on if it is
overridden or if any content had it on. So the two agree exactly if each switch that some content had on, and that
is not overridden, is on in the last one. -/
theorem reload_eq_restart_iff (toml : Toml.Reader) (o : Overrides) (path : String) (d : Disk) (ds : List Disk)
    (hfirst : load toml d path = .ok s) :
    let running := (effective toml path (o.apply s) ds).logging
    let restarted := (o.apply (lastLoaded toml path s ds)).logging
    running.unswitched.Same restarted.unswitched ∧
    (∀ w : LogSwitch, w.isOn running = true ↔ w.isForced o = true ∨ ∃ d' ∈ d :: ds, w.TurnedOn toml path d') ∧
    (running.Same restarted ↔ ∀ w : LogSwitch, w.isForced o = false → (∃ d' ∈ d :: ds, w.TurnedOn toml path d') →
      w.isOn (lastLoaded toml path s ds).logging = true) := by
  intro running restarted
  have hrest : running.unswitched.Same restarted.unswitched :=
    unswitched_effective (Logging.same_equivalence.refl _)
  have hcontents (w : LogSwitch) :
      (∃ d' ∈ d :: ds, w.TurnedOn toml path d') ↔ w.isOn s.logging = true ∨
        ∃ d' ∈ ds, w.TurnedOn toml path d' := by
    simp [LogSwitch.TurnedOn, hfirst]
  have hrunning (w : LogSwitch) :
      w.isOn running = true ↔ w.isForced o = true ∨ ∃ d' ∈ d :: ds, w.TurnedOn toml path d' := by
    have hfirst' : w.isOn (o.apply s).logging = (w.isOn s.logging || w.isForced o) :=
      isOn_applyLogging w o s.logging
    rw [isOn_effective_iff, hfirst', Bool.or_eq_true, hcontents, or_right_comm, or_comm]
  have hrestarted (w : LogSwitch) :
      w.isOn restarted = true ↔ w.isOn (lastLoaded toml path s ds).logging = true ∨ w.isForced o = true := by
    have hlast : w.isOn restarted = (w.isOn (lastLoaded toml path s ds).logging || w.isForced o) :=
      isOn_applyLogging w o (lastLoaded toml path s ds).logging
    rw [hlast, Bool.or_eq_true]
  -- what the last content turns on is on while the host runs as well
  have hlast (w : LogSwitch) (hon : w.isOn (lastLoaded toml path s ds).logging = true) :
      ∃ d' ∈ d :: ds, w.TurnedOn toml path d' :=
    (hcontents w).2 (turnedOn_of_lastLoaded hon)
  refine ⟨hrest, hrunning, ?_⟩
  rw [Logging.same_iff_unswitched]
  constructor
  · rintro ⟨-, hsame⟩ w hfree hon
    have hstill := (hrestarted w).1 (hsame w ▸ (hrunning w).2 (Or.inr hon))
    exact hstill.resolve_right (by simp [hfree])
  · intro hall
    refine ⟨hrest, fun w => ?_⟩
    rw [Bool.eq_iff_iff, hrunning, hrestarted]
    cases hforced : w.isForced o with
    | true => simp
    | false =>
      simp only [Bool.false_eq_true, false_or, or_false]
      exact ⟨hall w hforced, hlast w⟩

/-- The disk of a host whose file has a content. -/
def saved (text : String) : Disk :=
  Disk.empty.place "plughost.toml" (.file (Text.Utf8.encode text))

/-- The queue is turned on by overrides; a content turns flushing on, one cannot be loaded, and the last one has
another level and flushing still on. -/
theorem reload_eq_restart_iff_still_on :
    let toml := Toml.Document.parse?
    let o : Overrides := { logAsync := true }
    let ds := [saved "[logging.file]\nimmediate_flush = true\n", saved "[logging",
      saved "[logging]\nroot_level = \"warn\"\n[logging.file]\nimmediate_flush = true\n"]
    load toml (saved "") "plughost.toml" = .ok {} ∧
      (effective toml "plughost.toml" (o.apply {}) ds).logging.Same
        (o.apply (lastLoaded toml "plughost.toml" {} ds)).logging := by
  intro toml o ds
  have hfirst : load toml (saved "") "plughost.toml" = .ok {} := by decide +kernel
  refine ⟨hfirst, (reload_eq_restart_iff toml o "plughost.toml" (saved "") ds hfirst).2.2.2 fun w hfree _ => ?_⟩
  cases w with
  | async => cases hfree
  | immediateFlush =>
    show (lastLoaded toml "plughost.toml" {} ds).logging.file.immediateFlush = true
    decide +kernel

/-- **A reload does not always agree with a restart.** A file turns the queue on, and then it does not any more.
The host that runs keeps its queue, without any override; after a restart it has none. -/
theorem reload_ne_restart :
    let toml := Toml.Document.parse?
    let first := saved "[logging.async]\nenabled = true\n"
    let s : Settings := { logging := { async := { enabled := true } } }
    load toml first "plughost.toml" = .ok s ∧
      load toml (saved "") "plughost.toml" = .ok {} ∧
      (effective toml "plughost.toml" (({} : Overrides).apply s) [saved ""]).logging.async.enabled = true ∧
      (({} : Overrides).apply (lastLoaded toml "plughost.toml" s [saved ""])).logging.async.enabled = false := by
  decide +kernel

end ModuleHost.Settings
