import Mathlib
import ModuleHost.Proofs.Settings.Restart

/-!
# Updates from the watched file

A content of the watched file sends its logging section, with the switches in effect, if that is another than the
one in effect; then the new one is in effect. So what is sent hangs on what was sent before, and on nothing else.

* `Settings.updates`: what each content of a run sends, and `Settings.sent_eq`: which sections these are.
* `Settings.reload_cases`: **a content sends nothing and changes nothing, or it sends what is in effect
  afterwards**.
* `Settings.updates_kept`: contents that have nothing to send may as well not have come.
* `Settings.no_needless_update`: **nothing is sent that is in effect already**, neither at once nor when a content
  comes again, and no content that sends nothing has a say in what others send.
-/

namespace ModuleHost.Settings

/-- **What each content sends**, one after another. -/
def updates (toml : Toml.Reader) (path : String) : Settings → List Disk → List (Option Logging)
  | _, [] => []
  | current, d :: ds =>
    (reload current (load toml d path)).sent :: updates toml path (reload current (load toml d path)).current ds

/-- **A content has nothing to send** where it comes: it cannot be loaded, or its logging section is the one in
effect once the switches in effect are turned on in it. -/
def IsIdle (toml : Toml.Reader) (path : String) (current : Settings) (d : Disk) : Prop :=
  (∃ e, load toml d path = .error e) ∨
    ∃ new, load toml d path = .ok new ∧ (keepSwitches current.logging new.logging).Same current.logging

/-- The entries of a list that are marked. -/
def kept {α : Type} : List Bool → List α → List α
  | true :: marks, a :: as => a :: kept marks as
  | false :: marks, _ :: as => kept marks as
  | _, _ => []

variable {current : Settings} {toml : Toml.Reader} {path : String} {d d' : Disk} {ds : List Disk}
  {marks : List Bool} {w : LogSwitch} {i j : Nat}

/-! ### One content -/

/-- **A content sends nothing and changes nothing, or it sends what is in effect afterwards**, which was not
before. -/
theorem reload_cases (current : Settings) (loaded : Except LoadError Settings) :
    (reload current loaded).sent = none ∧ (reload current loaded).current = current ∨
      ∃ l, ¬ l.Same current.logging ∧ (reload current loaded).sent = some l ∧
        (reload current loaded).current = { current with logging := l } := by
  cases loaded with
  | error e => exact Or.inl ⟨rfl, rfl⟩
  | ok new =>
    by_cases hsame : (keepSwitches current.logging new.logging).Same current.logging
    · obtain ⟨hcurrent, hsent⟩ := reload_of_keeps hsame
      exact Or.inl ⟨hsent, hcurrent⟩
    · refine Or.inr ⟨keepSwitches current.logging new.logging, hsame, ?_, ?_⟩
      · exact reload_sent_iff.2 ⟨new, rfl, rfl, hsame⟩
      · unfold reload loggingUpdate?
        simp only [hsame, if_false]

/-- A content that has nothing to send is one that sends nothing. -/
theorem isIdle_iff : IsIdle toml path current d ↔ (reload current (load toml d path)).sent = none := by
  unfold IsIdle
  cases hload : load toml d path with
  | error e => exact iff_of_true (Or.inl ⟨e, rfl⟩) rfl
  | ok new =>
    constructor
    · rintro (⟨e, herror⟩ | ⟨new', hnew, hsame⟩)
      · cases herror
      · cases hnew
        exact (reload_of_keeps hsame).2
    · intro hnone
      by_contra hnot
      have hne : ¬ (keepSwitches current.logging new.logging).Same current.logging := by
        intro hsame
        exact hnot (Or.inr ⟨new, rfl, hsame⟩)
      rw [reload_sent_iff.2 ⟨new, rfl, rfl, hne⟩] at hnone
      cases hnone

/-- A content that has nothing to send changes nothing. -/
theorem reload_of_isIdle (h : IsIdle toml path current d) :
    (reload current (load toml d path)).current = current := by
  have hnone := isIdle_iff.1 h
  rcases reload_cases current (load toml d path) with ⟨-, hcurrent⟩ | ⟨l, -, hsome, -⟩
  · exact hcurrent
  · rw [hsome] at hnone
    cases hnone

/-- **A content that comes again** has nothing to send. -/
theorem isIdle_again (hsame : load toml d' path = load toml d path) :
    IsIdle toml path (reload current (load toml d path)).current d' := by
  cases hload : load toml d path with
  | error e => exact Or.inl ⟨e, hsame.trans hload⟩
  | ok new =>
    exact Or.inr ⟨new, hsame.trans hload, keeps_reload rfl⟩

/-- What is loaded hangs on what the file holds. -/
theorem load_congr (h : d'.read path = d.read path) : load toml d' path = load toml d path := by
  unfold load
  rw [h]

/-! ### Contents, one after another -/

theorem effective_append (ds ds' : List Disk) :
    effective toml path current (ds ++ ds') = effective toml path (effective toml path current ds) ds' :=
  List.foldl_append

theorem updates_cons : updates toml path current (d :: ds) =
    (reload current (load toml d path)).sent :: updates toml path (reload current (load toml d path)).current ds :=
  rfl

/-- Each content sends what it sends where it comes. -/
theorem getElem?_updates (toml : Toml.Reader) (path : String) (current : Settings) (ds : List Disk) (i : Nat) :
    (updates toml path current ds)[i]? =
      ds[i]?.map fun d => (reload (effective toml path current (ds.take i)) (load toml d path)).sent := by
  induction ds generalizing current i with
  | nil => rfl
  | cons d₀ ds ih =>
    cases i with
    | zero => rfl
    | succ i => exact ih (reload current (load toml d₀ path)).current i

/-- A content has nothing to send where it sends nothing. -/
theorem isIdle_of_sent (hsent : (updates toml path current ds).map Option.isSome = marks) (hd : ds[i]? = some d)
    (hmark : marks[i]? = some false) : IsIdle toml path (effective toml path current (ds.take i)) d := by
  rw [← hsent, List.getElem?_map, getElem?_updates, hd, Option.map_some, Option.map_some] at hmark
  exact isIdle_iff.2 (Option.isNone_iff_eq_none.1 (by simpa using hmark))

/-- The sections that are sent are those of the contents that send one. -/
theorem sent_eq (toml : Toml.Reader) (path : String) (current : Settings) (ds : List Disk) :
    sent toml path current ds = (updates toml path current ds).reduceOption := by
  induction ds generalizing current with
  | nil => rfl
  | cons d ds ih =>
    rw [updates_cons, sent, ih]
    cases (reload current (load toml d path)).sent with
    | none => rfl
    | some l => rfl

/-- **Each section that is sent is another than the one before**, and the first is another than the one in effect.
Where only the spelling of a path differs, it is no other. -/
theorem sent_isChain (toml : Toml.Reader) (path : String) (current : Settings) (ds : List Disk) :
    (current.logging :: sent toml path current ds).IsChain (fun l l' => ¬ l.Same l') := by
  induction ds generalizing current with
  | nil => exact .singleton _
  | cons d ds ih =>
    rw [sent]
    have hrest := ih (reload current (load toml d path)).current
    rcases reload_cases current (load toml d path) with ⟨hnone, hcurrent⟩ | ⟨l, hne, hsome, hcurrent⟩
    · rw [hcurrent] at hrest
      rw [hnone, hcurrent]
      exact hrest
    · rw [hcurrent] at hrest
      rw [hsome, hcurrent]
      exact .cons_cons (fun hsame => hne (Logging.same_equivalence.symm hsame)) hrest

/-- **Contents that have nothing to send may as well not have come**: the others send what they sent with them. -/
theorem updates_kept (hlength : marks.length = ds.length)
    (hidle : ∀ (i : Nat) (d : Disk), ds[i]? = some d → marks[i]? = some false →
      IsIdle toml path (effective toml path current (ds.take i)) d) :
    updates toml path current (kept marks ds) = kept marks (updates toml path current ds) ∧
      effective toml path current (kept marks ds) = effective toml path current ds := by
  induction ds generalizing current marks with
  | nil =>
    rw [List.length_eq_zero_iff.1 hlength]
    exact ⟨rfl, rfl⟩
  | cons d ds ih =>
    cases marks with
    | nil => cases hlength
    | cons mark marks =>
      -- the others come after the first content, whether it is kept or not
      have hrest := @ih (reload current (load toml d path)).current marks (Nat.succ.inj hlength)
        fun i d' hd' hmark => hidle (i + 1) d' hd' hmark
      cases mark with
      | true => exact ⟨congrArg _ hrest.1, hrest.2⟩
      | false =>
        have hfirst : IsIdle toml path current d := hidle 0 d rfl rfl
        have hsame := reload_of_isIdle hfirst
        rw [hsame] at hrest
        rw [updates_cons, effective_cons, hsame]
        exact hrest

/-- **A switch that is on stays on.** -/
theorem isOn_effective_mono (hij : i ≤ j) (hon : w.isOn (effective toml path current (ds.take i)).logging = true) :
    w.isOn (effective toml path current (ds.take j)).logging = true := by
  have hsplit : ds.take j = ds.take i ++ (ds.drop i).take (j - i) := by
    rw [← List.take_add, Nat.add_sub_cancel' hij]
  rw [hsplit, effective_append]
  exact isOn_effective_iff.2 (Or.inl hon)

/-- **Nothing is sent that is in effect already.** Whatever is in effect at first, and whatever the contents: a
section that is sent is not the one in effect where its content comes, so each is another than the one sent
before. Sections are compared as the host compares them, so another spelling of the same path is nothing to send.
What the file holds sends nothing when it is read once more right after it was read. Contents that cannot be
loaded, or that say what is in effect where they come, may be left out, and all others send what they sent with
them. A switch that is in effect stays so. -/
theorem no_needless_update (toml : Toml.Reader) (path : String) (current : Settings) (ds : List Disk) :
    (∀ (i : Nat) (l : Logging), (updates toml path current ds)[i]? = some (some l) →
      ¬ l.Same (effective toml path current (ds.take i)).logging) ∧
    sent toml path current ds = (updates toml path current ds).reduceOption ∧
    (current.logging :: sent toml path current ds).IsChain (fun l l' => ¬ l.Same l') ∧
    (∀ d d' : Disk, d'.read path = d.read path →
      (reload (effective toml path current (ds ++ [d])) (load toml d' path)).sent = none) ∧
    (∀ marks : List Bool, marks.length = ds.length →
      (∀ (i : Nat) (d : Disk), ds[i]? = some d → marks[i]? = some false →
        IsIdle toml path (effective toml path current (ds.take i)) d) →
      updates toml path current (kept marks ds) = kept marks (updates toml path current ds)) ∧
    ∀ (w : LogSwitch) (i j : Nat), i ≤ j → w.isOn (effective toml path current (ds.take i)).logging = true →
      w.isOn (effective toml path current (ds.take j)).logging = true := by
  refine ⟨?_, sent_eq toml path current ds, sent_isChain toml path current ds, ?_, ?_, fun w i j =>
    isOn_effective_mono⟩
  · intro i l hl
    rw [getElem?_updates, Option.map_eq_some_iff] at hl
    obtain ⟨d, -, hsent⟩ := hl
    obtain ⟨new, -, -, hne⟩ := reload_sent_iff.1 hsent
    exact hne
  · intro d d' hread
    rw [effective_append]
    exact isIdle_iff.1 (isIdle_again (load_congr hread))
  · intro marks hlength hidle
    exact (updates_kept hlength hidle).1

/-- The default path of the log file is saved in another spelling, then another level, then a content that cannot
be loaded, and the level once more. Only the level is sent, and only once, and all the others may be left out. -/
theorem no_needless_update_respelled :
    let toml := Toml.Document.parse?
    let respelled := saved "[logging.file]\npath = \"logs//plughost.log\"\n"
    let debug := saved "[logging]\nroot_level = \"debug\"\n"
    let ds := [respelled, debug, saved "[logging", debug]
    let marks := [false, true, false, false]
    (updates toml "plughost.toml" {} ds).map Option.isSome = marks ∧
      updates toml "plughost.toml" {} (kept marks ds) = kept marks (updates toml "plughost.toml" {} ds) := by
  intro toml respelled debug ds marks
  have hsent : (updates toml "plughost.toml" {} ds).map Option.isSome = marks := by decide +kernel
  refine ⟨hsent, (no_needless_update toml "plughost.toml" {} ds).2.2.2.2.1 marks rfl fun i d hd hmark => ?_⟩
  exact isIdle_of_sent hsent hd hmark

end ModuleHost.Settings
