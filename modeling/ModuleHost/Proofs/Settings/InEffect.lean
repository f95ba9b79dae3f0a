import Mathlib
import ModuleHost.Settings.Load
import ModuleHost.Toml.Document

/-!
# Settings in effect

Settings are checked when they are read, and some of the checks matter only behind a switch. Overrides and the
reload turn switches on after that.

* `Settings.Logging.same_equivalence`: sections that count as equal.
* `Settings.Https.Named`, `Settings.AsyncOutput.Sound`: what is checked behind a switch.
* `Settings.valid_apply_iff`: when checked settings with overrides are valid.
* `Settings.sent`: the logging sections that a run of contents of the watched file sends.
* `Settings.valid_in_effect_iff`: **settings in effect are valid exactly as long as nothing unsound stands behind
  a switch that is turned on after the check**.
-/

namespace ModuleHost.Settings

/-- Both files of the TLS listener have a name. -/
def Https.Named (h : Https) : Prop :=
  h.certPath ≠ "" ∧ h.keyPath ≠ ""

/-- The queue has a slot, and its threshold is not above its size. -/
def AsyncOutput.Sound (a : AsyncOutput) : Prop :=
  0 < a.queueSize ∧ a.discardThreshold ≤ a.queueSize

instance (a : AsyncOutput) : Decidable a.Sound :=
  inferInstanceAs (Decidable (_ ∧ _))

/-- The settings in effect after some contents of the watched file, each on the disk of its time. -/
def effective (toml : Toml.Reader) (path : String) (current : Settings) (ds : List Disk) : Settings :=
  ds.foldl (fun s d => (reload s (load toml d path)).current) current

/-- **The logging sections that are sent** for contents of the watched file, one after another. -/
def sent (toml : Toml.Reader) (path : String) : Settings → List Disk → List Logging
  | _, [] => []
  | current, d :: ds =>
    (reload current (load toml d path)).sent.toList ++
      sent toml path (reload current (load toml d path)).current ds

/-- A content of the file can be loaded, and turns the queue on. -/
def TurnsOn (toml : Toml.Reader) (path : String) (d : Disk) : Prop :=
  ∃ new, load toml d path = .ok new ∧ new.logging.async.enabled = true

variable {s current new : Settings} {l l' : Logging} {o : Overrides} {toml : Toml.Reader} {path text : String}
  {d : Disk} {ds : List Disk} {loaded : Except LoadError Settings}

/-! ### Sections that count as equal -/

theorem FileOutput.same_equivalence : Equivalence FileOutput.Same :=
  ⟨fun _ => ⟨rfl, rfl⟩, fun h => ⟨h.1.symm, h.2.symm⟩, fun h h' => ⟨h.1.trans h'.1, h.2.trans h'.2⟩⟩

theorem Logging.same_equivalence : Equivalence Logging.Same where
  refl l := ⟨FileOutput.same_equivalence.refl l.file, rfl⟩
  symm h := ⟨FileOutput.same_equivalence.symm h.1, h.2.symm⟩
  trans h h' := ⟨FileOutput.same_equivalence.trans h.1 h'.1, h.2.trans h'.2⟩

/-- Sections that count as equal have the queue on alike. -/
theorem Logging.Same.async (h : l.Same l') : l.async = l'.async := by
  have hrest := congrArg Logging.async h.2
  exact hrest

/-! ### Checks -/

theorem reportIf_eq_nil_iff {c : Bool} {field fault : String} : reportIf c field fault = [] ↔ c = false := by
  cases c <;> simp [reportIf]

theorem Https.problems_eq_nil_iff (h : Https) : h.problems = [] ↔ (h.enabled = true → h.Named) := by
  unfold Https.problems Https.Named
  cases h.enabled with
  | true => simp [reportIf_eq_nil_iff, String.isEmpty_eq_false_iff]
  | false => simp

theorem AsyncOutput.problems_eq_nil_iff (a : AsyncOutput) : a.problems = [] ↔ (a.enabled = true → a.Sound) := by
  unfold AsyncOutput.problems AsyncOutput.Sound
  cases a.enabled with
  | true => simp [reportIf_eq_nil_iff, Nat.pos_iff_ne_zero]
  | false => simp

theorem parse_ok (h : parse toml text = .ok s) : s.Valid := by
  unfold parse at h
  split at h
  · cases h
  · split at h
    · rename_i hvalid
      cases h
      exact hvalid
    · cases h

/-- **What was loaded was checked.** -/
theorem load_ok (h : load toml d path = .ok s) : s.Valid := by
  unfold load at h
  split at h
  · cases h
  · split at h
    · cases h
    · exact parse_ok h

/-! ### Switches turned on after the check -/

/-- **A checked logging section with its switches turned on** is valid unless an unsound queue stands behind the
switch. -/
theorem Logging.valid_applyLogging_iff (h : l.Valid) (logAsync logImmediateFlush : Bool) :
    (Overrides.applyLogging logAsync logImmediateFlush l).Valid ↔ (logAsync = true → l.async.Sound) := by
  unfold Logging.Valid Logging.problems at h ⊢
  rw [List.append_eq_nil_iff, AsyncOutput.problems_eq_nil_iff] at h ⊢
  obtain ⟨hrest, hqueue⟩ := h
  -- nothing but the queue looks at a switch
  have hsame : ((Overrides.applyLogging logAsync logImmediateFlush l).async.enabled = true → l.async.Sound) ↔
      (logAsync = true → l.async.Sound) := by
    show ((l.async.enabled || logAsync) = true → l.async.Sound) ↔ _
    rw [Bool.or_eq_true]
    exact ⟨fun hon hlog => hon (Or.inr hlog), fun hon hor => hor.elim hqueue hon⟩
  exact ⟨fun hall => hsame.1 hall.2, fun hon => ⟨hrest, hsame.2 hon⟩⟩

/-- **Checked settings with overrides** are valid unless a switch that is turned on has something unsound behind
it. -/
theorem valid_apply_iff (h : s.Valid) :
    (o.apply s).Valid ↔
      (o.enableHttps = true → s.https.Named) ∧ (o.logAsync = true → s.logging.async.Sound) := by
  unfold Settings.Valid problems at h
  rw [List.append_eq_nil_iff, List.append_eq_nil_iff, Https.problems_eq_nil_iff] at h
  obtain ⟨⟨hrest, hhttps⟩, hlogging⟩ := h
  have hlog := Logging.valid_applyLogging_iff hlogging o.logAsync o.logImmediateFlush
  have htls : ((o.apply s).https.enabled = true → s.https.Named) ↔ (o.enableHttps = true → s.https.Named) := by
    show ((s.https.enabled || o.enableHttps) = true → s.https.Named) ↔ _
    rw [Bool.or_eq_true]
    exact ⟨fun hon ho => hon (Or.inr ho), fun hon hor => hor.elim hhttps hon⟩
  unfold Settings.Valid problems
  rw [List.append_eq_nil_iff, List.append_eq_nil_iff, Https.problems_eq_nil_iff]
  constructor
  · rintro ⟨⟨-, hon⟩, hvalid⟩
    exact ⟨htls.1 hon, hlog.1 hvalid⟩
  · rintro ⟨hon, hvalid⟩
    exact ⟨⟨hrest, htls.2 hon⟩, hlog.2 hvalid⟩

/-! ### The watched file -/

/-- What a content of the watched file sends: its logging section with the switches in effect, if that is
another. -/
theorem reload_sent_iff :
    (reload current loaded).sent = some l ↔
      ∃ new, loaded = .ok new ∧ l = keepSwitches current.logging new.logging ∧ ¬ l.Same current.logging := by
  unfold reload loggingUpdate?
  cases loaded with
  | error e => simp
  | ok new =>
    by_cases hsame : (keepSwitches current.logging new.logging).Same current.logging
    · simp only [hsame, if_true, Except.ok.injEq]
      constructor
      · exact nofun
      · rintro ⟨_, rfl, rfl, hne⟩
        exact absurd hsame hne
    · simp only [hsame, if_false, Option.some.injEq, Except.ok.injEq]
      constructor
      · rintro rfl
        exact ⟨new, rfl, rfl, hsame⟩
      · rintro ⟨_, rfl, rfl, -⟩
        rfl

/-- What is in effect after a content of the watched file. -/
theorem reload_current_logging (hl : loaded = .ok new) :
    (reload current loaded).current.logging.Same (keepSwitches current.logging new.logging) := by
  subst hl
  unfold reload loggingUpdate?
  by_cases hsame : (keepSwitches current.logging new.logging).Same current.logging
  · simp only [hsame, if_true]
    exact Logging.same_equivalence.symm hsame
  · simp only [hsame, if_false]
    exact Logging.same_equivalence.refl _

/-- Switches that were kept are kept already. -/
theorem keepSwitches_keepSwitches (current new : Logging) :
    keepSwitches (keepSwitches current new) new = keepSwitches current new := by
  unfold keepSwitches Overrides.applyLogging
  cases new.async.enabled <;> cases new.file.immediateFlush <;> simp

/-- A content that says what is in effect sends nothing. -/
theorem reload_of_keeps (h : (keepSwitches current.logging new.logging).Same current.logging) :
    (reload current (.ok new)).current = current ∧ (reload current (.ok new)).sent = none := by
  unfold reload loggingUpdate?
  simp [h]

/-- **A content says what is in effect** once it was taken into effect. -/
theorem keeps_reload (hl : loaded = .ok new) :
    (keepSwitches (reload current loaded).current.logging new.logging).Same
    (reload current loaded).current.logging := by
  subst hl
  unfold reload loggingUpdate?
  by_cases hsame : (keepSwitches current.logging new.logging).Same current.logging
  · simp only [hsame, if_true]
  · simp only [hsame, if_false]
    rw [keepSwitches_keepSwitches]
    exact Logging.same_equivalence.refl _

theorem reload_error {e : LoadError} : (reload current (.error e)).current = current := rfl

/-- **The queue stays on**: it is in effect after a content if it was before, or if the content turns it on. -/
theorem enabled_reload_iff :
    (reload current (load toml d path)).current.logging.async.enabled = true ↔
      current.logging.async.enabled = true ∨ TurnsOn toml path d := by
  unfold TurnsOn
  cases hload : load toml d path with
  | error e => simp [reload_error]
  | ok new =>
    rw [(reload_current_logging rfl).async]
    show (new.logging.async.enabled || current.logging.async.enabled) = true ↔ _
    simp [or_comm]

theorem enabled_effective_iff :
    (effective toml path current ds).logging.async.enabled = true ↔
      current.logging.async.enabled = true ∨ ∃ d ∈ ds, TurnsOn toml path d := by
  induction ds generalizing current with
  | nil => simp [effective]
  | cons d ds ih =>
    show (effective toml path (reload current (load toml d path)).current ds).logging.async.enabled = true ↔ _
    rw [ih, enabled_reload_iff]
    simp [or_assoc]

/-- What is sent for one content is valid unless it has an unsound queue while the queue is in effect. -/
theorem valid_of_reload_iff :
    (∀ l, (reload current (load toml d path)).sent = some l → l.Valid) ↔
      ∀ new, load toml d path = .ok new → current.logging.async.enabled = true →
        new.logging.async.Sound ∨ (keepSwitches current.logging new.logging).Same current.logging := by
  have hvalid {new : Settings} (hload : load toml d path = .ok new) :
      (keepSwitches current.logging new.logging).Valid ↔
        (current.logging.async.enabled = true → new.logging.async.Sound) := by
    have hlogging : new.logging.Valid := (List.append_eq_nil_iff.1 (load_ok hload)).2
    exact Logging.valid_applyLogging_iff hlogging _ _
  constructor
  · intro hall new hload hon
    by_cases hsame : (keepSwitches current.logging new.logging).Same current.logging
    · exact Or.inr hsame
    · exact Or.inl ((hvalid hload).1 (hall _ (reload_sent_iff.2 ⟨new, hload, rfl, hsame⟩)) hon)
  · intro hsound l hsent
    obtain ⟨new, hload, rfl, hne⟩ := reload_sent_iff.1 hsent
    exact (hvalid hload).2 fun hon => (hsound new hload hon).resolve_right hne

/-- A property of every place in a list, by the first place and the others. -/
theorem forall_split_cons {α : Type} {P : List α → α → Prop} {a : α} {as : List α} :
    (∀ before b after, a :: as = before ++ b :: after → P before b) ↔
      P [] a ∧ ∀ before b after, as = before ++ b :: after → P (a :: before) b := by
  constructor
  · intro hall
    refine ⟨hall [] a as rfl, fun before b after heq => hall (a :: before) b after ?_⟩
    rw [heq, List.cons_append]
  · rintro ⟨hfirst, hrest⟩ before b after heq
    cases before with
    | nil =>
      obtain ⟨rfl, rfl⟩ := List.cons.inj heq
      exact hfirst
    | cons c before =>
      obtain ⟨rfl, hrest'⟩ := List.cons.inj heq
      exact hrest before b after hrest'

/-- **What is sent is valid** exactly as long as no content with an unsound queue is sent while the queue is in
effect. -/
theorem valid_of_sent_iff :
    (∀ l ∈ sent toml path current ds, l.Valid) ↔
      ∀ before d after, ds = before ++ d :: after → ∀ new, load toml d path = .ok new →
        (effective toml path current before).logging.async.enabled = true → new.logging.async.Sound ∨
          (keepSwitches (effective toml path current before).logging new.logging).Same
            (effective toml path current before).logging := by
  induction ds generalizing current with
  | nil => simp [sent]
  | cons d ds ih =>
    rw [forall_split_cons, sent, List.forall_mem_append, ih]
    refine and_congr ?_ Iff.rfl
    rw [← valid_of_reload_iff]
    simp only [Option.mem_toList]
    exact Iff.rfl

/-- **When settings in effect are valid.** The defaults are, whatever overrides them. Settings that were read are,
with overrides, exactly if nothing unsound stands behind a switch that the overrides turn on. And every logging
section that is sent for the watched file is, whatever was in effect at first and whatever the contents, exactly
if no content that is sent has an unsound queue after the queue was turned on, at the start or by a content
before. -/
theorem valid_in_effect_iff (toml : Toml.Reader) (o : Overrides) (path : String) (current : Settings)
    (ds : List Disk) :
    (o.apply {}).Valid ∧
    (∀ text s, parse toml text = .ok s → ((o.apply s).Valid ↔
      (o.enableHttps = true → s.https.Named) ∧ (o.logAsync = true → s.logging.async.Sound))) ∧
    ((∀ l ∈ sent toml path current ds, l.Valid) ↔
      ∀ before d after, ds = before ++ d :: after → ∀ new, load toml d path = .ok new →
        (current.logging.async.enabled = true ∨ ∃ d' ∈ before, TurnsOn toml path d') → new.logging.async.Sound ∨
          (keepSwitches (effective toml path current before).logging new.logging).Same
            (effective toml path current before).logging) := by
  refine ⟨?_, fun text s hparse => valid_apply_iff (parse_ok hparse), ?_⟩
  · have hvalid : ({} : Settings).Valid := by decide +kernel
    refine (valid_apply_iff hvalid).2 ⟨fun _ => ⟨by decide, by decide⟩, fun _ => by decide⟩
  · rw [valid_of_sent_iff]
    simp only [enabled_effective_iff]

/-- **Settings in effect are not always valid.** A file may name no certificate and a queue without a slot as long
as both are turned off. The overrides turn them on, and the same queue is sent to a host that runs with its queue
on. -/
theorem invalid_in_effect :
    let toml := Toml.Document.parse?
    let text := "[https]\ncert_path = \"\"\n[logging.async]\nqueue_size = 0\n"
    let s : Settings := { https := { certPath := "" }, logging := { async := { queueSize := 0 } } }
    let d := Disk.empty.place "plughost.toml" (.file (Text.Utf8.encode text))
    parse toml text = .ok s ∧ ¬ (({ enableHttps := true } : Overrides).apply s).Valid ∧
      ¬ (({ logAsync := true } : Overrides).apply s).Valid ∧
      ∃ l ∈ sent toml "plughost.toml" (({ logAsync := true } : Overrides).apply {}) [d], ¬ l.Valid := by
  intro toml text s d
  have hread : parse toml text = .ok s := by decide +kernel
  have hhttps : ¬ (({ enableHttps := true } : Overrides).apply s).Valid := by decide +kernel
  have hqueue : ¬ (({ logAsync := true } : Overrides).apply s).Valid := by decide +kernel
  have hsent : sent toml "plughost.toml" (({ logAsync := true } : Overrides).apply {}) [d] =
      [{ async := { enabled := true, queueSize := 0 } }] := by
    decide +kernel
  refine ⟨hread, hhttps, hqueue, { async := { enabled := true, queueSize := 0 } }, ?_, by decide +kernel⟩
  rw [hsent]
  exact List.mem_singleton_self _

end ModuleHost.Settings
