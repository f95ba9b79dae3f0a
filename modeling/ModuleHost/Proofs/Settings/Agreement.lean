import Mathlib
import ModuleHost.Proofs.Http.Verdict
import ModuleHost.Proofs.Logging.Plan
import ModuleHost.Proofs.Registry.Claims
import ModuleHost.Proofs.Registry.Tree
import ModuleHost.Proofs.Settings.InEffect
import ModuleHost.Proofs.Text.Blank

/-!
# Checks and readers agree

Settings are checked once and read again wherever they are used. Every reader has something to fall back on: a
level that cannot be read is `debug`, a size limit that cannot be read is ten megabytes, and a method that cannot
be read is left out. Behind the check nothing of this ever happens.

* `Settings.Logging.valid_iff`, `Settings.Pipeline.problems_eq_nil_iff`: what the check asks for.
* `Http.AllowedMethods.ofName?_eq_some`: a name that is a method as it stands has no blanks to drop.
* `Registry.readTree?`: the tree of the settings, given up at the first level that cannot be read.
* `Registry.Levelled`, `AppenderSet.Sized`, `Http.AllowedMethods.Complete`: what the readers make of the settings.
* `Settings.read_as_checked`: **valid settings are read as they were checked**.
-/

namespace ModuleHost

/-! ### What is checked -/

namespace Settings

/-- A logger that the check accepts. -/
def Logger.Sound (h : Logger) : Prop :=
  Text.trim h.name ≠ "" ∧ (Level.parse? h.level).isSome = true

theorem Logger.problems_eq_nil_iff (index : Nat) (h : Logger) : h.problems index = [] ↔ h.Sound := by
  unfold Logger.problems Logger.Sound
  rw [List.append_eq_nil_iff, reportIf_eq_nil_iff, reportIf_eq_nil_iff, String.isEmpty_eq_false_iff,
    Option.isNone_eq_false_iff]

/-- Where the list begins plays no part. -/
theorem loggerProblems_eq_nil_iff {first : Nat} {hs : List Logger} :
    loggerProblems first hs = [] ↔ ∀ h ∈ hs, h.Sound := by
  induction hs generalizing first with
  | nil => simp [loggerProblems]
  | cons h hs ih =>
    rw [loggerProblems, List.append_eq_nil_iff, Logger.problems_eq_nil_iff, ih, List.forall_mem_cons]

theorem FileOutput.hasBadSize_eq_false_iff {f : FileOutput} :
    f.hasBadSize = false ↔ ∃ n, FileSize.parse? f.maxSize = some n ∧ 0 < n := by
  unfold FileOutput.hasBadSize
  cases FileSize.parse? f.maxSize with
  | none => simp
  | some n => simp [Nat.pos_iff_ne_zero]

/-- **What the check asks of the logging section.** -/
theorem Logging.valid_iff {l : Logging} :
    l.Valid ↔ (Level.parse? l.rootLevel).isSome = true ∧ (∀ h ∈ l.loggers, h.Sound) ∧ l.file.path ≠ "" ∧
      (∃ n, FileSize.parse? l.file.maxSize = some n ∧ 0 < n) ∧ (l.async.enabled = true → l.async.Sound) := by
  unfold Logging.Valid Logging.problems
  simp only [List.append_eq_nil_iff, reportIf_eq_nil_iff, loggerProblems_eq_nil_iff, Option.isNone_eq_false_iff,
    String.isEmpty_eq_false_iff, FileOutput.hasBadSize_eq_false_iff, AsyncOutput.problems_eq_nil_iff, and_assoc]

/-- **What the check asks of the pipeline.** -/
theorem Pipeline.problems_eq_nil_iff {p : Pipeline} :
    p.problems = [] ↔ p.allowedMethods ≠ [] ∧
      (∀ name ∈ p.allowedMethods, (Http.Method.parse? (Text.upper name)).isSome = true) ∧
      0 < p.maxConcurrentRequests := by
  unfold Pipeline.problems
  simp only [List.append_eq_nil_iff, reportIf_eq_nil_iff, List.map_eq_nil_iff, List.filter_eq_nil_iff,
    List.isEmpty_eq_false_iff, and_assoc]
  simp [Nat.pos_iff_ne_zero, Option.isSome_iff_ne_none]

end Settings

/-! ### Methods -/

namespace Http

/-- The characters of a token are ASCII characters that can be seen. -/
theorem visible_of_isTokenChar {c : Char} (h : isTokenChar c = true) : 0x20 < c.toNat ∧ c.toNat < 0x7F := by
  unfold isTokenChar at h
  rw [Bool.or_eq_true, List.contains_iff_mem] at h
  rcases h with halphanum | hsymbol
  · rcases Bool.or_eq_true_iff.1 halphanum with hletter | hdigit
    · have := Text.toNat_of_isAlpha hletter
      omega
    · have := Text.toNat_of_isDigit hdigit
      omega
  · have hall : ("!#$%&'*+-.^_`|~".toList.all fun d => 0x20 < d.toNat && d.toNat < 0x7F) = true := rfl
    simpa using List.all_eq_true.1 hall c hsymbol

/-- **A blank does not become a token character** when letters become capitals. -/
theorem isBlank_eq_false_of_toUpper {c : Char} (h : isTokenChar c.toUpper = true) : Text.isBlank c = false := by
  by_cases hlower : c.isLower = true
  · exact Text.isBlank_eq_false_of_isAlpha (by simp [Char.isAlpha, hlower])
  · rw [Char.toUpper_eq_of_not_isLower hlower] at h
    obtain ⟨hlow, hhigh⟩ := visible_of_isTokenChar h
    exact Text.isBlank_eq_false_of_visible hlow hhigh

theorem Method.parse?_eq_some_iff {text : String} {m : Method} :
    parse? text = some m ↔ text ≠ "" ∧ (∀ c ∈ text.toList, isTokenChar c = true) ∧ m = ⟨text⟩ := by
  unfold parse?
  rw [← List.all_eq_true, ← String.isEmpty_eq_false_iff]
  cases text.isEmpty <;> cases text.toList.all isTokenChar <;> simp [eq_comm]

namespace AllowedMethods

/-- **A name that is a method as it stands** is read as that method: it has no blanks to drop. -/
theorem ofName?_eq_some {name : String} {m : Method} (h : Method.parse? (Text.upper name) = some m) :
    ofName? name = some m := by
  obtain ⟨-, htoken, -⟩ := Method.parse?_eq_some_iff.1 h
  have hblank : ∀ c ∈ name.toList, Text.isBlank c = false := by
    intro c hc
    refine isBlank_eq_false_of_toUpper (htoken c.toUpper ?_)
    rw [Text.upper, String.toList_map]
    exact List.mem_map_of_mem hc
  have htrim : Text.trim name = name := by
    rw [Text.trim, Text.trimChars_of_no_blank hblank, String.ofList_toList]
  rw [ofName?, htrim, h]

/-- The check is the stricter of the two: it minds the blanks that the reader drops. -/
example : Method.parse? (Text.upper " post ") = none ∧ ofName? " post " = some ⟨"POST"⟩ := by
  decide +kernel

/-- **The set has all that the names say**: no name is skipped, each method is there once under its name in
capitals, and the text of the header can be sent. -/
structure Complete (names : List String) (a : AllowedMethods) : Prop where
  none_skipped : refusedNames names = []
  ne_nil : a.methods ≠ []
  mem_iff : ∀ m, m ∈ a.methods ↔ ∃ name ∈ names, m.text = Text.upper name
  nodup : (a.methods.map (·.text)).Nodup
  header : a.headerText = String.intercalate ", " (a.methods.map (·.text))
  /-- All of the text is ASCII that can be seen, or the blank between two methods. -/
  visible : ∀ c ∈ a.headerText.toList, 0x20 ≤ c.toNat ∧ c.toNat < 0x7F
  sendable : isHeaderValue a.headerText = true

/-- What texts with something between them are made of. -/
theorem mem_intercalate {c : Char} {sep : List Char} {ls : List (List Char)} (h : c ∈ sep.intercalate ls) :
    c ∈ sep ∨ ∃ l ∈ ls, c ∈ l := by
  induction ls with
  | nil => simp [List.intercalate] at h
  | cons l ls ih =>
    cases ls with
    | nil =>
      rw [List.intercalate_singleton] at h
      exact Or.inr ⟨l, List.mem_singleton_self l, h⟩
    | cons l' ls =>
      rw [List.intercalate_cons_cons, List.mem_append, List.mem_append] at h
      rcases h with (hl | hsep) | hrest
      · exact Or.inr ⟨l, List.mem_cons_self, hl⟩
      · exact Or.inl hsep
      · rcases ih hrest with hsep | ⟨l'', hmem, hc⟩
        · exact Or.inl hsep
        · exact Or.inr ⟨l'', List.mem_cons_of_mem l hmem, hc⟩

/-- **Names that the check accepts** are all in the set, and in the header. -/
theorem complete_ofNames {names : List String} (hnames : names ≠ [])
    (hparse : ∀ name ∈ names, (Method.parse? (Text.upper name)).isSome = true) :
    Complete names (ofNames names) := by
  have hread : ∀ name ∈ names, ofName? name = some ⟨Text.upper name⟩ := by
    intro name hname
    obtain ⟨m, hm⟩ := Option.isSome_iff_exists.1 (hparse name hname)
    obtain ⟨-, -, rfl⟩ := Method.parse?_eq_some_iff.1 hm
    exact ofName?_eq_some hm
  have hmem : ∀ m, m ∈ (ofNames names).methods ↔ ∃ name ∈ names, m.text = Text.upper name := by
    intro m
    have hallows : m ∈ (ofNames names).methods ↔ (ofNames names).allows m = true := (decide_eq_true_iff).symm
    rw [hallows, allows_ofNames_iff]
    refine exists_congr fun name => and_congr_right fun hname => ?_
    rw [hread name hname, Option.some.injEq]
    constructor
    · rintro rfl
      rfl
    · intro htext
      cases m
      exact congrArg Method.mk htext.symm
  have htoken : ∀ m ∈ (ofNames names).methods, ∀ c ∈ m.text.toList, isTokenChar c = true := by
    intro m hm
    obtain ⟨name, hname, htext⟩ := (hmem m).1 hm
    obtain ⟨m', hm'⟩ := Option.isSome_iff_exists.1 (hparse name hname)
    rw [htext]
    exact (Method.parse?_eq_some_iff.1 hm').2.1
  have hvisible : ∀ c ∈ (ofNames names).headerText.toList, 0x20 ≤ c.toNat ∧ c.toNat < 0x7F := by
    intro c hc
    rw [headerText, String.toList_intercalate] at hc
    rcases mem_intercalate hc with hsep | ⟨l, hl, hcl⟩
    · have hsep : c = ',' ∨ c = ' ' := by simpa using hsep
      rcases hsep with rfl | rfl <;> decide
    · rw [List.map_map, List.mem_map] at hl
      obtain ⟨m, hm, rfl⟩ := hl
      have hc := visible_of_isTokenChar (htoken m hm c hcl)
      exact ⟨hc.1.le, hc.2⟩
  refine ⟨?_, ?_, hmem, ?_, rfl, hvisible, ?_⟩
  · rw [refusedNames, List.filter_eq_nil_iff]
    intro name hname
    simp [hread name hname]
  · obtain ⟨name, hname⟩ := List.exists_mem_of_ne_nil names hnames
    exact List.ne_nil_of_mem ((hmem ⟨Text.upper name⟩).2 ⟨name, hname, rfl⟩)
  · refine (nodup_foldl_addName names List.nodup_nil).map fun m m' htext => ?_
    cases m
    exact congrArg Method.mk htext
  · unfold isHeaderValue
    rw [List.all_eq_true]
    intro c hc
    obtain ⟨hlow, hhigh⟩ := hvisible c hc
    simp [isHeaderChar, hlow, hhigh.ne]

end AllowedMethods

end Http

/-! ### Levels -/

namespace Registry

variable {r r' : Registry} {l : Settings.Logging} {owners : List Claim} {m m' : Machine}

/-- **The tree of the settings, read with nothing to fall back on**: it is given up at the first level that cannot
be read. -/
def readTree? (l : Settings.Logging) (generation : Nat) : Option LoggerTree := do
  let root ← Level.parse? l.rootLevel
  l.loggers.foldlM (fun t h => do
    let level ← Level.parse? h.level
    return t.insert (hostName h) ⟨level, h.additive⟩) { rootLevel := root, attached := some generation }

/-- **A tree has the levels of the settings**, and those of the owners over them. -/
structure Levelled (l : Settings.Logging) (owners : List Claim) (generation : Nat) (t : LoggerTree) : Prop where
  /-- No level falls back. -/
  read : ∃ host, readTree? l generation = some host ∧ t = owners.foldl attach host
  root : Level.parse? l.rootLevel = some t.rootLevel
  named : ∀ h ∈ l.loggers, hostName h ≠ "" ∧ (t.logger? (hostName h)).isSome = true
  /-- A logger has its level, unless another of its name comes later or an owner has the name. -/
  level : ∀ before h after, l.loggers = before ++ h :: after → (∀ h' ∈ after, hostName h' ≠ hostName h) →
    (∀ c ∈ owners, hostName h ∉ c.categories.names) →
    ∃ level, Level.parse? h.level = some level ∧ t.logger? (hostName h) = some ⟨level, h.additive⟩

/-- A level that can be read is that of the logger. -/
theorem hostNode_of_sound {h : Settings.Logger} (hs : h.Sound) :
    ∃ level, Level.parse? h.level = some level ∧ hostNode h = ⟨level, h.additive⟩ := by
  obtain ⟨level, hlevel⟩ := Option.isSome_iff_exists.1 hs.2
  refine ⟨level, hlevel, ?_⟩
  rw [hostNode, Level.parseOrDebug, hlevel, Option.getD_some]

/-- **Where every level can be read**, the tree of the settings is that without anything to fall back on. -/
theorem readTree?_eq_hostTree (hl : l.Valid) (g : Nat) : readTree? l g = some (hostTree l g) := by
  obtain ⟨hroot, hloggers, -⟩ := Settings.Logging.valid_iff.1 hl
  obtain ⟨root, hroot⟩ := Option.isSome_iff_exists.1 hroot
  unfold readTree? hostTree
  rw [hroot, Level.parseOrDebug, hroot, Option.getD_some, Option.bind_eq_bind, Option.bind_some]
  generalize ({ rootLevel := root, attached := some g } : LoggerTree) = t
  generalize l.loggers = hs at hloggers
  induction hs generalizing t with
  | nil => rfl
  | cons h hs ih =>
    obtain ⟨hh, hhs⟩ := List.forall_mem_cons.1 hloggers
    obtain ⟨level, hlevel, hnode⟩ := hostNode_of_sound hh
    rw [List.foldlM_cons, hlevel, List.foldl_cons, hnode]
    exact ih _ hhs

/-- A name with a logger keeps one when claims are attached. -/
theorem isSome_logger?_foldl_attach {x : String} {t : LoggerTree} (ht : (t.logger? x).isSome = true) :
    ((owners.foldl attach t).logger? x).isSome = true := by
  induction owners generalizing t with
  | nil => exact ht
  | cons c cs ih =>
    refine ih ?_
    rw [logger?_attach]
    split
    · rfl
    · exact ht

theorem levelled_builtTree (hl : l.Valid) (owners : List Claim) (g : Nat) :
    Levelled l owners g (builtTree l g owners) := by
  obtain ⟨hroot, hloggers, -⟩ := Settings.Logging.valid_iff.1 hl
  refine ⟨⟨hostTree l g, readTree?_eq_hostTree hl g, rfl⟩, ?_, fun h hh => ⟨(hloggers h hh).1, ?_⟩, ?_⟩
  · obtain ⟨root, hroot⟩ := Option.isSome_iff_exists.1 hroot
    rw [(rootLevel_builtTree l g owners).1, Level.parseOrDebug, hroot, Option.getD_some]
  · refine isSome_logger?_foldl_attach ?_
    rw [logger?_hostTree, configured?, Option.isSome_map, List.find?_isSome]
    exact ⟨h, List.mem_reverse.2 hh, beq_self_eq_true _⟩
  · intro before h after heq hlast hfree
    have hh : h ∈ l.loggers := by
      rw [heq]
      exact List.mem_append_right before List.mem_cons_self
    obtain ⟨level, hlevel, hnode⟩ := hostNode_of_sound (hloggers h hh)
    refine ⟨level, hlevel, ?_⟩
    -- the last of the name is the first from the end
    have hafter : after.reverse.find? (fun h' => hostName h' == hostName h) = none := by
      rw [List.find?_eq_none]
      intro h' hh'
      simpa using hlast h' (List.mem_reverse.1 hh')
    rw [logger?_builtTree_of_free hfree, configured?, heq, List.reverse_append, List.reverse_cons,
      List.append_assoc, List.find?_append, hafter, Option.none_or]
    simp [hnode]

/-- **New outputs come with the levels of the settings.** -/
theorem levelled_rebuild (hl : r.config.Valid) (h : r.rebuild m = (.ok r', m')) :
    Levelled r.config r.owners r'.generation r'.tree := by
  obtain ⟨hb, -⟩ := rebuild_ok h
  rw [hb.tree, hb.generation]
  exact levelled_builtTree hl r.owners (r.generation + 1)

end Registry

/-! ### Sizes -/

namespace AppenderSet

/-- **Outputs have the sizes of the settings.** -/
structure Sized (l : Settings.Logging) (a : AppenderSet) : Prop where
  maxSize : FileSize.parse? l.file.maxSize = some a.file.policy.maxSize
  pos : 0 < a.file.policy.maxSize
  /-- A queue has the slots that the settings say, at least one, and does not keep more of them free than there
  are. -/
  queue : l.async.enabled = true → ∃ q, a.queue = some q ∧ q.capacity = l.async.queueSize ∧
    q.discardThreshold = l.async.discardThreshold ∧ 0 < q.capacity ∧ q.discardThreshold ≤ q.capacity

theorem sized_build {l : Settings.Logging} {a : AppenderSet} {g : Nat} {m m' : Machine} (hl : l.Valid)
    (h : build l g m = (.ok a, m')) : a.Sized l := by
  obtain ⟨-, -, -, ⟨n, hsize, hn⟩, hsound⟩ := Settings.Logging.valid_iff.1 hl
  obtain ⟨d, hopen, -, hqueue, -, -⟩ := build_ok h
  obtain ⟨-, -, -, hpolicy, -⟩ := RollingFile.settled_openAt hopen
  have hmax : a.file.policy.maxSize = n := by
    rw [hpolicy, policyOf, hsize, Option.getD_some]
  refine ⟨hmax ▸ hsize, hmax ▸ hn, fun hon => ?_⟩
  obtain ⟨hslots, hthreshold⟩ := hsound hon
  have hcapacity : (LogQueue.ofSettings l.async.queueSize l.async.discardThreshold).capacity =
      l.async.queueSize := by
    show max l.async.queueSize 1 = l.async.queueSize
    omega
  rw [hon, if_pos rfl] at hqueue
  refine ⟨_, hqueue, hcapacity, rfl, ?_, ?_⟩
  · rw [hcapacity]
    exact hslots
  · rw [hcapacity]
    exact hthreshold

end AppenderSet

/-- **Valid settings are read as they were checked.** Whatever the registry stood at, a rebuild gives the root and
the loggers of the settings the levels that their names stand for, each logger under a name; new outputs have the
size limit and the queue that the settings say; and the methods are all there, in the set and in the text of the
header. -/
theorem Settings.read_as_checked {s : Settings} (hs : s.Valid) :
    (∀ (r r' : Registry) (m m' : Machine), r.config = s.logging → r.rebuild m = (.ok r', m') →
      Registry.Levelled s.logging r.owners r'.generation r'.tree) ∧
    (∀ (g : Nat) (a : AppenderSet) (m m' : Machine), AppenderSet.build s.logging g m = (.ok a, m') →
      a.Sized s.logging) ∧
    Http.AllowedMethods.Complete s.pipeline.allowedMethods (.ofNames s.pipeline.allowedMethods) := by
  unfold Settings.Valid Settings.problems at hs
  simp only [List.append_eq_nil_iff, Settings.Pipeline.problems_eq_nil_iff] at hs
  obtain ⟨⟨⟨⟨-, hnames, hparse, -⟩, -⟩, -⟩, hlogging⟩ := hs
  refine ⟨?_, fun g a m m' h => AppenderSet.sized_build hlogging h, ?_⟩
  · intro r r' m m' hconfig h
    rw [← hconfig] at hlogging ⊢
    exact Registry.levelled_rebuild hlogging h
  · exact Http.AllowedMethods.complete_ofNames hnames hparse

/-- A size with a blank in it, a queue of four slots, a logger with blanks around its name, and a method named
twice. -/
theorem Settings.read_as_checked_small_queue :
    let s : Settings := {
      pipeline := { allowedMethods := ["get", "Post", "GET"] }
      logging := {
        rootLevel := " Warning "
        file := { path := "host.log", maxSize := "64 kb" }
        async := { enabled := true, queueSize := 4, discardThreshold := 4 }
        loggers := [⟨" app ", "TRACE", false⟩] } }
    let r := Registry.new s.logging
    let m : Machine := { now := ⟨1792231200, 0, 0⟩, fileTime := ⟨1792231200, 0, 0⟩ }
    s.Valid ∧
    (∃ r' m', r.rebuild m = (.ok r', m') ∧ Registry.Levelled s.logging [] r'.generation r'.tree) ∧
    (∃ a m', AppenderSet.build s.logging 1 m = (.ok a, m') ∧ a.Sized s.logging) ∧
    Http.AllowedMethods.Complete ["get", "Post", "GET"] ⟨[⟨"GET"⟩, ⟨"POST"⟩]⟩ := by
  intro s r m
  have hs : s.Valid := by decide +kernel
  have hrebuild : (r.rebuild m).1.toOption.isSome = true := by decide +kernel
  have hbuild : (AppenderSet.build s.logging 1 m).1.toOption.isSome = true := by decide +kernel
  have hmethods : Http.AllowedMethods.ofNames ["get", "Post", "GET"] = ⟨[⟨"GET"⟩, ⟨"POST"⟩]⟩ := by cbv
  obtain ⟨r', hr'⟩ := Option.isSome_iff_exists.1 hrebuild
  obtain ⟨a, ha⟩ := Option.isSome_iff_exists.1 hbuild
  have hrebuild : r.rebuild m = (.ok r', (r.rebuild m).2) := Prod.ext (Track.ok_of_toOption hr') rfl
  have hbuild : AppenderSet.build s.logging 1 m = (.ok a, (AppenderSet.build s.logging 1 m).2) :=
    Prod.ext (Track.ok_of_toOption ha) rfl
  obtain ⟨hlevels, hsizes, hcomplete⟩ := read_as_checked hs
  have hcomplete : Http.AllowedMethods.Complete ["get", "Post", "GET"] _ := hcomplete
  rw [hmethods] at hcomplete
  exact ⟨hs, ⟨r', _, hrebuild, hlevels r r' m _ rfl hrebuild⟩, ⟨a, _, hbuild, hsizes 1 a m _ hbuild⟩, hcomplete⟩

end ModuleHost
