import ModuleHost.Logging.Registry

/-!
# Loggers in built and in edited trees

A tree is built from the settings and the owners, or edited claim by claim. In both cases every look-up
is known.

* `Registry.logger?_attach`, `Registry.logger?_detach`: an edit changes the claimed categories only.
* `Registry.logger?_builtTree_of_mem`, `Registry.logger?_builtTree_of_free`: a built tree has the owners'
  loggers, and elsewhere those of the settings.
-/

namespace ModuleHost

/-- Steps that each give one name its value, one after another. -/
theorem look_foldl {σ β : Type} {look : σ → String → Option β} {f : σ → String → σ}
    {v : String → Option β}
    (hf : ∀ t n x, look (f t n) x = if n = x then v x else look t x) (x : String) :
    ∀ (ns : List String) (t : σ),
      look (ns.foldl f t) x = if x ∈ ns then v x else look t x := by
  intro ns
  induction ns with
  | nil => intro t; simp
  | cons n ns ih =>
    intro t
    rw [List.foldl_cons, ih, hf]
    by_cases hx : x ∈ ns
    · simp [hx]
    · by_cases hn : n = x
      · simp [hn]
      · simp [hx, hn, Ne.symm hn]

namespace LoggerTree

@[simp]
theorem logger?_insert (t : LoggerTree) (name x : String) (node : LoggerNode) :
    (t.insert name node).logger? x = if name = x then some node else t.logger? x :=
  Table.get?_insert t.loggers name x node

@[simp]
theorem logger?_remove (t : LoggerTree) (name x : String) :
    (t.remove name).logger? x = if name = x then none else t.logger? x :=
  Table.get?_erase t.loggers name x

/-- Loggers put in one after another: the last of a name counts. -/
theorem logger?_foldl_insert {α : Type} (key : α → String) (node : α → LoggerNode) (x : String) :
    ∀ (as : List α) (t : LoggerTree),
      (as.foldl (fun t a => t.insert (key a) (node a)) t).logger? x =
        ((as.reverse.find? (fun a => key a == x)).map node).or (t.logger? x) := by
  intro as
  induction as with
  | nil => intro t; simp
  | cons a as ih =>
    intro t
    rw [List.foldl_cons, ih, List.reverse_cons, List.find?_append]
    cases as.reverse.find? (fun a => key a == x) with
    | some b => simp
    | none => by_cases ha : key a = x <;> simp [ha]

/-- Loggers put in leave the root and the outputs alone. -/
theorem rootLevel_foldl_insert {α : Type} (key : α → String) (node : α → LoggerNode) :
    ∀ (as : List α) (t : LoggerTree),
      (as.foldl (fun t a => t.insert (key a) (node a)) t).rootLevel = t.rootLevel ∧
        (as.foldl (fun t a => t.insert (key a) (node a)) t).attached = t.attached := by
  intro as
  induction as with
  | nil => intro t; exact ⟨rfl, rfl⟩
  | cons a as ih => intro t; exact ih (t.insert (key a) (node a))

end LoggerTree

namespace Registry

variable {config : Settings.Logging} {owners : List Claim} {c : Claim} {x : String}

/-! ### Edits -/

/-- **Attaching** gives the claimed categories the claim's logger. -/
theorem logger?_attach (t : LoggerTree) (c : Claim) (x : String) :
    (attach t c).logger? x = if x ∈ c.categories.names then some c.node else t.logger? x :=
  look_foldl (v := fun _ => some c.node) (fun t n x => LoggerTree.logger?_insert t n x c.node) x _ t

/-- The logger of the settings that takes the place of a released category: the first of that name. -/
def restored? (config : Settings.Logging) (x : String) : Option LoggerNode :=
  (config.loggers.find? (fun l => hostName l == x)).map hostNode

theorem logger?_detachName (t : LoggerTree) (name x : String) :
    (detachName config t name).logger? x = if name = x then restored? config x else t.logger? x := by
  unfold detachName restored?
  by_cases hn : name = x
  · subst hn
    split
    · rename_i l hl
      simp [hl]
    · rename_i hl
      simp [hl]
  · split <;> simp [hn]

/-- **Detaching** gives the claimed categories back to the settings. -/
theorem logger?_detach (t : LoggerTree) (c : Claim) (x : String) :
    (detach config t c).logger? x =
      if x ∈ c.categories.names then restored? config x else t.logger? x :=
  look_foldl (v := restored? config) (fun t n x => logger?_detachName t n x) x _ t

theorem rootLevel_attach (t : LoggerTree) (c : Claim) :
    (attach t c).rootLevel = t.rootLevel ∧ (attach t c).attached = t.attached :=
  LoggerTree.rootLevel_foldl_insert (fun n => n) (fun _ => c.node) _ t

theorem rootLevel_detach (t : LoggerTree) (c : Claim) :
    (detach config t c).rootLevel = t.rootLevel ∧ (detach config t c).attached = t.attached := by
  unfold detach
  induction c.categories.names generalizing t with
  | nil => exact ⟨rfl, rfl⟩
  | cons n ns ih =>
    have hn : (detachName config t n).rootLevel = t.rootLevel ∧
        (detachName config t n).attached = t.attached := by
      unfold detachName
      split <;> exact ⟨rfl, rfl⟩
    rw [List.foldl_cons, (ih _).1, (ih _).2]
    exact hn

/-! ### Built trees -/

/-- The logger of the settings in a new tree: the last of that name. -/
def configured? (config : Settings.Logging) (x : String) : Option LoggerNode :=
  (config.loggers.reverse.find? (fun l => hostName l == x)).map hostNode

theorem logger?_hostTree (config : Settings.Logging) (g : Nat) (x : String) :
    (hostTree config g).logger? x = configured? config x := by
  unfold hostTree configured?
  rw [LoggerTree.logger?_foldl_insert]
  exact Option.or_none

theorem rootLevel_hostTree (config : Settings.Logging) (g : Nat) :
    (hostTree config g).rootLevel = Level.parseOrDebug config.rootLevel ∧
      (hostTree config g).attached = some g :=
  LoggerTree.rootLevel_foldl_insert hostName hostNode _ _

theorem rootLevel_builtTree (config : Settings.Logging) (g : Nat) (owners : List Claim) :
    (builtTree config g owners).rootLevel = Level.parseOrDebug config.rootLevel ∧
      (builtTree config g owners).attached = some g := by
  unfold builtTree
  have h := rootLevel_hostTree config g
  generalize hostTree config g = t at h
  induction owners generalizing t with
  | nil => exact h
  | cons c cs ih =>
    apply ih
    rw [(rootLevel_attach t c).1, (rootLevel_attach t c).2]
    exact h

/-- A category that no claim has keeps its logger when the claims are attached. -/
theorem logger?_foldl_attach_of_free (hx : ∀ c ∈ owners, x ∉ c.categories.names) :
    ∀ t : LoggerTree, (owners.foldl attach t).logger? x = t.logger? x := by
  induction owners with
  | nil => intro t; rfl
  | cons c cs ih =>
    intro t
    rw [List.foldl_cons, ih (fun d hd => hx d (List.mem_cons_of_mem _ hd)), logger?_attach,
      if_neg (hx c List.mem_cons_self)]

/-- Claims without a common category do not cover each other's loggers. -/
theorem logger?_foldl_attach_of_mem
    (hd : owners.Pairwise (fun a b => ∀ x ∈ a.categories.names, x ∉ b.categories.names))
    (hc : c ∈ owners) (hx : x ∈ c.categories.names) :
    ∀ t : LoggerTree, (owners.foldl attach t).logger? x = some c.node := by
  induction owners with
  | nil => simp at hc
  | cons d ds ih =>
    intro t
    obtain ⟨hd1, hd2⟩ := List.pairwise_cons.1 hd
    rw [List.foldl_cons]
    rcases List.mem_cons.1 hc with rfl | hc
    · rw [logger?_foldl_attach_of_free (fun e he => hd1 e he x hx), logger?_attach, if_pos hx]
    · exact ih hd2 hc _

/-- **A built tree has every owner's logger** for each category of the owner. -/
theorem logger?_builtTree_of_mem {g : Nat}
    (hd : owners.Pairwise (fun a b => ∀ x ∈ a.categories.names, x ∉ b.categories.names))
    (hc : c ∈ owners) (hx : x ∈ c.categories.names) :
    (builtTree config g owners).logger? x = some c.node :=
  logger?_foldl_attach_of_mem hd hc hx _

/-- **A built tree has the settings' logger** for a category that nobody owns. -/
theorem logger?_builtTree_of_free {g : Nat} (hx : ∀ c ∈ owners, x ∉ c.categories.names) :
    (builtTree config g owners).logger? x = configured? config x := by
  unfold builtTree
  rw [logger?_foldl_attach_of_free hx, logger?_hostTree]

end Registry

end ModuleHost
