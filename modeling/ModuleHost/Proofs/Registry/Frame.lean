import ModuleHost.Logging.Logbook

/-!
# What records leave alone

A record changes what the outputs hold and nothing else of a registry: who owns what, the settings,
the live tree and which outputs are stopped stay as they are. On the machine it changes files, the two
streams and the count of records that were shed.

* `Registry.Alike`: two registries that differ in their outputs at most.
* `Registry.Untouched`: the same, with no output stopped or taken up again.
* `AppenderSet.Fixed`: what a record changes of no outputs. `Registry.SameView`: the same outputs as far as a view
  of them shows.
* `Machine.Recorded`: two machines that differ by records at most.
* `Logbook.emit_untouched`, `Logbook.recorded_emit`: an event, whatever it is and wherever it goes, leaves the
  registry untouched, and the machine up to records.
-/

namespace ModuleHost

/-- **The same registry up to its outputs.** -/
structure Registry.Alike (r r' : Registry) : Prop where
  state : r'.state = r.state
  owners : r'.owners = r.owners
  byCategory : r'.byCategory = r.byCategory
  config : r'.config = r.config
  generation : r'.generation = r.generation
  tree : r'.tree = r.tree

/-- **The same registry up to what its outputs hold.** Those of each generation are there if they were
there before, and stopped if they were stopped before. -/
structure Registry.Untouched (r r' : Registry) : Prop extends Alike r r' where
  stopped : ∀ g, (r'.set? g).map (·.stopped) = (r.set? g).map (·.stopped)

namespace Registry

variable {r r' r'' : Registry}

theorem Alike.refl (r : Registry) : Alike r r := ⟨rfl, rfl, rfl, rfl, rfl, rfl⟩

theorem Alike.symm (h : Alike r r') : Alike r' r :=
  ⟨h.state.symm, h.owners.symm, h.byCategory.symm, h.config.symm, h.generation.symm, h.tree.symm⟩

theorem Alike.trans (h : Alike r r') (h' : Alike r' r'') : Alike r r'' :=
  ⟨h'.state.trans h.state, h'.owners.trans h.owners, h'.byCategory.trans h.byCategory,
    h'.config.trans h.config, h'.generation.trans h.generation, h'.tree.trans h.tree⟩

theorem Untouched.refl (r : Registry) : Untouched r r := ⟨Alike.refl r, fun _ => rfl⟩

theorem Untouched.trans (h : Untouched r r') (h' : Untouched r' r'') : Untouched r r'' :=
  ⟨h.toAlike.trans h'.toAlike, fun g => (h'.stopped g).trans (h.stopped g)⟩

theorem generation_of_set? {g : Nat} {a : AppenderSet} (h : r.set? g = some a) : a.generation = g := by
  have := List.find?_some h
  simpa using this

/-- Putting outputs in their place is seen in their generation only. -/
theorem set?_putSet (r : Registry) (a : AppenderSet) (g : Nat) :
    (r.putSet a).set? g = if a.generation = g then (r.set? g).map (fun _ => a) else r.set? g := by
  unfold set? putSet
  simp only
  induction r.sets with
  | nil => simp
  | cons b bs ih =>
    rw [List.map_cons, List.find?_cons, List.find?_cons, ih]
    by_cases hb : b.generation = a.generation
    · by_cases hg : a.generation = g
      · simp [hb, hg]
      · simp [hb, hg, beq_eq_false_iff_ne.2 hg]
    · by_cases hg : a.generation = g
      · have hbg : ¬ b.generation = g := fun h => hb (h.trans hg.symm)
        simp [hg, beq_eq_false_iff_ne.2 hbg]
      · simp [hb, hg]

theorem alike_putSet (r : Registry) (a : AppenderSet) : Alike r (r.putSet a) :=
  ⟨rfl, rfl, rfl, rfl, rfl, rfl⟩

theorem alike_stopSet (r : Registry) (g : Option Nat) (m : Machine) : Alike r (r.stopSet g m).1 := by
  unfold stopSet
  split
  · exact Alike.refl r
  · exact alike_putSet r _

end Registry

/-! ### Records -/

/-- **A view of outputs that no record changes.** -/
structure AppenderSet.Fixed {β : Type} (view : AppenderSet → β) : Prop where
  write : ∀ sink s record a m, view (writeTo a sink s record m).2.1 = view a
  work : ∀ a m, view (work a m).1 = view a

/-- **The same outputs as far as a view of them shows**, generation by generation. -/
def Registry.SameView {β : Type} (view : AppenderSet → β) (r r' : Registry) : Prop :=
  ∀ g, (r'.set? g).map view = (r.set? g).map view

/-- **The same machine up to records**: files, the two streams, the count of records that were shed, and whether
the thread goes on, are all that they change. -/
structure Machine.Recorded (m m' : Machine) : Prop where
  sockets : m'.sockets = m.sockets
  network : m'.network = m.network
  tls : m'.tls = m.tls
  now : m'.now = m.now
  fileTime : m'.fileTime = m.fileTime
  threadRefusal : m'.threadRefusal = m.threadRefusal
  meters : m'.meters = { m.meters with droppedRecords := m'.meters.droppedRecords }

namespace Machine

variable {m m' m'' : Machine}

theorem Recorded.refl (m : Machine) : Recorded m m := ⟨rfl, rfl, rfl, rfl, rfl, rfl, rfl⟩

theorem Recorded.trans (h : Recorded m m') (h' : Recorded m' m'') : Recorded m m'' := by
  refine ⟨h'.sockets.trans h.sockets, h'.network.trans h.network, h'.tls.trans h.tls, h'.now.trans h.now,
    h'.fileTime.trans h.fileTime, h'.threadRefusal.trans h.threadRefusal, ?_⟩
  rw [h'.meters, h.meters]

theorem recorded_complainIf (m : Machine) (what : String) (x : Except SystemError Unit) :
    Recorded m (m.complainIf what x) := by
  cases x <;> exact ⟨rfl, rfl, rfl, rfl, rfl, rfl, rfl⟩

theorem recorded_goOnAfter (m : Machine) (x : Except SystemError Unit) : Recorded m (m.goOnAfter x) := by
  unfold goOnAfter
  split <;> exact ⟨rfl, rfl, rfl, rfl, rfl, rfl, rfl⟩

end Machine

theorem LogQueue.recorded_writeAll (records : List Bytes) :
    ∀ (f : RollingFile) (m : Machine), m.Recorded (writeAll records f m).2 := by
  induction records with
  | nil => exact fun _ m => Machine.Recorded.refl m
  | cons r rs ih =>
    intro f m
    have hdisk : m.Recorded { m with disk := (f.write r m.now m.disk).2.2 } := ⟨rfl, rfl, rfl, rfl, rfl, rfl, rfl⟩
    exact (hdisk.trans (Machine.recorded_complainIf _ _ _)).trans (ih _ _)

namespace AppenderSet

variable {β : Type} {view : AppenderSet → β}

/-- A record to one of the outputs neither stops them nor takes them up again. -/
theorem stopped_writeTo (sink : Sink) (s : Severity) (record : Bytes) (a : AppenderSet) (m : Machine) :
    (a.writeTo sink s record m).2.1.generation = a.generation ∧
    (a.writeTo sink s record m).2.1.stopped = a.stopped := by
  cases sink with
  | console =>
    unfold writeTo writeConsole
    dsimp only
    split
    · exact ⟨rfl, rfl⟩
    · split <;> exact ⟨rfl, rfl⟩
  | file =>
    unfold writeTo writeFile
    dsimp only
    split
    · exact ⟨rfl, rfl⟩
    · split <;> exact ⟨rfl, rfl⟩

theorem stopped_work (a : AppenderSet) (m : Machine) :
    (a.work m).1.generation = a.generation ∧ (a.work m).1.stopped = a.stopped := by
  unfold work
  split <;> exact ⟨rfl, rfl⟩

theorem fixed_generation : Fixed (·.generation) :=
  ⟨fun sink s record a m => (stopped_writeTo sink s record a m).1, fun a m => (stopped_work a m).1⟩

theorem fixed_stopped : Fixed (·.stopped) :=
  ⟨fun sink s record a m => (stopped_writeTo sink s record a m).2, fun a m => (stopped_work a m).2⟩

theorem Fixed.writeCopies (h : Fixed view) (sink : Sink) (s : Severity) (record : Bytes) (n : Nat) :
    ∀ (a : AppenderSet) (m : Machine), view (writeCopies sink s record n a m).2.1 = view a := by
  induction n with
  | zero => exact fun _ _ => rfl
  | succ n ih =>
    intro a m
    have hone := h.write sink s record a m
    unfold AppenderSet.writeCopies
    split
    · rename_i heq
      rw [heq] at hone
      exact hone
    · rename_i heq
      rw [heq] at hone
      exact (ih _ _).trans hone

theorem recorded_writeTo (sink : Sink) (s : Severity) (record : Bytes) (a : AppenderSet) (m : Machine) :
    m.Recorded (a.writeTo sink s record m).2.2 := by
  cases sink with
  | console =>
    unfold writeTo writeConsole
    cases a.stopped <;> cases a.stream <;> exact ⟨rfl, rfl, rfl, rfl, rfl, rfl, rfl⟩
  | file =>
    unfold writeTo writeFile
    cases a.stopped <;> cases a.queue <;> exact ⟨rfl, rfl, rfl, rfl, rfl, rfl, rfl⟩

theorem recorded_writeCopies (sink : Sink) (s : Severity) (record : Bytes) (n : Nat) :
    ∀ (a : AppenderSet) (m : Machine), m.Recorded (writeCopies sink s record n a m).2.2 := by
  induction n with
  | zero => exact fun _ m => Machine.Recorded.refl m
  | succ n ih =>
    intro a m
    have hone := recorded_writeTo sink s record a m
    unfold writeCopies
    split
    · rename_i heq
      rw [heq] at hone
      exact hone
    · rename_i heq
      rw [heq] at hone
      exact hone.trans (ih _ _)

theorem recorded_work (a : AppenderSet) (m : Machine) : m.Recorded (a.work m).2 := by
  unfold work
  split
  · exact Machine.Recorded.refl m
  · exact LogQueue.recorded_writeAll _ _ _

end AppenderSet

namespace Registry

variable {β : Type} {view : AppenderSet → β}

theorem SameView.refl (view : AppenderSet → β) (r : Registry) : SameView view r r := fun _ => rfl

theorem SameView.trans (h : SameView view r r') (h' : SameView view r' r'') : SameView view r r'' :=
  fun g => (h' g).trans (h g)

/-- Outputs in the place of those that they came of. -/
theorem sameView_putSet {a b : AppenderSet} {g : Nat} (h : r.set? g = some b) (hg : a.generation = b.generation)
    (hv : view a = view b) : SameView view r (r.putSet a) := by
  intro g'
  rw [set?_putSet, hg, generation_of_set? h]
  split
  · rename_i hgg
    rw [← hgg, h]
    simp [hv]
  · rfl

theorem sameView_writeThrough (hv : AppenderSet.Fixed view) (r : Registry) (g : Nat) (sink : Sink) (copies : Nat)
    (s : Severity) (record : Bytes) (m : Machine) :
    SameView view r (r.writeThrough g sink copies s record m).2.1 := by
  unfold writeThrough
  split
  · exact SameView.refl view r
  · rename_i a ha
    exact sameView_putSet ha (AppenderSet.fixed_generation.writeCopies sink s record copies a m)
      (hv.writeCopies sink s record copies a m)

theorem sameView_work (hv : AppenderSet.Fixed view) (r : Registry) (g : Nat) (m : Machine) :
    SameView view r (r.work g m).1 := by
  unfold work
  split
  · exact SameView.refl view r
  · rename_i a ha
    exact sameView_putSet ha (AppenderSet.fixed_generation.work a m) (hv.work a m)

theorem alike_writeThrough (r : Registry) (g : Nat) (sink : Sink) (copies : Nat) (s : Severity) (record : Bytes)
    (m : Machine) : Alike r (r.writeThrough g sink copies s record m).2.1 := by
  unfold writeThrough
  split
  · exact Alike.refl r
  · exact alike_putSet r _

theorem alike_work (r : Registry) (g : Nat) (m : Machine) : Alike r (r.work g m).1 := by
  unfold work
  split
  · exact Alike.refl r
  · exact alike_putSet r _

theorem untouched_writeThrough (r : Registry) (g : Nat) (sink : Sink) (copies : Nat) (s : Severity)
    (record : Bytes) (m : Machine) : Untouched r (r.writeThrough g sink copies s record m).2.1 :=
  ⟨alike_writeThrough r g sink copies s record m,
    sameView_writeThrough AppenderSet.fixed_stopped r g sink copies s record m⟩

theorem untouched_work (r : Registry) (g : Nat) (m : Machine) : Untouched r (r.work g m).1 :=
  ⟨alike_work r g m, sameView_work AppenderSet.fixed_stopped r g m⟩

theorem recorded_writeThrough (r : Registry) (g : Nat) (sink : Sink) (copies : Nat) (s : Severity) (record : Bytes)
    (m : Machine) : m.Recorded (r.writeThrough g sink copies s record m).2.2 := by
  unfold writeThrough
  split
  · exact Machine.Recorded.refl m
  · exact AppenderSet.recorded_writeCopies _ _ _ _ _ _

theorem recorded_work (r : Registry) (g : Nat) (m : Machine) : m.Recorded (r.work g m).2 := by
  unfold work
  split
  · exact Machine.Recorded.refl m
  · exact AppenderSet.recorded_work _ _

/-- The writer for a target goes by way of the outputs that the live tree is attached to. -/
theorem writeFor_of_attached {r : Registry} {g : Nat} (h : r.tree.attached = some g) (sink : Sink)
    (target : String) (s : Severity) (record : Bytes) (m : Machine) :
    r.writeFor sink target s record m = r.writeThrough g sink (r.tree.routeCount target) s record m := by
  unfold writeFor
  rw [h]

/-- **A record for a target** is passed over, or it goes by way of a generation whose writer then catches up, if
the thread goes on. -/
theorem publish_cases (r : Registry) (sink : Sink) (target : String) (s : Severity) (record : Bytes)
    (m : Machine) :
    r.publish sink target s record m = (r, m) ∨
      ∃ g copies, let written := r.writeThrough g sink copies s record m
        r.publish sink target s record m = written.2.1.work g (written.2.2.goOnAfter written.1) := by
  unfold publish
  split
  · exact Or.inl rfl
  · rename_i g hattached
    rw [writeFor_of_attached hattached]
    split
    · exact Or.inr ⟨g, _, rfl⟩
    · exact Or.inl rfl

theorem untouched_publish (r : Registry) (sink : Sink) (target : String) (s : Severity)
    (record : Bytes) (m : Machine) : Untouched r (r.publish sink target s record m).1 := by
  rcases r.publish_cases sink target s record m with h | ⟨g, copies, h⟩
  · rw [h]
    exact Untouched.refl r
  · rw [h]
    exact (untouched_writeThrough r g sink copies s record m).trans (untouched_work _ g _)

theorem sameView_publish (hv : AppenderSet.Fixed view) (r : Registry) (sink : Sink) (target : String)
    (s : Severity) (record : Bytes) (m : Machine) : SameView view r (r.publish sink target s record m).1 := by
  rcases r.publish_cases sink target s record m with h | ⟨g, copies, h⟩
  · rw [h]
    exact SameView.refl view r
  · rw [h]
    exact (sameView_writeThrough hv r g sink copies s record m).trans (sameView_work hv _ g _)

theorem recorded_publish (r : Registry) (sink : Sink) (target : String) (s : Severity) (record : Bytes)
    (m : Machine) :
    m.Recorded (r.publish sink target s record m).2 := by
  rcases r.publish_cases sink target s record m with h | ⟨g, copies, h⟩
  · rw [h]
    exact Machine.Recorded.refl m
  · rw [h]
    exact ((recorded_writeThrough r g sink copies s record m).trans (Machine.recorded_goOnAfter _ _)).trans
      (recorded_work _ g _)

end Registry

namespace Logbook

open Registry (SameView Untouched)

/-- **An event leaves the registry untouched.** -/
theorem emit_untouched (b : Logbook) (e : LogEvent) : Untouched b.registry (b.emit e).registry := by
  unfold emit
  split
  · exact Untouched.refl _
  · exact (Registry.untouched_publish _ _ _ _ _ _).trans (Registry.untouched_publish _ _ _ _ _ _)

theorem sameView_emit {β : Type} {view : AppenderSet → β} (hv : AppenderSet.Fixed view) (b : Logbook)
    (e : LogEvent) :
    SameView view b.registry (b.emit e).registry := by
  unfold emit
  split
  · exact SameView.refl view _
  · exact (Registry.sameView_publish hv _ _ _ _ _ _).trans (Registry.sameView_publish hv _ _ _ _ _ _)

/-- **An event leaves the machine as it is**, up to records. -/
theorem recorded_emit (b : Logbook) (e : LogEvent) : b.machine.Recorded (b.emit e).machine := by
  unfold emit
  split
  · exact Machine.Recorded.refl _
  · exact (Registry.recorded_publish _ _ _ _ _ _).trans (Registry.recorded_publish _ _ _ _ _ _)

theorem say_untouched (b : Logbook) (s : Severity) (message : String)
    (fields : List (String × FieldValue)) : Untouched b.registry (b.say s message fields).registry :=
  emit_untouched b _

end Logbook

end ModuleHost
