import ModuleHost.Logging.Rolling

/-!
# What makes a log file the one it is

Where a log file is, its name, its policy and whether it was closed are settled when it is opened. No record
and no flush changes them, whether it succeeds or not.

* `RollingFile.SameLog`: two states of one log file.
* `RollingFile.sameLog_write`, `RollingFile.sameLog_flush`: **a record and a flush keep the log file the one it
  is.**
* `RollingFile.period_write`: its period stays, or becomes that of the record.
-/

namespace ModuleHost

namespace RollingFile

/-- **Two states of one log file.** -/
structure SameLog (f f' : RollingFile) : Prop where
  path : f'.path = f.path
  dir : f'.dir = f.dir
  name : f'.name = f.name
  policy : f'.policy = f.policy
  immediateFlush : f'.immediateFlush = f.immediateFlush
  closed : f'.closed = f.closed

variable {f f' f'' : RollingFile}

theorem SameLog.refl (f : RollingFile) : SameLog f f := ⟨rfl, rfl, rfl, rfl, rfl, rfl⟩

theorem SameLog.trans (h : SameLog f f') (h' : SameLog f' f'') : SameLog f f'' :=
  ⟨h'.path.trans h.path, h'.dir.trans h.dir, h'.name.trans h.name, h'.policy.trans h.policy,
    h'.immediateFlush.trans h.immediateFlush, h'.closed.trans h.closed⟩

/-- Letting go of the writer touches nothing but the writer. -/
theorem settle_eq (f : RollingFile) (d : Disk) : (f.settle d).2.1 = { f with writer := none } := by
  unfold settle
  split
  · rename_i hw
    rw [← hw]
  · split <;> rfl

theorem sameLog_settle (f : RollingFile) (d : Disk) : SameLog f (f.settle d).2.1 := by
  rw [settle_eq]
  exact ⟨rfl, rfl, rfl, rfl, rfl, rfl⟩

theorem sameLog_renew (f : RollingFile) (next : String) (d : Disk) : SameLog f (f.renew next d).2.1 := by
  have h := sameLog_settle f d
  unfold renew
  split
  · rename_i heq
    rw [heq] at h
    exact h
  · rename_i heq
    rw [heq] at h
    split
    · exact h
    · split
      · exact h
      · exact ⟨h.path, h.dir, h.name, h.policy, h.immediateFlush, h.closed⟩

theorem sameLog_roll (f : RollingFile) (next : String) (d : Disk) : SameLog f (f.roll next d).2.1 := by
  have h := sameLog_renew f next d
  unfold roll
  split
  · rename_i heq
    rw [heq] at h
    exact h
  · rename_i heq
    rw [heq] at h
    exact h

theorem sameLog_appendRecord (f : RollingFile) (record : Bytes) (d : Disk) :
    SameLog f (f.appendRecord record d).2.1 := by
  unfold appendRecord
  split
  · exact SameLog.refl f
  · split
    · exact ⟨rfl, rfl, rfl, rfl, rfl, rfl⟩
    · split
      · split <;> exact ⟨rfl, rfl, rfl, rfl, rfl, rfl⟩
      · exact ⟨rfl, rfl, rfl, rfl, rfl, rfl⟩

/-- **A record** keeps the log file the one it is. -/
theorem sameLog_write (f : RollingFile) (record : Bytes) (now : Instant) (d : Disk) :
    SameLog f (f.write record now d).2.1 := by
  unfold write
  split
  · exact SameLog.refl f
  simp only
  split
  · have h := sameLog_roll f (f.policy.rotation.period now) d
    split
    · rename_i heq
      rw [heq] at h
      exact h
    · rename_i f₁ d₁ heq
      rw [heq] at h
      exact h.trans (sameLog_appendRecord f₁ record d₁)
  · exact sameLog_appendRecord f record d

theorem period_renew (f : RollingFile) (next : String) (d : Disk) :
    (f.renew next d).2.1.period = f.period ∨ (f.renew next d).2.1.period = next := by
  have h : (f.settle d).2.1.period = f.period := by rw [settle_eq]
  unfold renew
  split
  · rename_i heq
    rw [heq] at h
    exact Or.inl h
  · rename_i heq
    rw [heq] at h
    split
    · exact Or.inl h
    · split
      · exact Or.inl h
      · exact Or.inr rfl

theorem period_roll (f : RollingFile) (next : String) (d : Disk) :
    (f.roll next d).2.1.period = f.period ∨ (f.roll next d).2.1.period = next := by
  have h := period_renew f next d
  unfold roll
  split
  · rename_i heq
    rw [heq] at h
    exact h
  · rename_i heq
    rw [heq] at h
    exact h

theorem period_appendRecord (f : RollingFile) (record : Bytes) (d : Disk) :
    (f.appendRecord record d).2.1.period = f.period := by
  unfold appendRecord
  split
  · rfl
  · split
    · rfl
    · split
      · split <;> rfl
      · rfl

/-- **The period** stays, or becomes that of the record. -/
theorem period_write (f : RollingFile) (record : Bytes) (now : Instant) (d : Disk) :
    (f.write record now d).2.1.period = f.period ∨
      (f.write record now d).2.1.period = f.policy.rotation.period now := by
  unfold write
  split
  · exact Or.inl rfl
  simp only
  split
  · have h := period_roll f (f.policy.rotation.period now) d
    split
    · rename_i heq
      rw [heq] at h
      exact h
    · rename_i f₁ d₁ heq
      rw [heq] at h
      rw [period_appendRecord]
      exact h
  · exact Or.inl (period_appendRecord f record d)

/-- **A flush** keeps the log file the one it is. -/
theorem sameLog_flush (f : RollingFile) (d : Disk) : SameLog f (f.flush d).2.1 := by
  unfold flush
  split
  · exact SameLog.refl f
  · exact ⟨rfl, rfl, rfl, rfl, rfl, rfl⟩

/-- **A close** leaves a closed log file without a writer. -/
theorem close_eq (f : RollingFile) (d : Disk) :
    (f.close d).2.1 = { f with writer := none, closed := true } := by
  unfold close
  simp only [settle_eq]

end RollingFile

end ModuleHost
