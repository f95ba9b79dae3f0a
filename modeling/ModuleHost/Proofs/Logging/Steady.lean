import Mathlib
import ModuleHost.Proofs.Logging.Stand

/-!
# A log file in the order of periods

While the period that the clock shows does not go back, the periods of the archives are not ahead of that of the
active file, and this one is not ahead of the clock. So each archive that is made is the newest.

* `Steady`: the active file and the archives, with this order between them.
* `Steady.stay`: a record of the same period goes to the active file.
* `Steady.rollOver`: **a record that rolls over** finds what the file held in a new archive, which is the newest,
  and the oldest archives removed.
-/

namespace ModuleHost

/-- **A log file and its archives in the order of periods**, with numbers of archives below `n` and the clock at
`clock`. -/
structure Steady (σ : LogSite) (policy : RollingPolicy) (f : RollingFile) (d : Disk) (as : List Kept)
    (content : Bytes) (n : Nat) (clock : Instant) : Prop where
  holding : Holding σ f d as content
  samePolicy : f.policy = policy
  index : ∀ a ∈ as, a.key.index.toNat < n
  archives : ∀ a ∈ as, a.key.period ≤ f.period
  period : ∃ t, f.period = policy.rotation.period t
  notAhead : f.period ≤ policy.rotation.period clock

namespace Steady

variable {σ : LogSite} {policy : RollingPolicy} {f f' f₁ : RollingFile} {d d' d₁ : Disk} {as : List Kept}
  {content record : Bytes} {n : Nat} {clock now : Instant}

/-- The clock goes on. -/
theorem later (h : Steady σ policy f d as content n clock)
    (hclock : policy.rotation.period clock ≤ policy.rotation.period now) : Steady σ policy f d as content n now :=
  { h with notAhead := h.notAhead.trans hclock }

/-- The bound on the numbers may be larger. -/
theorem below {m : Nat} (h : Steady σ policy f d as content n clock) (hnm : n ≤ m) :
    Steady σ policy f d as content m clock :=
  { h with index := fun a ha => (h.index a ha).trans_le hnm }

/-- A record of the same period goes to the active file. -/
theorem stay (h : Steady σ policy f d as content n now) (hr : f.appendRecord record d = (.ok (), f', d')) :
    Steady σ policy f' d' as (content ++ record) n now ∧ f'.size = f.size + record.length ∧
      f'.period = f.period := by
  obtain ⟨hold, hsize, hpolicy, hperiod⟩ := h.holding.append hr
  refine ⟨?_, hsize, hperiod⟩
  constructor
  case holding => exact hold
  case samePolicy => exact hpolicy.trans h.samePolicy
  case index => exact h.index
  case archives =>
    rw [hperiod]
    exact h.archives
  case period =>
    rw [hperiod]
    exact h.period
  case notAhead =>
    rw [hperiod]
    exact h.notAhead

/-- **A record that rolls over** finds the old content in the archives, of which the first are removed. -/
theorem rollOver (h : Steady σ policy f d as content n now) (hn : n < UInt64.size)
    (hroll : f.roll (policy.rotation.period now) d = (.ok (), f₁, d₁))
    (hr : f₁.appendRecord record d₁ = (.ok (), f', d')) :
    ∃ (new : List Kept) (rest : Bytes) (gone : Nat), gone = (as ++ new).length - policy.maxHistory ∧
      Steady σ policy f' d' ((as ++ new).drop gone) (rest ++ record) (n + new.length) now ∧
      (f.size = 0 ∧ new = [] ∧ rest = content ∨ rest = [] ∧ new.map (·.content) = [content]) ∧
      f.archiveMade d = new.map (fun a => a.item σ) ∧
      f.archivesRemoved (policy.rotation.period now) d = ((as ++ new).take gone).map (fun a => a.item σ) ∧
      f'.size = record.length ∧ f'.period = policy.rotation.period now := by
  have hperiod : ∃ t, f.period = f.policy.rotation.period t := by
    rw [h.samePolicy]
    exact h.period
  obtain ⟨new, rest, gone, hgone, hold, hsize, hpolicy, hnext, hmade, hremoved, hmoved, hnew⟩ :=
    h.holding.roll hn hperiod (fun _ => h.archives) h.index hroll
  rw [h.samePolicy] at hgone
  obtain ⟨hold', hsize', hpolicy', hnext'⟩ := hold.append hr
  have hfile : f'.period = policy.rotation.period now := hnext'.trans hnext
  have hlength : f'.size = record.length := by rw [hsize', hsize, Nat.zero_add]
  refine ⟨new, rest, gone, hgone, ?_, hmoved, hmade, hremoved, hlength, hfile⟩
  constructor
  case holding => exact hold'
  case samePolicy => exact (hpolicy'.trans hpolicy).trans h.samePolicy
  case index =>
    -- the new archive's number is at most that of the archives made before it
    intro a ha
    rcases List.mem_append.1 (List.mem_of_mem_drop ha) with ha | ha
    · have hlt := h.index a ha
      omega
    · have hle := (hnew a ha).2
      have hpos := List.length_pos_of_mem ha
      omega
  case archives =>
    intro a ha
    rw [hfile]
    rcases List.mem_append.1 (List.mem_of_mem_drop ha) with ha | ha
    · exact (h.archives a ha).trans h.notAhead
    · exact (le_of_eq (hnew a ha).1).trans h.notAhead
  case period => exact ⟨now, hfile⟩
  case notAhead => exact le_of_eq hfile

end Steady

end ModuleHost
