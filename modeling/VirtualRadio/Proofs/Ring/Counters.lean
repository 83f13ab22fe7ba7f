import Mathlib.Data.Nat.Basic
import Mathlib.Algebra.Order.Group.Nat
import VirtualRadio.Proofs.Ring.Calls

namespace VirtualRadio
namespace Ring

/-!
# The counters of a ring

The cursors and counters of a ring are functions of three numbers: how many
samples were written, how many bursts were consumed, and the *lead*, the number
of places by which the reader is ahead of the oldest pending burst.  `Fits`
says so, and every call keeps it.

Nothing here looks at what the cells hold.
-/

/-- A ring of `places` bursts of `length` samples, into which `count` samples
were written, and whose reader is `lead` places ahead. -/
structure Fits (places length : Nat) (ring : Ring) (count lead : Nat) : Prop where
  two_le : 2 ≤ places
  length_pos : 0 < length
  bursts : ring.bursts = places
  burstLength : ring.burstLength = length
  size : ring.cells.size = places * length
  writePosition : ring.writePosition = count % (places * length)
  completed : ring.completed = count / length
  consumed_le : ring.consumed ≤ ring.completed
  completed_le : ring.completed ≤ ring.consumed + places
  readBurst : ring.readBurst = (ring.consumed + lead) % places

/-- Nothing is known yet about a new ring but its size. -/
theorem fits_empty {places length : Nat} (two_le : 2 ≤ places) (length_pos : 0 < length) :
    Fits places length (empty places length) 0 0 where
  two_le := two_le
  length_pos := length_pos
  bursts := rfl
  burstLength := rfl
  size := Array.size_replicate
  writePosition := (Nat.zero_mod _).symm
  completed := (Nat.zero_div _).symm
  consumed_le := Nat.le_refl _
  completed_le := Nat.zero_le _
  readBurst := (Nat.zero_mod _).symm

namespace Fits

variable {places length : Nat} {ring : Ring} {count lead : Nat}

theorem size_pos (fits : Fits places length ring count lead) : 0 < places * length :=
  Nat.mul_pos (Nat.lt_of_lt_of_le Nat.zero_lt_two fits.two_le) fits.length_pos

/-- At the end of a burst the writer is at most a lap ahead of the reader. -/
theorem count_le_of_dvd (fits : Fits places length ring count lead) (boundary : length ∣ count) :
    count ≤ (ring.consumed + places) * length := by
  rw [← Nat.div_mul_cancel boundary, ← fits.completed]
  exact Nat.mul_le_mul_right length fits.completed_le

/-- Every cell of a place exists. -/
theorem cell_lt (fits : Fits places length ring count lead) {number index : Nat}
    (placed : number < places) (within : index < length) :
    number * length + index < ring.cells.size := by
  have next : (number + 1) * length ≤ places * length := Nat.mul_le_mul_right length placed
  rw [Nat.add_mul, Nat.one_mul] at next
  rw [fits.size]
  omega

theorem readStart_add_lt (fits : Fits places length ring count lead) {index : Nat}
    (within : index < length) : ring.readStart + index < ring.cells.size := by
  have placed : ring.readBurst < places := by
    rw [fits.readBurst]
    exact Nat.mod_lt _ (Nat.lt_of_lt_of_le Nat.zero_lt_two fits.two_le)
  rw [readStart, fits.burstLength]
  exact fits.cell_lt placed within

/-- The write position wraps at the end of the cells. -/
theorem nextPosition_eq (fits : Fits places length ring count lead) :
    ring.nextPosition = (count + 1) % (places * length) := by
  have inside := Nat.mod_lt count fits.size_pos
  rw [nextPosition, fits.size, fits.writePosition, ← Nat.mod_add_mod]
  by_cases last : count % (places * length) + 1 = places * length
  · rw [if_pos (Nat.le_of_eq last.symm), last, Nat.mod_self]
  · rw [if_neg (by omega)]
    exact (Nat.mod_eq_of_lt (by omega)).symm

/-- A sample completes a burst exactly when the number of samples reaches a
multiple of the burst length. -/
theorem completes_iff (fits : Fits places length ring count lead) :
    ring.Completes ↔ length ∣ count + 1 := by
  rw [Completes, fits.nextPosition_eq, fits.burstLength, Nat.mod_mul_left_mod,
    Nat.dvd_iff_mod_eq_zero]

theorem laps_iff (fits : Fits places length ring count lead) :
    ring.Laps ↔ length ∣ count + 1 ∧ ring.completed = ring.consumed + places := by
  have lower := fits.consumed_le
  have upper := fits.completed_le
  rw [Laps, fits.completes_iff, fits.bursts]
  have same : places < ring.completed + 1 - ring.consumed ↔
      ring.completed = ring.consumed + places := by omega
  rw [same]

theorem push_completed_eq (fits : Fits places length ring count lead) (sample : Sample) :
    (ring.push sample).completed = (count + 1) / length := by
  rw [push_completed, Nat.succ_div, fits.completed]
  by_cases divides : length ∣ count + 1
  · rw [if_pos (fits.completes_iff.mpr divides), if_pos divides]
  · rw [if_neg (fun completes => divides (fits.completes_iff.mp completes)), if_neg divides,
      Nat.add_zero]

/-- A sample for which there is room leaves the reader where it is. -/
theorem push (fits : Fits places length ring count lead) (room : ¬ ring.Laps)
    (sample : Sample) : Fits places length (ring.push sample) (count + 1) lead := by
  have completed := fits.push_completed_eq sample
  have lower := fits.consumed_le
  have upper := fits.completed_le
  refine ⟨fits.two_le, fits.length_pos, ?_, ?_, ?_, ?_, completed, ?_, ?_, ?_⟩
  · rw [push_bursts, fits.bursts]
  · rw [push_burstLength, fits.burstLength]
  · rw [push_cells, Array.size_setIfInBounds, fits.size]
  · rw [push_writePosition, fits.nextPosition_eq]
  · rw [push_consumed, if_neg room, push_completed]
    split <;> omega
  · rw [push_consumed, if_neg room, push_completed]
    rw [Laps, fits.bursts] at room
    split
    · next completes =>
        have fewer := (not_and.mp room) completes
        omega
    · omega
  · rw [push_readBurst, if_neg room, push_consumed, if_neg room, fits.readBurst]

/-- A sample that laps the reader puts it on the oldest pending burst. -/
theorem push_of_laps (fits : Fits places length ring count lead) (laps : ring.Laps)
    (sample : Sample) : Fits places length (ring.push sample) (count + 1) 0 := by
  have completed := fits.push_completed_eq sample
  have full := (fits.laps_iff.mp laps).2
  have divides := (fits.laps_iff.mp laps).1
  have quotient : (count + 1) / length = ring.completed + 1 := by
    rw [Nat.succ_div, if_pos divides, fits.completed]
  refine ⟨fits.two_le, fits.length_pos, ?_, ?_, ?_, ?_, completed, ?_, ?_, ?_⟩
  · rw [push_bursts, fits.bursts]
  · rw [push_burstLength, fits.burstLength]
  · rw [push_cells, Array.size_setIfInBounds, fits.size]
  · rw [push_writePosition, fits.nextPosition_eq]
  · rw [push_consumed, if_pos laps, push_completed, if_pos laps.1]
    exact Nat.sub_le _ _
  · rw [push_consumed, if_pos laps, push_completed, if_pos laps.1, fits.bursts]
    omega
  · rw [push_readBurst, if_pos laps, push_consumed, if_pos laps, fits.nextPosition_eq,
      fits.burstLength, fits.bursts, Nat.mod_mul_left_div_self, quotient, full, Nat.add_zero]
    have whole : ring.consumed + places + 1 = ring.consumed + 1 + places := by omega
    rw [whole, Nat.add_mod_right, Nat.add_sub_cancel]

/-- What a lapping sample makes of the consumed bursts: the oldest pending one
counts as consumed. -/
theorem push_consumed_of_laps (fits : Fits places length ring count lead) (laps : ring.Laps)
    (sample : Sample) : (ring.push sample).consumed = ring.consumed + 1 := by
  have full := (fits.laps_iff.mp laps).2
  rw [push_consumed, if_pos laps, fits.bursts, full]
  omega

/-- A read that finds a burst consumes it and keeps the lead. -/
theorem read_of_pending (fits : Fits places length ring count lead) (found : 0 < ring.pending) :
    Fits places length ring.read.2 count lead := by
  have lower := fits.consumed_le
  have upper := fits.completed_le
  rw [pending] at found
  refine ⟨fits.two_le, fits.length_pos, fits.bursts, fits.burstLength, ?_, fits.writePosition,
    fits.completed, ?_, ?_, ?_⟩
  · rw [read_cells, size_silenceCells, fits.size]
  · rw [read_consumed, pending, if_pos found, read_completed]
    omega
  · rw [read_consumed, pending, if_pos found, read_completed]
    omega
  · rw [read_readBurst, read_consumed, pending, if_pos found, fits.readBurst, fits.bursts,
      Nat.mod_add_mod]
    congr 1
    omega

/-- A read that finds nothing puts the reader one place further ahead. -/
theorem read_of_empty (fits : Fits places length ring count lead) (nothing : ring.pending = 0) :
    Fits places length ring.read.2 count (lead + 1) := by
  have lower := fits.consumed_le
  have upper := fits.completed_le
  have empty : ¬ 0 < ring.pending := by omega
  refine ⟨fits.two_le, fits.length_pos, fits.bursts, fits.burstLength, ?_, fits.writePosition,
    fits.completed, ?_, ?_, ?_⟩
  · rw [read_cells, size_silenceCells, fits.size]
  · rw [read_consumed, if_neg empty, read_completed]
    omega
  · rw [read_consumed, if_neg empty, read_completed]
    omega
  · rw [read_readBurst, read_consumed, if_neg empty, fits.readBurst, fits.bursts,
      Nat.mod_add_mod, Nat.add_assoc]

/-! ## Writing bursts -/

/-- Inside a burst only the write position moves. -/
theorem write_within {samples : List Sample} (fits : Fits places length ring count lead)
    (short : count % length + samples.length < length) :
    Fits places length (ring.write samples) (count + samples.length) lead ∧
      (ring.write samples).completed = ring.completed ∧
      (ring.write samples).consumed = ring.consumed ∧
      (ring.write samples).overruns = ring.overruns := by
  induction samples generalizing ring count with
  | nil => exact ⟨fits, rfl, rfl, rfl⟩
  | cons sample samples ih =>
      rw [List.length_cons] at short
      have next : (count + 1) % length = count % length + 1 := by
        rw [← Nat.mod_add_mod]
        exact Nat.mod_eq_of_lt (by omega)
      have inside : ¬ ring.Completes := by
        rw [fits.completes_iff, Nat.dvd_iff_mod_eq_zero, next]
        exact Nat.succ_ne_zero _
      have room : ¬ ring.Laps := fun laps => inside laps.1
      have rest := ih (fits.push room sample) (by omega)
      rw [push_completed, if_neg inside, push_consumed, if_neg room, push_overruns,
        if_neg room] at rest
      have total : count + (samples.length + 1) = count + 1 + samples.length := by omega
      rw [List.length_cons, total]
      exact rest

theorem write_underruns (ring : Ring) (samples : List Sample) :
    (ring.write samples).underruns = ring.underruns := by
  induction samples generalizing ring with
  | nil => rfl
  | cons sample samples ih => exact (ih (ring.push sample)).trans (push_underruns ring sample)

/-- A whole burst makes one more burst pending, or overruns the oldest one. -/
theorem write_burst {burst : List Sample} (fits : Fits places length ring count lead)
    (boundary : length ∣ count) (whole : burst.length = length) :
    (ring.write burst).consumed =
        (if ring.pending = places then ring.consumed + 1 else ring.consumed) ∧
      (ring.write burst).overruns =
        (if ring.pending = places then ring.overruns + 1 else ring.overruns) := by
  have positive := fits.length_pos
  rcases List.eq_nil_or_concat' burst with none | ⟨start, last, split⟩
  · rw [none, List.length_nil] at whole
    omega
  rw [split, List.length_append, List.length_singleton] at whole
  have short : count % length + start.length < length := by
    rw [Nat.dvd_iff_mod_eq_zero.mp boundary]
    omega
  have inside := fits.write_within short
  have completes : (ring.write start).Completes := by
    rw [inside.1.completes_iff, Nat.add_assoc, whole]
    exact Nat.dvd_add_self_right.mpr boundary
  have lapsIff : (ring.write start).Laps ↔ ring.pending = places := by
    rw [inside.1.laps_iff, ← inside.1.completes_iff, inside.2.1, inside.2.2.1, pending]
    have lower := fits.consumed_le
    have enough := fits.two_le
    constructor
    · intro laps
      omega
    · intro full
      exact ⟨completes, by omega⟩
  rw [split, write_append]
  change ((ring.write start).push last).consumed = _ ∧ ((ring.write start).push last).overruns = _
  by_cases full : ring.pending = places
  · have laps := lapsIff.mpr full
    rw [inside.1.push_consumed_of_laps laps, push_overruns, if_pos laps, if_pos full, if_pos full,
      inside.2.2.1, inside.2.2.2]
    exact ⟨rfl, rfl⟩
  · have room : ¬ (ring.write start).Laps := fun laps => full (lapsIff.mp laps)
    rw [push_consumed, if_neg room, push_overruns, if_neg room, if_neg full, if_neg full,
      inside.2.2.1, inside.2.2.2]
    exact ⟨rfl, rfl⟩

end Fits
end Ring
end VirtualRadio
