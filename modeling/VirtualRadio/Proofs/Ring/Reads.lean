import VirtualRadio.Proofs.Ring.Counters

namespace VirtualRadio
namespace Ring

/-!
# The reads of a ring

A read counts as a consumed burst or as an underrun, and a consumed burst was
either read or lost to an overrun.  So the counters know how often the ring was
read.
-/

/-- A ring of `places` bursts of `length` samples that was read `reads` times. -/
structure Tallies (places length : Nat) (ring : Ring) (reads : Nat) : Prop where
  fits : ∃ count lead, Fits places length ring count lead
  total : ring.consumed + ring.underruns = ring.overruns + reads
  lost : ring.overruns ≤ ring.consumed

namespace Tallies

variable {places length : Nat} {ring : Ring} {reads : Nat}

theorem empty (two_le : 2 ≤ places) (length_pos : 0 < length) :
    Tallies places length (empty places length) 0 :=
  ⟨⟨0, 0, fits_empty two_le length_pos⟩, rfl, Nat.le_refl 0⟩

/-- A sample that laps the reader loses one burst, which counts as consumed. -/
theorem push (tallies : Tallies places length ring reads) (sample : Sample) :
    Tallies places length (ring.push sample) reads := by
  obtain ⟨⟨count, lead, fits⟩, total, lost⟩ := tallies
  by_cases laps : ring.Laps
  · have consumed := fits.push_consumed_of_laps laps sample
    have overruns : (ring.push sample).overruns = ring.overruns + 1 := by
      rw [push_overruns, if_pos laps]
    refine ⟨⟨count + 1, 0, fits.push_of_laps laps sample⟩, ?_, ?_⟩
    · rw [consumed, overruns, push_underruns]
      omega
    · rw [consumed, overruns]
      exact Nat.succ_le_succ lost
  · have consumed : (ring.push sample).consumed = ring.consumed := by
      rw [push_consumed, if_neg laps]
    have overruns : (ring.push sample).overruns = ring.overruns := by
      rw [push_overruns, if_neg laps]
    refine ⟨⟨count + 1, lead, fits.push laps sample⟩, ?_, ?_⟩
    · rw [consumed, overruns, push_underruns, total]
    · rw [consumed, overruns]
      exact lost

theorem write (tallies : Tallies places length ring reads) (samples : List Sample) :
    Tallies places length (ring.write samples) reads := by
  induction samples generalizing ring with
  | nil => exact tallies
  | cons sample samples ih => exact ih (tallies.push sample)

theorem read (tallies : Tallies places length ring reads) :
    Tallies places length ring.read.2 (reads + 1) := by
  obtain ⟨⟨count, lead, fits⟩, total, lost⟩ := tallies
  by_cases found : 0 < ring.pending
  · refine ⟨⟨count, lead, fits.read_of_pending found⟩, ?_, ?_⟩
    · rw [read_consumed, read_underruns, read_overruns, if_pos found, if_pos found]
      omega
    · rw [read_consumed, read_overruns, if_pos found]
      exact Nat.le_succ_of_le lost
  · refine ⟨⟨count, lead + 1, fits.read_of_empty (Nat.eq_zero_of_not_pos found)⟩, ?_, ?_⟩
    · rw [read_consumed, read_underruns, read_overruns, if_neg found, if_neg found]
      omega
    · rw [read_consumed, read_overruns, if_neg found]
      exact lost

/-- A read is seen from the ring: it moves the reader. -/
theorem read_ne (tallies : Tallies places length ring reads) : ring.read.2 ≠ ring := by
  obtain ⟨⟨count, lead, fits⟩, -, -⟩ := tallies
  have two := fits.two_le
  intro same
  have stays : (ring.readBurst + 1) % places = ring.readBurst :=
    fits.bursts ▸ congrArg readBurst same
  have inside : ring.readBurst < places := by
    rw [fits.readBurst]
    exact Nat.mod_lt _ (by omega)
  rcases Nat.lt_or_ge (ring.readBurst + 1) places with next | last
  · rw [Nat.mod_eq_of_lt next] at stays
    omega
  · have wraps : ring.readBurst + 1 = places := by omega
    rw [wraps, Nat.mod_self] at stays
    omega

end Tallies
end Ring
end VirtualRadio
