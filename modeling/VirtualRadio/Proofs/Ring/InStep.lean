import VirtualRadio.Proofs.Ring.Provenance

namespace VirtualRadio
namespace TracedRing

/-!
# A reader in step

A reader in step stands on the oldest pending burst.  As long as it only reads
when a burst is pending, it stays there, whatever the writer does: a writer that
laps it moves it on to the next burst.

`Follows` is the invariant of such readers.  It says that the cells of every
pending burst, and those of the burst that is being written, still hold their
samples.
-/

/-- Numbers less than a lap apart have different homes. -/
private theorem eq_of_home_eq {first second lap : Nat} (ordered : first ≤ second)
    (close : second < first + lap) (same : first % lap = second % lap) : first = second := by
  have divides : lap ∣ second - first :=
    Nat.dvd_of_mod_eq_zero (Nat.sub_mod_eq_zero_of_mod_eq same.symm)
  have nothing : second - first = 0 := Nat.eq_zero_of_dvd_of_lt divides (by omega)
  omega

/-- The invariant of a reader in step. -/
structure Follows (places length : Nat) (traced : TracedRing) : Prop where
  fits : Ring.Fits places length traced.ring traced.written.length 0
  fresh : ∀ number, traced.ring.consumed ≤ number / length →
    number < traced.written.length → traced.written.length ≤ number + places * length →
    traced.owner (number % (places * length)) = some number

theorem follows_empty {places length : Nat} (two_le : 2 ≤ places) (length_pos : 0 < length) :
    (empty places length).Follows places length where
  fits := Ring.fits_empty two_le length_pos
  fresh := by
    intro number _ impossible
    exact absurd impossible (Nat.not_lt_zero number)

variable {places length : Nat} {traced : TracedRing}

/-- A read drains the homes of the samples of one burst in each lap. -/
theorem isRead_iff (fits : Ring.Fits places length traced.ring traced.written.length 0)
    (number : Nat) : IsRead traced.ring (number % (places * length)) ↔
      number / length % places = traced.ring.consumed % places := by
  have positive := fits.length_pos
  rw [← Nat.mod_mul_left_div_self, ← Nat.add_zero traced.ring.consumed, ← fits.readBurst, IsRead,
    Ring.readStart, fits.burstLength, Nat.div_eq_iff fits.length_pos]
  omega

namespace Follows

/-- A pushed sample keeps the invariant, also when it laps the reader. -/
theorem push (follows : traced.Follows places length) (sample : Sample) :
    (traced.push sample).Follows places length := by
  have fits : Ring.Fits places length (traced.push sample).ring
      (traced.push sample).written.length 0 := by
    rw [TracedRing.push, List.length_append, List.length_singleton]
    by_cases laps : traced.ring.Laps
    · exact follows.fits.push_of_laps laps sample
    · exact follows.fits.push laps sample
  have written : (traced.push sample).written.length = traced.written.length + 1 := by
    rw [TracedRing.push, List.length_append, List.length_singleton]
  have grows : traced.ring.consumed ≤ (traced.push sample).ring.consumed := by
    change traced.ring.consumed ≤ (traced.ring.push sample).consumed
    by_cases laps : traced.ring.Laps
    · rw [follows.fits.push_consumed_of_laps laps]
      exact Nat.le_succ _
    · rw [Ring.push_consumed, if_neg laps]
  refine ⟨fits, ?_⟩
  intro number ahead before lap
  rw [written] at before lap
  by_cases newest : number = traced.written.length
  · rw [newest, push_owner, follows.fits.writePosition]
    exact Function.update_self _ _ _
  · have older : number < traced.written.length := by omega
    have different : number % (places * length) ≠ traced.ring.writePosition := by
      rw [follows.fits.writePosition]
      intro same
      exact newest (eq_of_home_eq (Nat.le_of_lt older) (by omega) same)
    rw [push_owner, Function.update_of_ne different]
    exact follows.fresh number (Nat.le_trans grows ahead) older (by omega)

/-- A read that finds a burst keeps the invariant, if the writer is not in the
middle of the place that is drained. -/
theorem read_of_pending (follows : traced.Follows places length)
    (found : 0 < traced.ring.pending)
    (clear : traced.written.length ≤ (traced.ring.consumed + places) * length) :
    traced.read.Follows places length := by
  have consumed : traced.read.ring.consumed = traced.ring.consumed + 1 :=
    (Ring.read_consumed _).trans (if_pos found)
  refine ⟨follows.fits.read_of_pending found, ?_⟩
  intro number ahead before lap
  rw [consumed] at ahead
  have near : number / length < traced.ring.consumed + places :=
    (Nat.div_lt_iff_lt_mul follows.fits.length_pos).mpr (Nat.lt_of_lt_of_le before clear)
  have kept : ¬ IsRead traced.ring (number % (places * length)) := by
    rw [isRead_iff follows.fits]
    intro same
    have equal := eq_of_home_eq (by omega) near same.symm
    omega
  rw [read_owner, if_neg kept]
  exact follows.fresh number (by omega) before lap

/-! ## What a reader in step takes -/

private theorem home_of_reader (follows : traced.Follows places length) {index : Nat}
    (within : index < length) :
    traced.ring.readStart + index =
      (traced.ring.consumed * length + index) % (places * length) := by
  have burst : (traced.ring.consumed * length + index) / length = traced.ring.consumed := by
    rw [Nat.add_comm, Nat.add_mul_div_right _ _ follows.fits.length_pos,
      Nat.div_eq_of_lt within, Nat.zero_add]
  have offset : (traced.ring.consumed * length + index) % length = index := by
    rw [Nat.add_comm, Nat.add_mul_mod_self_right, Nat.mod_eq_of_lt within]
  rw [Ring.readStart, follows.fits.readBurst, follows.fits.burstLength, Nat.add_zero,
    Nat.mul_comm places length, Nat.mod_mul, burst, offset, Nat.mul_comm length, Nat.add_comm]

/-- A reader in step takes the oldest pending burst, whole. -/
theorem read_eq_of_pending (follows : traced.Follows places length) (sound : traced.Sound)
    (found : 0 < traced.ring.pending)
    (clear : traced.written.length ≤ (traced.ring.consumed + places) * length) :
    (traced.ring.consumed + 1) * length ≤ traced.written.length ∧
      traced.ring.read.1 = (traced.written.drop (traced.ring.consumed * length)).take length := by
  have complete : (traced.ring.consumed + 1) * length ≤ traced.written.length := by
    rw [Ring.pending, follows.fits.completed] at found
    exact (Nat.le_div_iff_mul_le follows.fits.length_pos).mp (by omega)
  refine ⟨complete, ?_⟩
  rw [Nat.add_mul, Nat.one_mul] at complete
  rw [Nat.add_mul] at clear
  rw [sound.read_burst follows.fits]
  apply List.ext_getElem
  · rw [List.length_map, List.length_range, List.length_take, List.length_drop]
    omega
  · intro index left _
    rw [List.length_map, List.length_range] at left
    have number := follows.fresh (traced.ring.consumed * length + index)
      (by
        rw [Nat.le_div_iff_mul_le follows.fits.length_pos]
        exact Nat.le_add_right _ _)
      (by omega) (by omega)
    rw [List.getElem_map, List.getElem_range, follows.home_of_reader left, number,
      List.getElem_take, List.getElem_drop, sampleOf, List.getD_eq_getElem _ _ (by omega)]

end Follows
end TracedRing
end VirtualRadio
