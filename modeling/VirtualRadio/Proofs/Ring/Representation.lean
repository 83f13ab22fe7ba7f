import VirtualRadio.Proofs.Ring.Reads

namespace VirtualRadio
namespace Ring

/-!
# What a ring's fields stand for

Every field of a ring but its cells is a function of what was asked of it: of
the number of samples written, the number of reads, and the two counters that
say how the reads and the writes met.  The reader's cursor needs one more
number, which the ring does not store: the underruns counted since the last
overrun.  Each of them put the reader one place ahead of the oldest pending
burst, and an overrun puts it back there.

So both cursors stay inside the ring, and with them all cells that a call uses.
-/

/-- The underruns counted since the last overrun, while calls are made one
after the other.  `recent` were counted before. -/
def recentUnderruns (ring : Ring) (recent : Nat) : List RingCall → Nat
  | [] => recent
  | call :: calls =>
    let next := ring.perform call
    let added := next.underruns - ring.underruns
    next.recentUnderruns (if ring.overruns < next.overruns then 0 else recent + added) calls

/-- The cells that samples are written to, one after the other. -/
def writtenCells (ring : Ring) : List Sample → List Nat
  | [] => []
  | sample :: samples => ring.writePosition :: (ring.push sample).writtenCells samples

/-- The cells that a call uses: those it writes, or those it takes and silences. -/
def usedCells (ring : Ring) : RingCall → List Nat
  | .write samples => ring.writtenCells samples
  | .read => List.range' ring.readStart ring.burstLength

theorem overruns_le_write (ring : Ring) (samples : List Sample) :
    ring.overruns ≤ (ring.write samples).overruns := by
  induction samples generalizing ring with
  | nil => exact Nat.le_refl _
  | cons sample samples ih =>
      have first : ring.overruns ≤ (ring.push sample).overruns := by
        rw [push_overruns]
        split <;> omega
      exact Nat.le_trans first (ih (ring.push sample))

namespace Fits

variable {places length count lead : Nat} {ring : Ring}

/-- Samples that overrun the reader put it on the oldest pending burst; any
others leave it where it is. -/
theorem write (fits : Fits places length ring count lead) (samples : List Sample) :
    Fits places length (ring.write samples) (count + samples.length)
      (if ring.overruns < (ring.write samples).overruns then 0 else lead) := by
  induction samples generalizing ring count lead with
  | nil =>
      have stays : ¬ ring.overruns < (ring.write []).overruns := Nat.lt_irrefl _
      rw [if_neg stays]
      exact fits
  | cons sample samples ih =>
      have total : count + (samples.length + 1) = count + 1 + samples.length := by omega
      have grows := overruns_le_write (ring.push sample) samples
      change Fits places length ((ring.push sample).write samples) _
        (if ring.overruns < ((ring.push sample).write samples).overruns then 0 else lead)
      rw [List.length_cons, total]
      by_cases laps : ring.Laps
      · have overrun : (ring.push sample).overruns = ring.overruns + 1 := by
          rw [push_overruns, if_pos laps]
        have rest := ih (fits.push_of_laps laps sample)
        rw [ite_self] at rest
        rw [if_pos (by omega)]
        exact rest
      · have same : (ring.push sample).overruns = ring.overruns := by
          rw [push_overruns, if_neg laps]
        have rest := ih (fits.push laps sample)
        rwa [same] at rest

/-- A read without a pending burst puts the reader one place further ahead. -/
theorem read (fits : Fits places length ring count lead) :
    Fits places length ring.read.2 count (lead + (ring.read.2.underruns - ring.underruns)) := by
  by_cases found : 0 < ring.pending
  · rw [read_underruns, if_pos found, Nat.sub_self]
    exact fits.read_of_pending found
  · rw [read_underruns, if_neg found, Nat.add_sub_cancel_left]
    exact fits.read_of_empty (Nat.eq_zero_of_not_pos found)

/-- One call, whichever it is. -/
theorem perform (fits : Fits places length ring count lead) (call : RingCall) :
    Fits places length (ring.perform call) (count + call.samples.length)
      (if ring.overruns < (ring.perform call).overruns then 0
        else lead + ((ring.perform call).underruns - ring.underruns)) := by
  cases call with
  | write samples =>
      change Fits places length (ring.write samples) (count + samples.length)
        (if _ then 0 else lead + ((ring.write samples).underruns - ring.underruns))
      rw [write_underruns, Nat.sub_self]
      exact fits.write samples
  | read =>
      have stays : ¬ ring.overruns < (ring.perform .read).overruns := Nat.lt_irrefl _
      rw [if_neg stays]
      exact fits.read

theorem after (fits : Fits places length ring count lead) (calls : List RingCall) :
    Fits places length (ring.after calls) (count + (calls.flatMap RingCall.samples).length)
      (ring.recentUnderruns lead calls) := by
  induction calls generalizing ring count lead with
  | nil => exact fits
  | cons call calls ih =>
      have rest := ih (fits.perform call)
      rwa [Nat.add_assoc, ← List.length_append, ← List.flatMap_cons] at rest

theorem writePosition_lt (fits : Fits places length ring count lead) :
    ring.writePosition < ring.capacity := by
  rw [capacity, fits.size, fits.writePosition]
  exact Nat.mod_lt _ fits.size_pos

theorem writtenCells_lt (fits : Fits places length ring count lead) (samples : List Sample) :
    ∀ cell ∈ ring.writtenCells samples, cell < places * length := by
  induction samples generalizing ring count lead with
  | nil => exact fun _ member => absurd member List.not_mem_nil
  | cons sample samples ih =>
      intro cell member
      rcases List.mem_cons.mp member with rfl | later
      · exact fits.size ▸ fits.writePosition_lt
      · exact ih (fits.write [sample]) cell later

/-- No call uses a cell that the ring does not have. -/
theorem usedCells_lt (fits : Fits places length ring count lead) (call : RingCall) :
    ∀ cell ∈ ring.usedCells call, cell < ring.capacity := by
  intro cell used
  rw [capacity, fits.size]
  cases call with
  | write samples => exact fits.writtenCells_lt samples cell used
  | read =>
      rcases List.mem_range'_1.mp used with ⟨first, last⟩
      rw [fits.burstLength] at last
      have inside : ring.readStart + (cell - ring.readStart) < ring.cells.size :=
        fits.readStart_add_lt (by omega)
      rw [fits.size] at inside
      omega

end Fits

theorem Tallies.after {places length reads : Nat} {ring : Ring}
    (tallies : Tallies places length ring reads) (calls : List RingCall) :
    Tallies places length (ring.after calls) (reads + calls.count .read) := by
  induction calls generalizing ring reads with
  | nil => exact tallies
  | cons call calls ih =>
      cases call with
      | write samples =>
          have different : RingCall.write samples ≠ .read := by
            intro impossible
            cases impossible
          rw [List.count_cons_of_ne different]
          exact ih (tallies.write samples)
      | read =>
          rw [List.count_cons_self, Nat.add_comm (calls.count .read), ← Nat.add_assoc]
          exact ih tallies.read

/-- After any calls, the fields of a ring are what the samples written, the
reads made and the underruns since the last overrun make of them, and whatever
is called next uses cells of the ring only. -/
theorem fields_of_calls {places length : Nat} (two_le : 2 ≤ places) (length_pos : 0 < length)
    (calls : List RingCall) :
    let ring := (empty places length).after calls
    let written := (calls.flatMap RingCall.samples).length
    let reads := calls.count .read
    ring.writePosition = written % (places * length) ∧
      ring.completed = written / length ∧
      ring.consumed ≤ ring.completed ∧ ring.completed ≤ ring.consumed + places ∧
      ring.underruns ≤ reads ∧
      ring.completed = (reads - ring.underruns) + ring.overruns + ring.pending ∧
      ring.readBurst =
        (ring.consumed + (empty places length).recentUnderruns 0 calls) % places ∧
      ring.capacity = places * length ∧
      ∀ call, ∀ cell ∈ ring.usedCells call, cell < ring.capacity := by
  intro ring written reads
  have fits : Fits places length ring written ((empty places length).recentUnderruns 0 calls) := by
    have reached := (fits_empty two_le length_pos).after calls
    rwa [Nat.zero_add] at reached
  have tallies : Tallies places length ring reads := by
    have reached := (Tallies.empty two_le length_pos).after calls
    rwa [Nat.zero_add] at reached
  have total := tallies.total
  have lost := tallies.lost
  have lower := fits.consumed_le
  have accounted : ring.completed = (reads - ring.underruns) + ring.overruns + ring.pending := by
    rw [pending]
    omega
  exact ⟨fits.writePosition, fits.completed, lower, fits.completed_le, by omega, accounted,
    fits.readBurst, fits.size, fits.usedCells_lt⟩

/-- Two places of two samples: the reader runs ahead and falls out of step; an
overrun puts it back, so that of two underruns only the later one counts. -/
theorem fields_of_calls_overrun :
    let calls : List RingCall :=
      [.read, .write (List.replicate 7 .silence), .read, .read, .read]
    let ring := (empty 2 2).after calls
    2 ≤ 2 ∧ 0 < 2 ∧ (ring.underruns, ring.overruns, ring.pending) = (2, 1, 0) ∧
      ring.completed = (4 - 2) + 1 + 0 ∧ ring.readBurst = (ring.consumed + 1) % 2 := by
  intro calls ring
  have recent : (empty 2 2).recentUnderruns 0 calls = 1 := by decide
  have counters : (ring.underruns, ring.overruns, ring.pending) = (2, 1, 0) := by decide
  have fields := fields_of_calls (by decide : 2 ≤ 2) (by decide : 0 < 2) calls
  rw [recent] at fields
  exact ⟨by decide, by decide, counters, fields.2.2.2.2.2.1, fields.2.2.2.2.2.2.1⟩

end Ring
end VirtualRadio
