import VirtualRadio.Proofs.Ring.InStep

namespace VirtualRadio

/-!
# Paced readers

A paced reader reads only when a burst is pending, and, when the ring is full,
only when the writer is not in the middle of the place that is about to be
drained.  Writes may cut bursts anywhere and may lap such a reader any number
of times: what it takes are consecutive bursts of everything written, except
for those counted as overrun.
-/

namespace Ring

/-- Whether a read is made with a burst pending and clear of the writer. -/
def IsClear (ring : Ring) : Prop :=
  1 ≤ ring.pending ∧ (ring.pending < ring.bursts ∨ ring.writePosition % ring.burstLength = 0)

/-- Whether every read among some calls is clear of the writer. -/
def Paced (ring : Ring) : List RingCall → Prop
  | [] => True
  | .write samples :: calls => (ring.write samples).Paced calls
  | .read :: calls => ring.IsClear ∧ ring.read.2.Paced calls

instance (ring : Ring) : Decidable ring.IsClear :=
  inferInstanceAs (Decidable (_ ∧ _))

instance decidablePaced : (ring : Ring) → (calls : List RingCall) → Decidable (ring.Paced calls)
  | _, [] => isTrue trivial
  | ring, .write samples :: calls => decidablePaced (ring.write samples) calls
  | ring, .read :: calls =>
      have := decidablePaced ring.read.2 calls
      inferInstanceAs (Decidable (ring.IsClear ∧ ring.read.2.Paced calls))

theorem Fits.clear {places length count lead : Nat} {ring : Ring}
    (fits : Fits places length ring count lead) (isClear : ring.IsClear) :
    count ≤ (ring.consumed + places) * length := by
  have positive := fits.length_pos
  rcases isClear with ⟨_, room | boundary⟩
  · rw [pending, fits.bursts] at room
    have before : count / length < ring.consumed + places := by
      rw [← fits.completed]
      omega
    exact Nat.le_of_lt ((Nat.div_lt_iff_lt_mul positive).mp before)
  · rw [fits.writePosition, fits.burstLength, Nat.mod_mul_left_mod,
      ← Nat.dvd_iff_mod_eq_zero] at boundary
    exact fits.count_le_of_dvd boundary

end Ring

namespace TracedRing

/-- The invariant of a paced reader that has made some reads: it is in step,
and every consumed burst was read or overrun. -/
structure Delivers (places length : Nat) (traced : TracedRing) (reads : Nat) : Prop where
  sound : traced.Sound
  follows : traced.Follows places length
  consumed : traced.ring.consumed = reads + traced.ring.overruns

namespace Delivers

variable {places length reads : Nat} {traced : TracedRing}

theorem push (delivers : traced.Delivers places length reads) (sample : Sample) :
    (traced.push sample).Delivers places length reads := by
  refine ⟨delivers.sound.push delivers.follows.fits sample,
    delivers.follows.push sample, ?_⟩
  change (traced.ring.push sample).consumed = reads + (traced.ring.push sample).overruns
  by_cases laps : traced.ring.Laps
  · rw [delivers.follows.fits.push_consumed_of_laps laps, Ring.push_overruns, if_pos laps,
      delivers.consumed, Nat.add_assoc]
  · rw [Ring.push_consumed, if_neg laps, Ring.push_overruns, if_neg laps, delivers.consumed]

theorem write (delivers : traced.Delivers places length reads) (samples : List Sample) :
    (traced.write samples).Delivers places length reads := by
  induction samples generalizing traced with
  | nil => exact delivers
  | cons sample samples ih => exact ih (delivers.push sample)

theorem read (delivers : traced.Delivers places length reads) (isClear : traced.ring.IsClear) :
    traced.read.Delivers places length (reads + 1) := by
  refine ⟨delivers.sound.read delivers.follows.fits,
    delivers.follows.read_of_pending isClear.1 (delivers.follows.fits.clear isClear), ?_⟩
  have found : 0 < traced.ring.pending := isClear.1
  change traced.ring.read.2.consumed = reads + 1 + traced.ring.read.2.overruns
  rw [Ring.read_consumed, if_pos found, Ring.read_overruns, delivers.consumed]
  omega

/-- A paced reader takes the burst whose number is the count of its reads and
overruns so far. -/
theorem read_eq (delivers : traced.Delivers places length reads)
    (isClear : traced.ring.IsClear) :
    (reads + traced.ring.overruns + 1) * length ≤ traced.written.length ∧
      traced.ring.read.1 =
        (traced.written.drop ((reads + traced.ring.overruns) * length)).take length := by
  rw [← delivers.consumed]
  exact delivers.follows.read_eq_of_pending delivers.sound isClear.1
    (delivers.follows.fits.clear isClear)

/-- The invariant holds at every read of a paced run. -/
theorem before (delivers : traced.Delivers places length reads) (before later : List RingCall)
    (paced : traced.ring.Paced (before ++ .read :: later)) :
    (traced.after before).Delivers places length (reads + before.count .read) ∧
      (traced.after before).ring.IsClear := by
  induction before generalizing traced reads with
  | nil => exact ⟨delivers, paced.1⟩
  | cons call calls ih =>
      cases call with
      | write samples =>
          have rest := ih (delivers.write samples) (by rw [write_ring]; exact paced)
          have different : RingCall.write samples ≠ .read := by
            intro impossible
            cases impossible
          rw [List.count_cons_of_ne different]
          exact rest
      | read =>
          have rest := ih (delivers.read paced.1) paced.2
          rw [List.count_cons_self, Nat.add_comm (calls.count .read), ← Nat.add_assoc]
          exact rest

end Delivers
end TracedRing

namespace Ring

/-- In a paced run the read that follows `n` others takes the burst with number
`n` plus the overruns counted by then, whole, out of all that was written. -/
theorem paced_read_takes_burst {places length : Nat} (two_le : 2 ≤ places)
    (length_pos : 0 < length) (before later : List RingCall)
    (paced : (empty places length).Paced (before ++ .read :: later)) :
    let ring := (empty places length).after before
    let written := before.flatMap RingCall.samples
    let burst := before.count .read + ring.overruns
    (burst + 1) * length ≤ written.length ∧
      ring.read.1 = (written.drop (burst * length)).take length := by
  have start : (TracedRing.empty places length).Delivers places length 0 :=
    ⟨TracedRing.sound_empty places length, TracedRing.follows_empty two_le length_pos, rfl⟩
  have reached := start.before before later paced
  have taken := reached.1.read_eq reached.2
  rw [TracedRing.after_ring, TracedRing.after_written, Nat.zero_add] at taken
  exact taken

/-- Three places of two samples: one burst is read, four more are written, of
which the first is lost, and the next read takes the second of them. -/
theorem paced_read_takes_burst_after_overrun :
    let sample : UInt32 → Sample := fun bits => ⟨⟨bits⟩, .zero⟩
    let before : List RingCall :=
      [.write [sample 0, sample 1], .read, .write ([2, 3, 4].map sample),
        .write ([5, 6, 7, 8, 9].map sample)]
    (empty 3 2).Paced (before ++ .read :: [.read]) ∧
      before.count .read + ((empty 3 2).after before).overruns = 2 ∧
      ((empty 3 2).after before).read.1 = [sample 4, sample 5] := by
  intro sample before
  have paced : (empty 3 2).Paced (before ++ .read :: [.read]) := by decide
  have counted : before.count .read + ((empty 3 2).after before).overruns = 2 := by decide
  have taken := (paced_read_takes_burst (by decide) (by decide) before [.read] paced).2
  rw [counted] at taken
  exact ⟨paced, counted, taken⟩

end Ring
end VirtualRadio
