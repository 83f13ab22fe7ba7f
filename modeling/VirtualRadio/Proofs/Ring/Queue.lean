import Mathlib.Data.Nat.ModEq
import VirtualRadio.Proofs.Ring.BurstQueue
import VirtualRadio.Proofs.Ring.Places
import VirtualRadio.Proofs.Ring.Provenance

namespace VirtualRadio
namespace Ring

/-!
# The ring follows the queue

A ring that is only written whole bursts and the queue of the same calls agree on
the counters, and the ring's places hold what the queue says, starting at the place
of the oldest queued burst.  That place is found from the number of consumed bursts,
and the reader's place from it by the lead.
-/

variable {length : Nat}

/-- What the places of a ring hold, from one of them on. -/
def Holds (ring : Ring) (oldest : Nat) (held : List (Option (Burst length))) : Prop :=
  ∀ index content, held[index]? = some content →
    ring.place ((oldest + index) % held.length) = Burst.orSilence content

namespace Holds

variable {ring next : Ring} {oldest : Nat} {held : List (Option (Burst length))}

theorem rotate (holds : ring.Holds oldest held) : ring.Holds (oldest + 1) (held.rotate 1) := by
  intro index content listed
  rw [BurstQueue.getElem?_rotate_one] at listed
  rw [List.length_rotate, Nat.add_assoc, Nat.add_comm 1]
  split at listed
  · exact holds (index + 1) content listed
  · split at listed
    · next last =>
      rw [last, Nat.add_mod_right]
      exact holds 0 content listed
    · cases listed

theorem set (holds : ring.Holds oldest held) {place : Nat} (entry : Option (Burst length))
    (inside : place < held.length)
    (changed : ∀ number, number < held.length → next.place number =
      if number = (oldest + place) % held.length then Burst.orSilence entry
      else ring.place number) :
    next.Holds oldest (held.set place entry) := by
  intro index content listed
  have positive : 0 < held.length := Nat.lt_of_le_of_lt (Nat.zero_le _) inside
  rw [List.length_set, changed _ (Nat.mod_lt _ positive)]
  rw [List.getElem?_set] at listed
  split at listed
  · next same =>
    rw [same, if_pos rfl, Option.some.inj listed]
  · next other =>
    have within := (List.getElem?_eq_some_iff.mp listed).1
    have apart : (oldest + index) % held.length ≠ (oldest + place) % held.length := by
      intro same
      have equal := Nat.ModEq.add_left_cancel' oldest same
      rw [Nat.ModEq, Nat.mod_eq_of_lt within, Nat.mod_eq_of_lt inside] at equal
      exact other equal.symm
    rw [if_neg apart]
    exact holds index content listed

end Holds

/-- A ring that was only written whole bursts, and the queue of the same calls. -/
structure Mirrors (ring : Ring) (written : List (Burst length)) (queue : BurstQueue length) :
    Prop where
  fits : Fits queue.places length ring (ring.completed * length) queue.lead
  pending : ring.pending = queue.queued.length
  overruns : ring.overruns = queue.overruns
  underruns : ring.underruns = queue.underruns
  holds : ring.Holds ring.consumed queue.held
  accounted : queue.Accounted
  ordered : queue.Ordered written

namespace Mirrors

variable {ring : Ring} {written : List (Burst length)} {queue : BurstQueue length}

theorem empty {places : Nat} (two_le : 2 ≤ places) (length_pos : 0 < length) :
    (empty places length).Mirrors [] (.empty places : BurstQueue length) where
  fits := by
    rw [BurstQueue.places, BurstQueue.empty, List.length_replicate]
    change Fits places length (Ring.empty places length) (0 * length) 0
    rw [Nat.zero_mul]
    exact fits_empty two_le length_pos
  pending := rfl
  overruns := rfl
  underruns := rfl
  holds := by
    intro index content listed
    have nothing : content = none := by
      rw [BurstQueue.empty, List.getElem?_replicate] at listed
      split at listed
      · exact (Option.some.inj listed).symm
      · cases listed
    have inside : index < places := by
      have within := (List.getElem?_eq_some_iff.mp listed).1
      rwa [BurstQueue.empty, List.length_replicate] at within
    change (Ring.empty places length).place ((0 + index) % (List.replicate places none).length) = _
    rw [Nat.zero_add, List.length_replicate, Nat.mod_eq_of_lt inside, nothing]
    exact Fits.place_empty two_le length_pos inside
  accounted := .empty two_le
  ordered := .empty places

theorem completed_eq (mirrors : ring.Mirrors written queue) :
    ring.completed = ring.consumed + queue.queued.length := by
  have lower := mirrors.fits.consumed_le
  have pending := mirrors.pending
  rw [Ring.pending] at pending
  omega

theorem readBurst_eq (mirrors : ring.Mirrors written queue) :
    ring.readBurst = (ring.consumed + queue.ahead) % queue.places := by
  rw [mirrors.fits.readBurst, BurstQueue.ahead, Nat.add_mod_mod]

/-! ### Writing a burst -/

theorem write_burst_counters (mirrors : ring.Mirrors written queue) (burst : Burst length) :
    (ring.write burst.val).consumed =
        (if queue.queued.length = queue.places then ring.consumed + 1 else ring.consumed) ∧
      (ring.write burst.val).overruns = (queue.enqueue burst).overruns := by
  have counted := mirrors.fits.write_burst (Nat.dvd_mul_left _ _) burst.property
  rw [mirrors.pending] at counted
  refine ⟨counted.1, ?_⟩
  rw [counted.2, mirrors.overruns, BurstQueue.enqueue]
  split <;> rfl

theorem write_burst_completed (mirrors : ring.Mirrors written queue) (burst : Burst length) :
    (ring.write burst.val).completed = ring.completed + 1 := by
  rw [(mirrors.fits.write burst.val).completed, burst.property, ← Nat.succ_mul,
    Nat.mul_div_cancel _ mirrors.fits.length_pos]

theorem write_burst_fits (mirrors : ring.Mirrors written queue) (burst : Burst length) :
    Fits (queue.enqueue burst).places length (ring.write burst.val)
      ((ring.write burst.val).completed * length) (queue.enqueue burst).lead := by
  have fits := mirrors.fits.write burst.val
  rw [burst.property, ← Nat.succ_mul, Nat.succ_eq_add_one, ← mirrors.write_burst_completed burst,
    (mirrors.write_burst_counters burst).2, mirrors.overruns] at fits
  rw [BurstQueue.enqueue_places]
  by_cases full : queue.queued.length = queue.places
  · rw [BurstQueue.enqueue_of_full full] at fits ⊢
    rwa [if_pos (Nat.lt_succ_self _)] at fits
  · rw [BurstQueue.enqueue_of_room full] at fits ⊢
    rwa [if_neg (Nat.lt_irrefl _)] at fits

/-- The burst fills the place after the last queued one's.  In a full ring that is the
place of the oldest queued burst. -/
theorem write_burst_holds (mirrors : ring.Mirrors written queue) (burst : Burst length) :
    (ring.write burst.val).Holds (ring.write burst.val).consumed (queue.enqueue burst).held := by
  have accounted := mirrors.accounted
  have consumed := (mirrors.write_burst_counters burst).1
  have placed : ∀ number, number < queue.held.length → (ring.write burst.val).place number =
      if number = (ring.consumed + queue.queued.length) % queue.held.length then burst.val
      else ring.place number := by
    intro number within
    rw [← mirrors.completed_eq]
    exact mirrors.fits.place_write_burst burst.property within
  by_cases full : queue.queued.length = queue.places
  · rw [if_pos full] at consumed
    rw [full, BurstQueue.places, Nat.add_mod_right, ← Nat.add_zero ring.consumed] at placed
    have positive := Nat.lt_of_le_of_lt (Nat.zero_le _) accounted.ahead_lt
    have filled := mirrors.holds.set (some burst) positive placed
    rw [consumed, BurstQueue.enqueue_of_full full]
    exact filled.rotate
  · rw [if_neg full] at consumed
    have room := Nat.lt_of_le_of_ne accounted.queued_le full
    rw [consumed, BurstQueue.enqueue_of_room full]
    exact mirrors.holds.set (some burst) room placed

theorem write_burst (mirrors : ring.Mirrors written queue) (burst : Burst length) :
    (ring.write burst.val).Mirrors (written ++ [burst]) (queue.enqueue burst) where
  fits := mirrors.write_burst_fits burst
  pending := by
    have two_le := mirrors.accounted.two_le
    have completed_eq := mirrors.completed_eq
    rw [Ring.pending, mirrors.write_burst_completed burst, (mirrors.write_burst_counters burst).1,
      BurstQueue.length_enqueue (Nat.lt_of_lt_of_le Nat.zero_lt_two two_le)]
    split <;> omega
  overruns := (mirrors.write_burst_counters burst).2
  underruns := by
    rw [Fits.write_underruns, mirrors.underruns, BurstQueue.enqueue]
    split <;> rfl
  holds := mirrors.write_burst_holds burst
  accounted := mirrors.accounted.enqueue burst
  ordered := mirrors.ordered.enqueue mirrors.accounted.two_le burst

theorem write (mirrors : ring.Mirrors written queue) (bursts : List (Burst length)) :
    (ring.write (bursts.flatMap Subtype.val)).Mirrors (written ++ bursts)
      (bursts.foldl BurstQueue.enqueue queue) := by
  induction bursts generalizing ring written queue with
  | nil =>
      rw [List.append_nil]
      exact mirrors
  | cons burst bursts ih =>
      have rest := ih (mirrors.write_burst burst)
      rw [List.append_assoc, List.singleton_append] at rest
      rw [List.flatMap_cons, write_append]
      exact rest

/-! ### Reading -/

/-- A read returns what the reader has reached. -/
theorem read_eq (mirrors : ring.Mirrors written queue) :
    ring.read.1 = Burst.orSilence queue.reached := by
  have inside := mirrors.accounted.ahead_lt
  have held := List.getElem?_eq_getElem (l := queue.held) inside
  change ring.place ring.readBurst = _
  rw [mirrors.readBurst_eq, BurstQueue.reached, held]
  exact mirrors.holds _ _ held

theorem read (mirrors : ring.Mirrors written queue) :
    ring.read.2.Mirrors written queue.dequeue := by
  have fits := mirrors.fits
  have inside := mirrors.accounted.ahead_lt
  have pending := mirrors.pending
  have drained : ring.read.2.Holds ring.consumed (queue.held.set queue.ahead none) := by
    refine mirrors.holds.set none inside fun number within => ?_
    rw [fits.place_read within, mirrors.readBurst_eq]
    rfl
  cases queued : queue.queued with
  | nil =>
      rw [queued, List.length_nil] at pending
      have empty : ¬ 0 < ring.pending := by omega
      have consumed : ring.read.2.consumed = ring.consumed := by
        rw [read_consumed, if_neg empty]
      have dequeued := BurstQueue.dequeue_of_nil queued
      refine ⟨?_, ?_, ?_, ?_, ?_, mirrors.accounted.dequeue, mirrors.ordered.dequeue⟩
      · rw [BurstQueue.dequeue_places, dequeued]
        exact fits.read_of_empty pending
      · rw [Ring.pending, read_completed, consumed, dequeued, queued]
        exact pending
      · rw [dequeued]
        exact mirrors.overruns
      · rw [read_underruns, if_neg empty, mirrors.underruns, dequeued]
      · rw [consumed, dequeued]
        exact drained
  | cons first later =>
      rw [queued, List.length_cons] at pending
      have found : 0 < ring.pending := by omega
      have consumed : ring.read.2.consumed = ring.consumed + 1 := by
        rw [read_consumed, if_pos found]
      have dequeued := BurstQueue.dequeue_of_cons queued
      refine ⟨?_, ?_, ?_, ?_, ?_, mirrors.accounted.dequeue, mirrors.ordered.dequeue⟩
      · rw [BurstQueue.dequeue_places, dequeued]
        exact fits.read_of_pending found
      · rw [Ring.pending] at pending
        rw [Ring.pending, read_completed, consumed, dequeued]
        change _ = later.length
        omega
      · rw [dequeued]
        exact mirrors.overruns
      · rw [read_underruns, if_pos found, mirrors.underruns, dequeued]
      · rw [consumed, dequeued]
        exact drained.rotate

/-! ### Runs -/

theorem after (mirrors : ring.Mirrors written queue) (calls : List (BurstCall length)) :
    (ring.after (calls.map BurstCall.toRingCall)).Mirrors
      (written ++ calls.flatMap BurstCall.bursts) (queue.after calls) := by
  induction calls generalizing ring written queue with
  | nil =>
      rw [List.flatMap_nil, List.append_nil]
      exact mirrors
  | cons call calls ih =>
      rw [List.flatMap_cons, ← List.append_assoc]
      cases call with
      | write bursts => exact ih (mirrors.write bursts)
      | read =>
          rw [BurstCall.bursts, List.append_nil]
          exact ih mirrors.read

/-- The reads of a run take what they return from the queue. -/
theorem taken_eq (mirrors : ring.Mirrors written queue) (calls : List (BurstCall length)) :
    queue.returned.map Burst.orSilence ++ ring.taken (calls.map BurstCall.toRingCall) =
      (queue.after calls).returned.map Burst.orSilence := by
  induction calls generalizing ring written queue with
  | nil => exact List.append_nil _
  | cons call calls ih =>
      cases call with
      | write bursts =>
          have rest := ih (mirrors.write bursts)
          rw [BurstQueue.enqueueAll_returned] at rest
          exact rest
      | read =>
          have rest := ih mirrors.read
          rw [BurstQueue.dequeue_returned, List.map_append, List.map_singleton, ← mirrors.read_eq,
            List.append_assoc, List.singleton_append] at rest
          exact rest

end Mirrors

/-- The ring counts like the queue, and its reads return what the queue's reader
reaches.  A queued burst lies in its place until it is returned.  A reader in step
returns the oldest queued burst, or silence if there is none or if that burst was
returned before; of the places at least two hold no such burst.  When every read is
made in step, the reads return what the queue answers.

Answered and queued bursts keep the order of writing and miss only bursts that were
counted as overrun.  No sample is returned twice. -/
theorem drop_oldest_queue {places length : Nat} (two_le : 2 ≤ places) (length_pos : 0 < length)
    (calls : List (BurstCall length)) :
    let ring := (empty places length).after (calls.map BurstCall.toRingCall)
    let taken := (empty places length).taken (calls.map BurstCall.toRingCall)
    let queue : BurstQueue length := (BurstQueue.empty places).after calls
    let written := calls.flatMap BurstCall.bursts
    (ring.pending = queue.queued.length ∧ ring.overruns = queue.overruns ∧
        ring.underruns = queue.underruns) ∧
      (taken = queue.returned.map Burst.orSilence ∧
        ring.read.1 = Burst.orSilence queue.reached) ∧
      (∀ (index : Nat) burst, queue.queued[index]? = some burst →
        queue.held[index]? = some (some burst) ∨
          queue.held[index]? = some none ∧ some burst ∈ queue.returned) ∧
      (queue.inStep = true →
        (queue.reached = queue.queued.head? ∨
          queue.reached = none ∧ queue.queued.head? ∈ queue.returned) ∧
        (queue.held.take queue.queued.length).countP Option.isNone + 2 ≤ places) ∧
      (queue.steady = true → queue.returned = queue.answered) ∧
      (queue.answered.reduceOption ++ queue.queued).Sublist written ∧
      queue.answered.reduceOption.length + queue.queued.length + queue.overruns =
        written.length ∧
      ∃ sources : List (List (Option Nat)),
        taken = sources.map (List.map (sampleOf (written.flatMap Subtype.val))) ∧
          sources.flatten.reduceOption.Nodup := by
  intro ring taken queue written
  have start := Mirrors.empty two_le length_pos
  have mirrors : ring.Mirrors written queue := start.after calls
  have accounted := mirrors.accounted
  have sameTaken : taken = queue.returned.map Burst.orSilence := start.taken_eq calls
  have size : queue.places = places :=
    (BurstQueue.after_places _ calls).trans List.length_replicate
  have samples : (calls.map BurstCall.toRingCall).flatMap RingCall.samples =
      written.flatMap Subtype.val := by
    rw [List.flatMap_map, List.flatMap_assoc]
    apply List.flatMap_congr
    intro call _
    cases call <;> rfl
  refine ⟨⟨mirrors.pending, mirrors.overruns, mirrors.underruns⟩, ⟨sameTaken, mirrors.read_eq⟩,
    ?kept, ?inStep, accounted.agreed, mirrors.ordered.inOrder, mirrors.ordered.total, ?sources⟩
  case kept =>
    intro index burst listed
    exact (accounted.kept index burst listed).imp_right fun early =>
      ⟨early.hollow, early.returned⟩
  case inStep =>
    intro inStep
    refine ⟨(accounted.reached_eq inStep).imp_right fun missed => ⟨missed.1, missed.2.1⟩, ?_⟩
    exact size ▸ accounted.few_returned_early inStep
  case sources => exact samples ▸ TracedRing.taken_once two_le length_pos _

/-- Two places of two samples: three bursts are written, the first is lost, and
the reader, which is in step, takes the second. -/
theorem drop_oldest_queue_overrun :
    let burst : UInt32 → Burst 2 := fun bits => ⟨[⟨⟨bits⟩, .zero⟩, ⟨⟨bits⟩, .zero⟩], rfl⟩
    let calls : List (BurstCall 2) := [.write [burst 1, burst 2], .write [burst 3]]
    let ring := (empty 2 2).after (calls.map BurstCall.toRingCall)
    ring.pending = 2 ∧ ring.overruns = 1 ∧ ring.read.1 = (burst 2).val := by
  intro burst calls ring
  have follows := drop_oldest_queue (Nat.le_refl 2) Nat.zero_lt_two calls
  exact ⟨follows.1.1, follows.1.2.1, follows.2.1.2⟩

/-- A reader that has moved on without finding a burst does not take the oldest
queued burst, although one is pending: the first read finds nothing, one burst
is written to the place that was read, and the second read looks at the next
place. -/
theorem reader_ahead_misses_oldest :
    let burst : Burst 1 := ⟨[⟨⟨1⟩, .zero⟩], rfl⟩
    let calls : List (BurstCall 1) := [.read, .write [burst]]
    let ring := (empty 2 1).after (calls.map BurstCall.toRingCall)
    let queue := (BurstQueue.empty 2).after calls
    ring.pending = 1 ∧ queue.queued = [burst] ∧ ring.read.1 = [.silence] ∧
      ring.read.1 ≠ burst.val := by
  decide

/-- An overrun puts such a reader back: of three bursts the first is lost, and the
reads take the other two. -/
example :
    let burst : UInt32 → Burst 1 := fun bits => ⟨[⟨⟨bits⟩, .zero⟩], rfl⟩
    let calls : List (BurstCall 1) := [.read, .write [burst 1, burst 2, burst 3], .read, .read]
    (empty 2 1).taken (calls.map BurstCall.toRingCall) =
      [[.silence], (burst 2).val, (burst 3).val] := by
  decide

end Ring
end VirtualRadio
