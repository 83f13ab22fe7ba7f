import Mathlib.Data.List.ReduceOption
import Mathlib.Data.List.Rotate
import VirtualRadio.Proofs.Ring.Calls

namespace VirtualRadio

/-!
# The ring as a queue of bursts

When only whole bursts are written, the ring is a bounded queue that drops its
oldest burst when it is full, and a reader that may have run ahead of it.
`BurstQueue` is both, with nothing in it about cells and cursors.

A read takes the oldest burst off the queue, but it returns what the reader's
place holds.  A read that finds nothing queued moves the reader on all the
same, and only an overrun puts it back on the oldest burst.  So the reader
leads by the underruns since the last overrun.  It is *in step* when these are
a multiple of the number of places: then it stands on the oldest burst and
returns it.

A reader out of step returns bursts that stay queued behind it.  They are all
that a reader in step may miss later on, and they are few: such a burst was
passed by the reader, and one more place was lost to the overrun that put the
reader back.
-/

/-- A burst of a given length. -/
abbrev Burst (length : Nat) : Type :=
  { samples : List Sample // samples.length = length }

namespace Burst

variable {length : Nat}

/-- The silent burst. -/
def silence (length : Nat) : Burst length :=
  ⟨List.replicate length .silence, List.length_replicate⟩

/-- The samples of a burst, and silence without one. -/
def orSilence (burst : Option (Burst length)) : List Sample :=
  (burst.getD (silence length)).val

end Burst

/-- A call of a ring that is only written whole bursts. -/
inductive BurstCall (length : Nat) where
  | write (bursts : List (Burst length))
  | read

namespace BurstCall

variable {length : Nat}

/-- The bursts that a call appends. -/
def bursts : BurstCall length → List (Burst length)
  | write bursts => bursts
  | read => []

/-- The call of the ring. -/
def toRingCall : BurstCall length → RingCall
  | write bursts => .write (bursts.flatMap Subtype.val)
  | read => .read

end BurstCall

/-- A queue that drops its oldest burst when it is full, and its reader. -/
structure BurstQueue (length : Nat) where
  /-- The queued bursts, the oldest first. -/
  queued : List (Burst length)
  /-- What the places hold that was not returned, from the oldest burst's on. -/
  held : List (Option (Burst length))
  overruns : Nat
  underruns : Nat
  /-- The underruns since the last overrun. -/
  lead : Nat
  /-- The bursts that reads took off the queue, or none where nothing was queued. -/
  answered : List (Option (Burst length))
  /-- What the reads returned. -/
  returned : List (Option (Burst length))
  /-- Whether every read was made in step. -/
  steady : Bool

namespace BurstQueue

variable {length : Nat}

/-- The queue of a new ring. -/
def empty (places : Nat) : BurstQueue length :=
  ⟨[], List.replicate places none, 0, 0, 0, [], [], true⟩

def places (queue : BurstQueue length) : Nat :=
  queue.held.length

/-- How many places after the oldest queued burst's the reader stands. -/
def ahead (queue : BurstQueue length) : Nat :=
  queue.lead % queue.places

def inStep (queue : BurstQueue length) : Bool :=
  queue.ahead == 0

/-- What the reader's place holds. -/
def reached (queue : BurstQueue length) : Option (Burst length) :=
  queue.held[queue.ahead]?.join

/-- Add a burst, in place of the oldest one if there is no place left. -/
def enqueue (queue : BurstQueue length) (burst : Burst length) : BurstQueue length :=
  if queue.queued.length = queue.places then
    { queue with
      queued := queue.queued.tail ++ [burst]
      held := (queue.held.set 0 (some burst)).rotate 1
      overruns := queue.overruns + 1
      lead := 0 }
  else
    { queue with
      queued := queue.queued ++ [burst]
      held := queue.held.set queue.queued.length (some burst) }

/-- Return what the reader has reached, and take the oldest burst off or count an
underrun. -/
def dequeue (queue : BurstQueue length) : BurstQueue length :=
  let next := { queue with
    held := queue.held.set queue.ahead none
    answered := queue.answered ++ [queue.queued.head?]
    returned := queue.returned ++ [queue.reached]
    steady := queue.steady && queue.inStep }
  match queue.queued with
  | [] => { next with underruns := queue.underruns + 1, lead := queue.lead + 1 }
  | _ :: later => { next with queued := later, held := next.held.rotate 1 }

/-- Make one call. -/
def perform (queue : BurstQueue length) : BurstCall length → BurstQueue length
  | .write bursts => bursts.foldl enqueue queue
  | .read => queue.dequeue

/-- Make calls one after the other. -/
def after (queue : BurstQueue length) (calls : List (BurstCall length)) : BurstQueue length :=
  calls.foldl perform queue

/-! ## What one call does -/

section Calls

variable {queue : BurstQueue length} {burst first : Burst length} {later : List (Burst length)}

theorem getElem?_rotate_one {entry : Type} (entries : List entry) (index : Nat) :
    (entries.rotate 1)[index]? =
      if index + 1 < entries.length then entries[index + 1]?
      else if index + 1 = entries.length then entries[0]? else none := by
  by_cases inside : index < entries.length
  · rw [List.getElem?_rotate inside]
    split
    · next next => rw [Nat.mod_eq_of_lt next]
    · have last : index + 1 = entries.length := by omega
      rw [if_pos last, last, Nat.mod_self]
  · rw [if_neg (by omega), if_neg (by omega),
      List.getElem?_eq_none (by rw [List.length_rotate]; omega)]

theorem enqueue_of_full (full : queue.queued.length = queue.places) (burst : Burst length) :
    queue.enqueue burst = { queue with
      queued := queue.queued.tail ++ [burst]
      held := (queue.held.set 0 (some burst)).rotate 1
      overruns := queue.overruns + 1
      lead := 0 } := by
  rw [enqueue, if_pos full]

theorem enqueue_of_room (room : queue.queued.length ≠ queue.places) (burst : Burst length) :
    queue.enqueue burst = { queue with
      queued := queue.queued ++ [burst]
      held := queue.held.set queue.queued.length (some burst) } := by
  rw [enqueue, if_neg room]

theorem dequeue_of_nil (nothing : queue.queued = []) :
    queue.dequeue = { queue with
      held := queue.held.set queue.ahead none
      underruns := queue.underruns + 1
      lead := queue.lead + 1
      answered := queue.answered ++ [none]
      returned := queue.returned ++ [queue.reached]
      steady := queue.steady && queue.inStep } := by
  rw [dequeue, nothing, List.head?_nil]

theorem dequeue_of_cons (found : queue.queued = first :: later) :
    queue.dequeue = { queue with
      queued := later
      held := (queue.held.set queue.ahead none).rotate 1
      answered := queue.answered ++ [some first]
      returned := queue.returned ++ [queue.reached]
      steady := queue.steady && queue.inStep } := by
  rw [dequeue, found, List.head?_cons]

theorem enqueue_places : (queue.enqueue burst).places = queue.places := by
  rw [enqueue]
  split
  · exact (List.length_rotate _ _).trans List.length_set
  · exact List.length_set

theorem dequeue_places : queue.dequeue.places = queue.places := by
  cases queued : queue.queued with
  | nil =>
      rw [dequeue_of_nil queued]
      exact List.length_set
  | cons first later =>
      rw [dequeue_of_cons queued]
      exact (List.length_rotate _ _).trans List.length_set

theorem length_enqueue (positive : 0 < queue.places) :
    (queue.enqueue burst).queued.length =
      if queue.queued.length = queue.places then queue.places else queue.queued.length + 1 := by
  rw [enqueue]
  split
  · next full =>
    change (queue.queued.tail ++ [burst]).length = queue.places
    rw [List.length_append, List.length_tail, List.length_singleton, full]
    exact Nat.sub_add_cancel positive
  · exact List.length_append

theorem enqueue_returned : (queue.enqueue burst).returned = queue.returned := by
  rw [enqueue]
  split <;> rfl

theorem enqueue_answered : (queue.enqueue burst).answered = queue.answered := by
  rw [enqueue]
  split <;> rfl

theorem enqueue_steady : (queue.enqueue burst).steady = queue.steady := by
  rw [enqueue]
  split <;> rfl

theorem dequeue_returned : queue.dequeue.returned = queue.returned ++ [queue.reached] := by
  rw [dequeue]
  split <;> rfl

theorem dequeue_answered : queue.dequeue.answered = queue.answered ++ [queue.queued.head?] := by
  rw [dequeue]
  split <;> rfl

theorem dequeue_steady : queue.dequeue.steady = (queue.steady && queue.inStep) := by
  rw [dequeue]
  split <;> rfl

/-- An overrun puts the reader on the oldest burst. -/
theorem enqueue_ahead_of_full (full : queue.queued.length = queue.places) :
    (queue.enqueue burst).ahead = 0 := by
  rw [enqueue_of_full full]
  exact Nat.zero_mod _

theorem enqueue_ahead_of_room (room : queue.queued.length ≠ queue.places) :
    (queue.enqueue burst).ahead = queue.ahead := by
  rw [ahead, enqueue_places, enqueue_of_room room, ahead]

theorem dequeue_ahead_of_nil (nothing : queue.queued = []) :
    queue.dequeue.ahead = (queue.ahead + 1) % queue.places := by
  rw [ahead, dequeue_places, dequeue_of_nil nothing, ahead, Nat.mod_add_mod]

theorem dequeue_ahead_of_cons (found : queue.queued = first :: later) :
    queue.dequeue.ahead = queue.ahead := by
  rw [ahead, dequeue_places, dequeue_of_cons found, ahead]

/-- The new burst fills the place of the oldest one, which is the last from now on. -/
theorem enqueue_held_of_full (full : queue.queued.length = queue.places)
    (positive : 0 < queue.places) (burst : Burst length) (index : Nat) :
    (queue.enqueue burst).held[index]? =
      if index + 1 < queue.places then queue.held[index + 1]?
      else if index + 1 = queue.places then some (some burst) else none := by
  rw [enqueue_of_full full]
  dsimp only
  rw [getElem?_rotate_one, List.length_set, List.getElem?_set_ne (Nat.succ_ne_zero index).symm,
    List.getElem?_set_self positive]
  rfl

theorem enqueue_held_of_room (room : queue.queued.length ≠ queue.places)
    (short : queue.queued.length ≤ queue.places) (burst : Burst length) (index : Nat) :
    (queue.enqueue burst).held[index]? =
      if index = queue.queued.length then some (some burst) else queue.held[index]? := by
  rw [enqueue_of_room room]
  dsimp only
  split
  · next last => rw [last, List.getElem?_set_self (Nat.lt_of_le_of_ne short room)]
  · next other => rw [List.getElem?_set_ne (Ne.symm other)]

theorem dequeue_held_of_nil (nothing : queue.queued = []) (inside : queue.ahead < queue.places)
    (index : Nat) :
    queue.dequeue.held[index]? =
      if index = queue.ahead then some none else queue.held[index]? := by
  rw [dequeue_of_nil nothing]
  dsimp only
  split
  · next here => rw [here, List.getElem?_set_self inside]
  · next other => rw [List.getElem?_set_ne (Ne.symm other)]

/-- The place of the burst that is taken off is the last from now on. -/
theorem dequeue_held_of_cons (found : queue.queued = first :: later)
    (inside : queue.ahead < queue.places) (index : Nat) :
    queue.dequeue.held[index]? =
      if index + 1 < queue.places then
        if index + 1 = queue.ahead then some none else queue.held[index + 1]?
      else if index + 1 = queue.places then
        if queue.ahead = 0 then some none else queue.held[0]?
      else none := by
  rw [dequeue_of_cons found]
  dsimp only
  rw [getElem?_rotate_one, List.length_set, List.getElem?_set, List.getElem?_set,
    if_pos (show queue.ahead < queue.held.length from inside)]
  simp only [eq_comm (a := queue.ahead) (b := index + 1)]
  rfl

end Calls

theorem enqueueAll_returned (queue : BurstQueue length) (bursts : List (Burst length)) :
    (bursts.foldl enqueue queue).returned = queue.returned := by
  induction bursts generalizing queue with
  | nil => rfl
  | cons burst bursts ih => exact (ih (queue.enqueue burst)).trans enqueue_returned

theorem enqueueAll_places (queue : BurstQueue length) (bursts : List (Burst length)) :
    (bursts.foldl enqueue queue).places = queue.places := by
  induction bursts generalizing queue with
  | nil => rfl
  | cons burst bursts ih => exact (ih (queue.enqueue burst)).trans enqueue_places

theorem after_places (queue : BurstQueue length) (calls : List (BurstCall length)) :
    (queue.after calls).places = queue.places := by
  induction calls generalizing queue with
  | nil => rfl
  | cons call calls ih =>
      refine (ih (queue.perform call)).trans ?_
      cases call with
      | write bursts => exact enqueueAll_places queue bursts
      | read => exact dequeue_places

/-! ## What the places hold -/

variable {queue : BurstQueue length}

/-- A queued burst that its place no longer holds: a reader out of step has
returned it. -/
structure ReturnedEarly (queue : BurstQueue length) (index : Nat) (burst : Burst length) :
    Prop where
  hollow : queue.held[index]? = some none
  returned : some burst ∈ queue.returned
  unsteady : queue.steady = false
  passed : index < queue.ahead ∨ queue.ahead = 0 ∧ index + 2 < queue.places

/-- The queued bursts lie in the places that the reader finds next.  Places that it
has passed and that were not filled since are empty. -/
structure Accounted (queue : BurstQueue length) : Prop where
  two_le : 2 ≤ queue.places
  queued_le : queue.queued.length ≤ queue.places
  kept : ∀ index burst, queue.queued[index]? = some burst →
    queue.held[index]? = some (some burst) ∨ queue.ReturnedEarly index burst
  drained : ∀ index, queue.queued.length ≤ index → queue.ahead = 0 ∨ index < queue.ahead →
    queue.held[index]?.join = none
  agreed : queue.steady = true → queue.returned = queue.answered

namespace Accounted

theorem empty {places : Nat} (two_le : 2 ≤ places) :
    (empty places : BurstQueue length).Accounted where
  two_le := by
    rw [BurstQueue.places, BurstQueue.empty, List.length_replicate]
    exact two_le
  queued_le := Nat.zero_le _
  kept := by
    intro index burst impossible
    cases impossible
  drained := by
    intro index _ _
    rw [BurstQueue.empty, List.getElem?_replicate]
    split <;> rfl
  agreed := fun _ => rfl

theorem ahead_lt (accounted : queue.Accounted) : queue.ahead < queue.places :=
  Nat.mod_lt _ (Nat.lt_of_lt_of_le Nat.zero_lt_two accounted.two_le)

/-- A new burst fills the place after the last one. -/
theorem enqueue_of_room (accounted : queue.Accounted)
    (room : queue.queued.length ≠ queue.places) (burst : Burst length) :
    (queue.enqueue burst).Accounted := by
  have short := accounted.queued_le
  have held := enqueue_held_of_room room short burst
  have queued : (queue.enqueue burst).queued = queue.queued ++ [burst] := by
    rw [BurstQueue.enqueue_of_room room]
  refine ⟨?two_le, ?queued_le, ?kept, ?drained, ?agreed⟩
  case two_le => exact enqueue_places.symm ▸ accounted.two_le
  case queued_le =>
    rw [enqueue_places, queued, List.length_append, List.length_singleton]
    omega
  case kept =>
    intro index other listed
    rw [queued, List.getElem?_append] at listed
    rw [held]
    by_cases before : index < queue.queued.length
    · rw [if_pos before] at listed
      rw [if_neg (Nat.ne_of_lt before)]
      refine (accounted.kept index other listed).imp_right fun early => ?_
      refine ⟨?_, enqueue_returned.symm ▸ early.returned,
        enqueue_steady.trans early.unsteady, ?_⟩
      · rw [held, if_neg (Nat.ne_of_lt before), early.hollow]
      · rw [enqueue_ahead_of_room room, enqueue_places]
        exact early.passed
    · left
      rw [if_neg before, List.getElem?_singleton] at listed
      split at listed
      · next last =>
        rw [if_pos (by omega), listed]
      · cases listed
  case drained =>
    intro index beyond passed
    rw [queued, List.length_append, List.length_singleton] at beyond
    rw [enqueue_ahead_of_room room] at passed
    rw [held, if_neg (by omega)]
    exact accounted.drained index (by omega) passed
  case agreed =>
    rw [enqueue_steady, enqueue_returned, enqueue_answered]
    exact accounted.agreed

/-- An overrun puts the reader in step.  What it has passed moves up by one place, and
the oldest burst, which it has passed first, is gone. -/
theorem enqueue_of_full (accounted : queue.Accounted)
    (full : queue.queued.length = queue.places) (burst : Burst length) :
    (queue.enqueue burst).Accounted := by
  have two_le := accounted.two_le
  have ahead_lt := accounted.ahead_lt
  have held := enqueue_held_of_full full (by omega) burst
  have queued : (queue.enqueue burst).queued = queue.queued.tail ++ [burst] := by
    rw [BurstQueue.enqueue_of_full full]
  have others : queue.queued.tail.length + 1 = queue.places := by
    rw [List.length_tail, full]
    omega
  refine ⟨?two_le, ?queued_le, ?kept, ?drained, ?agreed⟩
  case two_le => exact enqueue_places.symm ▸ two_le
  case queued_le =>
    rw [enqueue_places, queued, List.length_append, List.length_singleton, others]
  case kept =>
    intro index other listed
    rw [queued, List.getElem?_append, List.getElem?_tail] at listed
    rw [held]
    by_cases before : index < queue.queued.tail.length
    · rw [if_pos before] at listed
      rw [if_pos (by omega)]
      refine (accounted.kept (index + 1) other listed).imp_right fun early => ?_
      have passed := early.passed
      refine ⟨?_, enqueue_returned.symm ▸ early.returned,
        enqueue_steady.trans early.unsteady, .inr ?_⟩
      · rw [held, if_pos (by omega), early.hollow]
      · rw [enqueue_ahead_of_full full, enqueue_places]
        omega
    · left
      rw [if_neg before, List.getElem?_singleton] at listed
      split at listed
      · next last =>
        rw [if_neg (by omega), if_pos (by omega), listed]
      · cases listed
  case drained =>
    intro index beyond _
    rw [queued, List.length_append, List.length_singleton] at beyond
    rw [held, if_neg (by omega), if_neg (by omega)]
    rfl
  case agreed =>
    rw [enqueue_steady, enqueue_returned, enqueue_answered]
    exact accounted.agreed

theorem enqueue (accounted : queue.Accounted) (burst : Burst length) :
    (queue.enqueue burst).Accounted := by
  by_cases full : queue.queued.length = queue.places
  · exact accounted.enqueue_of_full full burst
  · exact accounted.enqueue_of_room full burst

/-- A reader in step returns the oldest queued burst, unless that was returned. -/
theorem reached_eq (accounted : queue.Accounted) (inStep : queue.inStep = true) :
    queue.reached = queue.queued.head? ∨
      queue.reached = none ∧ queue.queued.head? ∈ queue.returned ∧ queue.steady = false := by
  have ahead : queue.ahead = 0 := beq_iff_eq.mp inStep
  rw [reached, ahead]
  cases queued : queue.queued with
  | nil =>
      left
      exact accounted.drained 0 (by rw [queued]; exact Nat.le_refl 0) (.inl ahead)
  | cons first later =>
      rcases accounted.kept 0 first (by rw [queued]; rfl) with held | early
      · left
        rw [held]
        rfl
      · right
        rw [early.hollow]
        exact ⟨rfl, early.returned, early.unsteady⟩

/-- A steady reader returns what the queue answers. -/
theorem dequeue_agreed (accounted : queue.Accounted) (steady : queue.dequeue.steady = true) :
    queue.dequeue.returned = queue.dequeue.answered := by
  rw [dequeue_steady, Bool.and_eq_true] at steady
  rw [dequeue_returned, dequeue_answered, accounted.agreed steady.1]
  rcases accounted.reached_eq steady.2 with same | ⟨-, -, unsteady⟩
  · rw [same]
  · rw [unsteady] at steady
    cases steady.1

/-- The reader is one more place ahead, and what it leaves behind is empty. -/
theorem dequeue_of_nil (accounted : queue.Accounted) (nothing : queue.queued = []) :
    queue.dequeue.Accounted := by
  have two_le := accounted.two_le
  have ahead_lt := accounted.ahead_lt
  have held := dequeue_held_of_nil nothing ahead_lt
  have queued : queue.dequeue.queued = [] := by
    rw [BurstQueue.dequeue_of_nil nothing, nothing]
  refine ⟨?two_le, ?queued_le, ?kept, ?drained, accounted.dequeue_agreed⟩
  case two_le => exact dequeue_places.symm ▸ two_le
  case queued_le => exact queued ▸ Nat.zero_le _
  case kept =>
    intro index burst impossible
    rw [queued] at impossible
    cases impossible
  case drained =>
    intro index _ passed
    rw [dequeue_ahead_of_nil nothing] at passed
    rw [held]
    split
    · rfl
    · next other =>
      rcases Nat.lt_or_ge index queue.places with inside | outside
      · have before : index < queue.ahead := by
          rcases Nat.lt_or_ge (queue.ahead + 1) queue.places with next | last
          · rw [Nat.mod_eq_of_lt next] at passed
            omega
          · omega
        exact accounted.drained index (nothing ▸ Nat.zero_le _) (.inr before)
      · rw [List.getElem?_eq_none outside]
        rfl

/-- A burst that the reader was ahead of stays queued when it is returned. -/
theorem dequeue_of_cons (accounted : queue.Accounted) {first : Burst length}
    {later : List (Burst length)} (found : queue.queued = first :: later) :
    queue.dequeue.Accounted := by
  have two_le := accounted.two_le
  have ahead_lt := accounted.ahead_lt
  have queued_le := accounted.queued_le
  have held := dequeue_held_of_cons found ahead_lt
  have queued : queue.dequeue.queued = later := by
    rw [BurstQueue.dequeue_of_cons found]
  rw [found, List.length_cons] at queued_le
  refine ⟨?two_le, ?queued_le, ?kept, ?drained, accounted.dequeue_agreed⟩
  case two_le => exact dequeue_places.symm ▸ two_le
  case queued_le =>
    rw [dequeue_places, queued]
    omega
  case kept =>
    intro index burst listed
    rw [queued] at listed
    have inside := (List.getElem?_eq_some_iff.mp listed).1
    have old := accounted.kept (index + 1) burst (by rw [found, List.getElem?_cons_succ, listed])
    rw [held, if_pos (by omega)]
    split
    · next here =>
      right
      have ahead : queue.inStep = false := beq_eq_false_iff_ne.mpr (here ▸ Nat.succ_ne_zero index)
      refine ⟨?_, ?_, ?_, .inl ?_⟩
      · rw [held, if_pos (by omega), if_pos here]
      · rw [dequeue_returned, List.mem_append, List.mem_singleton, reached, ← here]
        rcases old with kept | early
        · exact .inr (by rw [kept]; rfl)
        · exact .inl early.returned
      · rw [dequeue_steady, ahead, Bool.and_false]
      · rw [dequeue_ahead_of_cons found]
        omega
    · next other =>
      refine old.imp_right fun early => ?_
      have passed := early.passed
      refine ⟨?_, ?_, ?_, ?_⟩
      · rw [held, if_pos (by omega), if_neg other, early.hollow]
      · rw [dequeue_returned, List.mem_append]
        exact .inl early.returned
      · rw [dequeue_steady, early.unsteady, Bool.false_and]
      · rw [dequeue_ahead_of_cons found, dequeue_places]
        omega
  case drained =>
    intro index beyond passed
    rw [dequeue_ahead_of_cons found] at passed
    rw [queued] at beyond
    rw [held]
    split
    · split
      · rfl
      · exact accounted.drained (index + 1) (by rw [found, List.length_cons]; omega) (by omega)
    · split
      · rw [if_pos (by omega)]
        rfl
      · rfl

theorem dequeue (accounted : queue.Accounted) : queue.dequeue.Accounted := by
  cases queued : queue.queued with
  | nil => exact accounted.dequeue_of_nil queued
  | cons first later => exact accounted.dequeue_of_cons queued

/-- In step, the last two queued bursts of a full queue were not returned. -/
theorem few_returned_early (accounted : queue.Accounted) (inStep : queue.inStep = true) :
    (queue.held.take queue.queued.length).countP Option.isNone + 2 ≤ queue.places := by
  have ahead : queue.ahead = 0 := beq_iff_eq.mp inStep
  have two_le := accounted.two_le
  rw [← List.take_append_drop (queue.places - 2) (queue.held.take queue.queued.length),
    List.countP_append]
  have front : ((queue.held.take queue.queued.length).take (queue.places - 2)).countP
      Option.isNone ≤ queue.places - 2 :=
    Nat.le_trans List.countP_le_length (List.length_take_le _ _)
  have back : ((queue.held.take queue.queued.length).drop (queue.places - 2)).countP
      Option.isNone = 0 := by
    rw [List.countP_eq_zero]
    intro content member
    obtain ⟨offset, listed⟩ := List.mem_iff_getElem?.mp member
    rw [List.getElem?_drop, List.getElem?_take] at listed
    split at listed
    · next inside =>
      rcases accounted.kept _ _ (List.getElem?_eq_getElem inside) with held | early
      · rw [held] at listed
        cases listed
        exact Bool.false_ne_true
      · have passed := early.passed
        omega
    · cases listed
  omega

end Accounted

/-! ## First in, first out -/

/-- Answered and queued bursts keep the order of writing, and every other burst
that was written is counted as overrun. -/
structure Ordered (queue : BurstQueue length) (written : List (Burst length)) : Prop where
  inOrder : (queue.answered.reduceOption ++ queue.queued).Sublist written
  total : queue.answered.reduceOption.length + queue.queued.length + queue.overruns =
    written.length

namespace Ordered

variable {written : List (Burst length)}

theorem empty (places : Nat) : (empty places : BurstQueue length).Ordered [] :=
  ⟨List.Sublist.refl _, rfl⟩

/-- A full queue loses its oldest burst to the new one, and counts it. -/
theorem enqueue (ordered : queue.Ordered written) (two_le : 2 ≤ queue.places)
    (burst : Burst length) : (queue.enqueue burst).Ordered (written ++ [burst]) := by
  have total := ordered.total
  by_cases full : queue.queued.length = queue.places
  · rw [enqueue_of_full full]
    constructor
    · have kept := (List.tail_sublist queue.queued).append_left queue.answered.reduceOption
      dsimp only
      rw [← List.append_assoc]
      exact (kept.trans ordered.inOrder).append (List.Sublist.refl _)
    · dsimp only
      rw [List.length_append, List.length_append, List.length_tail, List.length_singleton]
      omega
  · rw [enqueue_of_room full]
    constructor
    · dsimp only
      rw [← List.append_assoc]
      exact ordered.inOrder.append (List.Sublist.refl _)
    · dsimp only
      rw [List.length_append, List.length_append, List.length_singleton]
      omega

theorem dequeue (ordered : queue.Ordered written) : queue.dequeue.Ordered written := by
  have inOrder := ordered.inOrder
  have total := ordered.total
  cases queued : queue.queued with
  | nil =>
      rw [dequeue_of_nil queued]
      have same : (queue.answered ++ [none]).reduceOption = queue.answered.reduceOption := by
        rw [List.reduceOption_append]
        exact List.append_nil _
      exact ⟨same ▸ inOrder, same ▸ total⟩
  | cons first later =>
      rw [queued] at inOrder total
      rw [List.length_cons] at total
      rw [dequeue_of_cons queued]
      have one : (queue.answered ++ [some first]).reduceOption =
          queue.answered.reduceOption ++ [first] := List.reduceOption_append _ _
      refine ⟨?_, ?_⟩
      · dsimp only
        rw [one, List.append_assoc]
        exact inOrder
      · dsimp only
        rw [one, List.length_append, List.length_singleton]
        omega

end Ordered
end BurstQueue

end VirtualRadio
