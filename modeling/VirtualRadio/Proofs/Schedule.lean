import VirtualRadio.Schedule

namespace VirtualRadio
namespace TaskSystem

/-!
# What schedules keep

A schedule does nothing but make steps, send tasks to the end of the queue and
move the clock on.  So a property that is kept by each of these is kept by
every schedule, whatever order it takes the tasks in and however far it goes.
-/

variable {α τ : Type} [TaskSystem α τ] {holds : α → Prop}

/-- A task that waits makes nothing of its turn. -/
theorem turn_of_waits {task : τ} {state : α} (waits : step? task state = none) (limit : Nat) :
    turn task limit state = state := by
  cases limit with
  | zero => rfl
  | succ limit => rw [turn, waits]

/-- A property that nothing takes away that a schedule is made of. -/
structure Keeps (holds : α → Prop) : Prop where
  step : ∀ {task : τ} {before after}, holds before → step? task before = some after → holds after
  requeue : ∀ (task : τ) {state}, holds state → holds (requeue task state)
  later : ∀ {time state}, now state ≤ time → holds state → holds (atTime time state)

namespace Keeps

theorem turn (keeps : Keeps holds) (task : τ) (limit : Nat) {state : α} (before : holds state) :
    holds (turn task limit state) := by
  induction limit generalizing state with
  | zero => exact before
  | succ limit ih =>
      rw [TaskSystem.turn]
      split
      · exact before
      · next stepped => exact ih (keeps.step before stepped)

theorem settleWithin (keeps : Keeps holds) (limit : Nat) {state : α} (before : holds state) :
    holds (settleWithin limit state) := by
  induction limit generalizing state with
  | zero => exact before
  | succ limit ih =>
      rw [TaskSystem.settleWithin]
      split
      · exact before
      · exact ih (keeps.requeue _ (keeps.turn _ stepLimit before))

theorem settle (keeps : Keeps holds) {state : α} (before : holds state) : holds (settle state) :=
  keeps.settleWithin stepLimit before

theorem wake (keeps : Keeps holds) (time : Nat) {state : α} (before : holds state) :
    holds (TaskSystem.settle (atTime (max (now state + 1) time) state)) := by
  have later : now state ≤ max (now state + 1) time :=
    Nat.le_trans (Nat.le_succ _) (Nat.le_max_left _ _)
  exact keeps.settle (keeps.later later before)

theorem advanceWithin (keeps : Keeps holds) (finish jumps : Nat) {state : α}
    (before : holds state) : holds (advanceWithin finish jumps state) := by
  induction jumps generalizing state with
  | zero => exact before
  | succ jumps ih =>
      rw [TaskSystem.advanceWithin]
      split
      · exact ih (keeps.wake _ before)
      · exact before

theorem advance (keeps : Keeps holds) (millis : Nat) {state : α} (before : holds state) :
    holds (advance millis state) :=
  keeps.advanceWithin _ millis (keeps.settle before)

theorem advanceUntilWithin (keeps : Keeps holds) (done : α → Bool) (jumps : Nat) {state : α}
    (before : holds state) : holds (advanceUntilWithin done jumps state) := by
  induction jumps generalizing state with
  | zero => exact before
  | succ jumps ih =>
      rw [TaskSystem.advanceUntilWithin]
      split
      · exact before
      · split
        · exact before
        · exact ih (keeps.wake _ before)

theorem advanceUntil (keeps : Keeps holds) (done : α → Bool) {state : α} (before : holds state) :
    holds (advanceUntil done state) :=
  keeps.advanceUntilWithin done stepLimit (keeps.settle before)

end Keeps

/-! ## Moves of the clock -/

/-- Whether all tasks wait. -/
def isAtRest (state : α) : Bool :=
  (ready? state).isNone

/-- Whether some milliseconds may go by: all tasks wait, and none of their waits
ends on the way. -/
def mayPass (millis : Nat) (state : α) : Bool :=
  isAtRest state && (nextWake? state).all (fun wake => decide (now state + millis ≤ wake))

variable {state : α} {task : τ}

theorem step?_of_isAtRest (rests : isAtRest state = true) (member : task ∈ tasks state) :
    step? task state = none := by
  have waiting := List.find?_eq_none.mp (Option.isNone_iff_eq_none.mp rests) task member
  exact Option.not_isSome_iff_eq_none.mp waiting

theorem isAtRest_of_mayPass {millis : Nat} (may : mayPass millis state = true) :
    isAtRest state = true :=
  (Bool.and_eq_true_iff.mp may).1

/-- No wait is passed over. -/
theorem le_ceilMillis_of_mayPass {millis deadline : Nat} (may : mayPass millis state = true)
    (member : task ∈ tasks state) (waits : deadline? task state = some deadline) :
    now state + millis ≤ Clock.ceilMillis deadline := by
  have listed : deadline ∈ (tasks state).filterMap (fun task => deadline? task state) :=
    List.mem_filterMap.mpr ⟨task, member, waits⟩
  have bounded := (Bool.and_eq_true_iff.mp may).2
  rw [nextWake?] at bounded
  cases first : ((tasks state).filterMap (fun task => deadline? task state)).min? with
  | none => exact absurd (List.min?_eq_none_iff.mp first ▸ listed) List.not_mem_nil
  | some least =>
      rw [first, Option.map_some, Option.all_some, decide_eq_true_iff] at bounded
      have below : least ≤ deadline := (List.min?_eq_some_iff.mp first).2 deadline listed
      exact Nat.le_trans bounded (Clock.ceilMillis_mono below)

/-! ## Schedules that come to rest -/

/-- A property that is kept by the turns that tasks are given one after the
other, and by a clock that passes over no wait; at rest no wait ends at once. -/
structure KeepsInOrder (holds : α → Prop) : Prop where
  turn : ∀ {task : τ} {state : α}, holds state → ready? state = some task →
    holds (requeue task (turn task stepLimit state))
  pass : ∀ {millis : Nat} {state : α}, holds state → mayPass millis state = true →
    holds (atTime (now state + millis) state)
  ahead : ∀ {task : τ} {state : α} {deadline : Nat}, isAtRest state = true →
    task ∈ tasks state → deadline? task state = some deadline →
      now state < Clock.ceilMillis deadline

namespace KeepsInOrder

theorem settleWithin (keeps : KeepsInOrder holds) (limit : Nat) {state : α}
    (before : holds state) : holds (settleWithin limit state) := by
  induction limit generalizing state with
  | zero => exact before
  | succ limit ih =>
      rw [TaskSystem.settleWithin]
      split
      · exact before
      · next chosen => exact ih (keeps.turn before chosen)

theorem settle (keeps : KeepsInOrder holds) {state : α} (before : holds state) :
    holds (settle state) :=
  keeps.settleWithin stepLimit before

theorem now_lt_nextWake (keeps : KeepsInOrder holds) (rests : isAtRest state = true) {wake : Nat}
    (wakes : nextWake? state = some wake) : now state < wake := by
  rw [nextWake?, Option.map_eq_some_iff] at wakes
  obtain ⟨least, first, rfl⟩ := wakes
  obtain ⟨task, member, waits⟩ := List.mem_filterMap.mp (List.min?_eq_some_iff.mp first).1
  exact keeps.ahead rests member waits

/-- The clock may move on from rest up to the next wait that ends. -/
theorem atTime (keeps : KeepsInOrder holds) (before : holds state)
    (rests : isAtRest state = true) {time : Nat} (later : now state ≤ time)
    (bounded : ∀ wake, nextWake? state = some wake → time ≤ wake) : holds (atTime time state) := by
  have sum : now state + (time - now state) = time := Nat.add_sub_cancel' later
  have may : mayPass (time - now state) state = true := by
    rw [mayPass, rests, sum, Bool.true_and, Option.all_eq_true]
    exact fun wake wakes => decide_eq_true (bounded wake wakes)
  rw [← sum]
  exact keeps.pass before may

variable (comesToRest : ∀ state, holds state → isAtRest (TaskSystem.settle state) = true)
include comesToRest

theorem advanceWithin (keeps : KeepsInOrder holds) (finish jumps : Nat) {state : α}
    (before : holds state) (rests : isAtRest state = true) :
    holds (advanceWithin finish jumps state) := by
  induction jumps generalizing state with
  | zero => exact before
  | succ jumps ih =>
      rw [TaskSystem.advanceWithin]
      split
      · have moved : holds (TaskSystem.atTime (nextTime finish state) state) := by
          refine keeps.atTime before rests ?_ fun wake wakes => ?_
          · exact Nat.le_trans (Nat.le_succ _) (Nat.le_max_left _ _)
          · rw [nextTime, wakes, Option.getD_some]
            exact Nat.max_le.mpr ⟨keeps.now_lt_nextWake rests wakes, Nat.min_le_right _ _⟩
        exact ih (keeps.settle moved) (comesToRest _ moved)
      · exact before

theorem advance (keeps : KeepsInOrder holds) (millis : Nat) {state : α} (before : holds state) :
    holds (advance millis state) :=
  keeps.advanceWithin comesToRest _ millis (keeps.settle before) (comesToRest state before)

theorem advanceUntilWithin (keeps : KeepsInOrder holds) (done : α → Bool) (jumps : Nat) {state : α}
    (before : holds state) (rests : isAtRest state = true) :
    holds (advanceUntilWithin done jumps state) := by
  induction jumps generalizing state with
  | zero => exact before
  | succ jumps ih =>
      rw [TaskSystem.advanceUntilWithin]
      split
      · exact before
      · split
        · exact before
        · next wake wakes =>
            have ahead := keeps.now_lt_nextWake rests wakes
            have moved : holds (TaskSystem.atTime (max (now state + 1) wake) state) := by
              refine keeps.atTime before rests ?_ fun other same => ?_
              · exact Nat.le_trans (Nat.le_succ _) (Nat.le_max_left _ _)
              · cases wakes.symm.trans same
                exact Nat.max_le.mpr ⟨ahead, Nat.le_refl _⟩
            exact ih (keeps.settle moved) (comesToRest _ moved)

theorem advanceUntil (keeps : KeepsInOrder holds) (done : α → Bool) {state : α}
    (before : holds state) : holds (advanceUntil done state) :=
  keeps.advanceUntilWithin comesToRest done stepLimit (keeps.settle before)
    (comesToRest state before)

end KeepsInOrder
end TaskSystem
end VirtualRadio
