import VirtualRadio.Clock

namespace VirtualRadio

/-!
# Tasks that take turns

A system is made of tasks.  A step of a task goes from one point at which the
task may have to wait to the next; a task that waits for something that has not
happened has no step.  Nothing else is shared between two steps than the state
of the system, so every order of steps is an interleaving of the tasks at their
waits.

`settle` is one such order: a task goes on until it waits, and then the task
that has waited longest gets its turn.  `advance` moves the clock to the next
deadline as soon as no task has a step left.
-/

/-- A system of tasks of type `τ` with a clock. -/
class TaskSystem (α : Type) (τ : outParam Type) where
  /-- The tasks, the one that has waited longest first. -/
  tasks : α → List τ
  /-- One step of a task, if it does not wait. -/
  step? : τ → α → Option α
  /-- The deadline at which the wait of a task ends, if it has one. -/
  deadline? : τ → α → Option Nat
  /-- Note that a task begins to wait now. -/
  requeue : τ → α → α
  /-- The time in milliseconds. -/
  now : α → Nat
  /-- The same state at another time. -/
  atTime : Nat → α → α

namespace TaskSystem

variable {α τ : Type} [TaskSystem α τ]

/-- The most steps that are made at one instant.  Only a system that never
comes to rest reaches it. -/
def stepLimit : Nat := 1000000

/-- Let a task go on until it waits. -/
def turn (task : τ) : Nat → α → α
  | 0, state => state
  | limit + 1, state =>
    match step? task state with
    | none => state
    | some state => turn task limit state

/-- The first task that does not wait. -/
def ready? (state : α) : Option τ :=
  (tasks state).find? (fun task => (step? task state).isSome)

/-- Let tasks take turns until all of them wait. -/
def settleWithin : Nat → α → α
  | 0, state => state
  | limit + 1, state =>
    match ready? state with
    | none => state
    | some task => settleWithin limit (requeue task (turn task stepLimit state))

/-- Let everything happen that can happen without time going by. -/
def settle (state : α) : α :=
  settleWithin stepLimit state

/-- The next time at which a wait ends, if any has a deadline. -/
def nextWake? (state : α) : Option Nat :=
  ((tasks state).filterMap (fun task => deadline? task state)).min?.map Clock.ceilMillis

/-- The time to go to next on the way to `limit`.  It is later than now. -/
def nextTime (limit : Nat) (state : α) : Nat :=
  max (now state + 1) (min limit ((nextWake? state).getD limit))

/-- Let the time go by until `finish`, in at most `jumps` moves of the clock. -/
def advanceWithin (finish : Nat) : Nat → α → α
  | 0, state => state
  | jumps + 1, state =>
    if now state < finish then
      advanceWithin finish jumps (settle (atTime (nextTime finish state) state))
    else
      state

/-- Let the given number of milliseconds go by, and everything happen that is
due up to their end. -/
def advance (millis : Nat) (state : α) : α :=
  advanceWithin (now state + millis) millis (settle state)

/-- Let the time go by until a condition holds at rest. -/
def advanceUntilWithin (done : α → Bool) : Nat → α → α
  | 0, state => state
  | jumps + 1, state =>
    if done state then
      state
    else
      match nextWake? state with
      | none => state
      | some wake =>
        advanceUntilWithin done jumps (settle (atTime (max (now state + 1) wake) state))

/-- Let the time go by until a condition holds at rest, or until nothing is
left to wait for. -/
def advanceUntil (done : α → Bool) (state : α) : α :=
  advanceUntilWithin done stepLimit (settle state)

end TaskSystem
end VirtualRadio
