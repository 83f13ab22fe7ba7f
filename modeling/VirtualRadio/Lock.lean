namespace VirtualRadio

/-!
# A fair lock

A lock has at most one holder.  Those who wait for it get it in the order in
which they asked: a release hands it to the first of them, so nobody who asks
later comes in between.
-/

/-- A lock whose holders are named by `α`. -/
structure Lock (α : Type) where
  holder : Option α
  /-- Who waits for it, in order of asking. -/
  waiting : List α
  deriving DecidableEq, Repr

namespace Lock

variable {α : Type} [DecidableEq α]

/-- The lock that nobody holds. -/
def free : Lock α := ⟨none, []⟩

instance : Inhabited (Lock α) := ⟨⟨none, []⟩⟩

/-- Ask for the lock: a free one is held at once. -/
def acquire (lock : Lock α) (who : α) : Lock α :=
  match lock.holder with
  | none => { lock with holder := some who }
  | some _ => { lock with waiting := lock.waiting ++ [who] }

/-- Whether somebody holds the lock. -/
def isHeldBy (lock : Lock α) (who : α) : Bool :=
  lock.holder = some who

/-- Hand the lock to the first who waits. -/
def release (lock : Lock α) : Lock α :=
  match lock.waiting with
  | [] => ⟨none, []⟩
  | next :: rest => ⟨some next, rest⟩

/-- Give up: a holder releases the lock, and one who waits no longer does. -/
def abandon (lock : Lock α) (who : α) : Lock α :=
  if lock.isHeldBy who then lock.release
  else { lock with waiting := lock.waiting.filter (· ≠ who) }

end Lock
end VirtualRadio
