import VirtualRadio.Fault

namespace VirtualRadio

/-!
# Where status frames go

An output takes one frame at a time.  A send may end at once or have to wait;
what it waits for is the output's own affair.  It may also crash the task that
made it, and its caller may be ended while it waits.
-/

/-- How far a send is. -/
inductive SendProgress (κ : Type) where
  /-- It waits, and this is what is left of it. -/
  | waiting (call : κ)
  | finished (outcome : Except Fault Unit)
  /-- It took its task down with it. -/
  | crashed

/-- What an output can do; `κ` is what is left of a send that waits.  A sender
is told apart from others by its number. -/
class FrameOutput (ω : Type) (κ : outParam Type) where
  /-- Begin to send a frame at a time in milliseconds. -/
  start : Nat → List UInt8 → Nat → ω → ω × SendProgress κ
  /-- Go on with a send, if it has something to go on with. -/
  resume? : Nat → κ → Nat → ω → Option (ω × SendProgress κ)
  /-- Take back a send whose sender is no more. -/
  abandon : Nat → κ → ω → ω

end VirtualRadio
