import VirtualRadio.Clock
import VirtualRadio.Generator.Output
import VirtualRadio.Wire.StatusFrame

namespace VirtualRadio

/-!
# The generator of status frames

While the radio streams, a generator sends one status frame after the other.
Its deadlines are absolute: each is the previous one plus the interval that the
registers ask for when the wait begins.  A frame that leaves late is therefore
followed by frames that leave at once until the schedule is met again, and the
rounding of the clock never adds up.

A generator looks at a request to stop only while it waits for a deadline.  A
frame that is being sent is sent to its end.
-/

/-- Where a generator is. -/
inductive GeneratorPhase (κ : Type) where
  /-- It has not run yet. -/
  | fresh
  /-- Between two frames. -/
  | turning
  /-- Waiting for the deadline of a frame with these inputs. -/
  | pacing (inputs : StatusInputs)
  /-- Waiting for the output to take a frame. -/
  | sending (call : κ)
  | ended
  | crashed
  /-- Ended from outside. -/
  | aborted

/-- A generator, over an output whose waiting sends are of type `κ`. -/
structure Generator (κ : Type) where
  cursor : StatusCursor
  /-- The deadline of the frame that is waited for, or of the last one. -/
  deadline : Nat
  phase : GeneratorPhase κ
  /-- Frames that the output took. -/
  sent : Nat
  /-- Frames that the output refused. -/
  failed : Nat
  /-- Whether it was asked to stop. -/
  cancelled : Bool
  /-- Whether it counts as streaming. -/
  active : Bool

/-- How a generator was stopped. -/
inductive StopOutcome where
  /-- It ended by itself, after so many sent and refused frames. -/
  | clean (sent failed : Nat)
  /-- It crashed or was too slow. -/
  | forced
  deriving DecidableEq, Repr

/-- Whether a stop was forced. -/
def StopOutcome.isForced : StopOutcome → Bool
  | clean _ _ => false
  | forced => true

namespace Generator

variable {ω κ : Type}

/-- A generator that is about to begin.  Its frames are counted from zero. -/
def spawn (profile : Profile) : Generator κ :=
  ⟨.start profile, 0, .fresh, 0, 0, false, true⟩

/-- Whether the task is over. -/
def isOver (generator : Generator κ) : Bool :=
  match generator.phase with
  | .ended | .crashed | .aborted => true
  | _ => false

/-- The interval that inputs ask for, in nanoseconds. -/
def interval (inputs : StatusInputs) : Nat :=
  Pacing.intervalNanos inputs.receivers inputs.rateCode

/-- Begin to wait for the next frame, whose schedule follows on an instant. -/
def pace (generator : Generator κ) (previous : Nat) (bank : RegisterBank) : Generator κ :=
  let inputs := StatusInputs.ofBank bank
  { generator with deadline := previous + interval inputs, phase := .pacing inputs }

/-- Come to the end. -/
def finish (generator : Generator κ) : Generator κ :=
  { generator with phase := .ended, active := false }

/-- Ask the generator to stop. -/
def cancel (generator : Generator κ) : Generator κ :=
  { generator with cancelled := true }

/-- End the task wherever it is. -/
def abort (generator : Generator κ) : Generator κ :=
  { generator with
    phase := if generator.isOver then generator.phase else .aborted
    active := false }

/-- Take note of how far a send is. -/
def follow (generator : Generator κ) : SendProgress κ → Generator κ
  | .waiting call => { generator with phase := .sending call }
  | .finished (.ok ()) => { generator with phase := .turning, sent := generator.sent + 1 }
  | .finished (.error _) => { generator with phase := .turning, failed := generator.failed + 1 }
  | .crashed => { generator with phase := .crashed }

/-- One step, if the generator does not wait. -/
def step? [FrameOutput ω κ] (generator : Generator κ) (sender : Nat) (bank : RegisterBank)
    (now : Nat) (output : ω) : Option (Generator κ × ω) :=
  match generator.phase with
  | .fresh => some (generator.pace (Clock.nanos now) bank, output)
  | .turning => some (generator.pace generator.deadline bank, output)
  | .pacing inputs =>
    if generator.cancelled then
      some (generator.finish, output)
    else if Clock.isDue generator.deadline now then
      let (output, progress) :=
        FrameOutput.start sender (generator.cursor.frame inputs) now output
      some ({ generator with cursor := generator.cursor.advance }.follow progress, output)
    else
      none
  | .sending call =>
    (FrameOutput.resume? sender call now output).map (fun (output, progress) =>
      (generator.follow progress, output))
  | .ended | .crashed | .aborted => none

/-- The deadline at which the wait of the generator ends, if it has one. -/
def deadline? (generator : Generator κ) : Option Nat :=
  match generator.phase with
  | .pacing _ => some generator.deadline
  | _ => none

/-- What one who waits until `deadline` for the end of a cancelled generator
finds, if the wait is over.  A generator that is late is aborted. -/
def stopped? (generator : Generator κ) (deadline now : Nat) : Option StopOutcome :=
  match generator.phase with
  | .ended => some (.clean generator.sent generator.failed)
  | .crashed | .aborted => some .forced
  | _ => if Clock.isDue deadline now then some .forced else none

end Generator
end VirtualRadio
