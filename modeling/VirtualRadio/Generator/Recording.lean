import VirtualRadio.Generator.Output

namespace VirtualRadio

/-!
# Outputs for rehearsals

A scripted output does with each frame what is prescribed from outside.  A
recording output keeps every frame, until it is told to refuse them.  Neither
is connected to anything.
-/

/-- What a scripted output does with a frame. -/
inductive OutputMode where
  | take
  /-- Refuse it for want of a peer. -/
  | notConnected
  /-- Refuse it because the peer went away. -/
  | lost
  /-- Let it wait until something else is prescribed. -/
  | hold
  | crash
  deriving DecidableEq, Repr

/-- An output that follows what is prescribed, and the frames that it took,
with their times. -/
structure ScriptedOutput where
  mode : OutputMode
  frames : Array (Nat × List UInt8)

namespace ScriptedOutput

/-- What happens to a frame that is offered now. -/
def offer (frame : List UInt8) (now : Nat) (output : ScriptedOutput) :
    ScriptedOutput × SendProgress (List UInt8) :=
  match output.mode with
  | .take => ({ output with frames := output.frames.push (now, frame) }, .finished (.ok ()))
  | .notConnected => (output, .finished (.error .notConnected))
  | .lost => (output, .finished (.error .connectionLost))
  | .hold => (output, .waiting frame)
  | .crash => (output, .crashed)

instance : FrameOutput ScriptedOutput (List UInt8) where
  start := fun _ => offer
  resume? := fun _ frame now output =>
    if output.mode = .hold then none else some (output.offer frame now)
  abandon := fun _ _ output => output

end ScriptedOutput

/-- An output that keeps frames, with their times. -/
structure RecordingOutput where
  connected : Bool
  frames : Array (Nat × List UInt8)

namespace RecordingOutput

/-- An output that has recorded nothing. -/
def blank : RecordingOutput := ⟨true, #[]⟩

/-- Record a frame, or refuse it. -/
def offer (frame : List UInt8) (now : Nat) (output : RecordingOutput) :
    RecordingOutput × SendProgress Empty :=
  if output.connected then
    ({ output with frames := output.frames.push (now, frame) }, .finished (.ok ()))
  else
    (output, .finished (.error .notConnected))

instance : FrameOutput RecordingOutput Empty where
  start := fun _ => offer
  resume? := fun _ call => nomatch call
  abandon := fun _ _ output => output

end RecordingOutput
end VirtualRadio
