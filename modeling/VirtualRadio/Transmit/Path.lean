import VirtualRadio.Schedule
import VirtualRadio.Transmit.Consumer

namespace VirtualRadio

/-!
# The transmit path

Received samples go through the ring to the consumer, and from there to the
output sink.  `TransmitRun` sets a path on a clock, next to a caller who may
wait for the consumer to end.
-/

/-- The ring and its only reader. -/
structure TransmitPath (σ : Type) where
  ring : Ring
  consumer : Consumer σ
  /-- How long the consumer waits for a sink that is not ready and after a
  refused burst, in nanoseconds. -/
  backoff : Nat

namespace TransmitPath

variable {σ : Type} [SinkDevice σ]

/-- A path to a sink that has not been used. -/
def spawn (ring : Ring) (sink : σ) (backoff : Nat) : TransmitPath σ :=
  ⟨ring, .spawn sink, backoff⟩

/-- Append received samples. -/
def write (path : TransmitPath σ) (samples : List Sample) : TransmitPath σ :=
  { path with ring := path.ring.write samples }

/-- Ask for a retune. -/
def retune (path : TransmitPath σ) (frequency : Option UInt32) : TransmitPath σ :=
  { path with consumer := path.consumer.retune frequency }

/-- Change the sink from outside. -/
def changeSink (path : TransmitPath σ) (change : σ → σ) : TransmitPath σ :=
  { path with consumer := { path.consumer with
      tuner := { path.consumer.tuner with sink := change path.consumer.tuner.sink } } }

/-- The output sink. -/
def sink (path : TransmitPath σ) : σ :=
  path.consumer.tuner.sink

/-- One step of the consumer, if it does not wait, with the frequency that the
sink was tuned to by it. -/
def step? (path : TransmitPath σ) (now : Nat) : Option (TransmitPath σ × Option UInt32) :=
  (path.consumer.step? path.backoff path.ring now).map (fun (consumer, ring, tuned) =>
    ({ path with consumer := consumer, ring := ring }, tuned))

end TransmitPath

/-- The tasks of a transmit path on a clock. -/
inductive TransmitTask where
  | caller
  | consumer
  deriving DecidableEq

/-- What the caller may do with a transmit path. -/
inductive TransmitCall (σ : Type) where
  /-- Append received samples. -/
  | write (samples : List Sample)
  /-- Ask for retunes, one right after the other. -/
  | retune (frequencies : List (Option UInt32))
  /-- Change the sink from outside. -/
  | change (change : σ → σ)
  /-- Let milliseconds go by. -/
  | advance (millis : Nat)
  /-- Ask the consumer to stop and wait for its end for some milliseconds. -/
  | shutdown (millis : Nat)
  /-- Let go of the consumer. -/
  | drop

/-- A transmit path on a clock. -/
structure TransmitRun (σ : Type) where
  /-- The time in milliseconds. -/
  now : Nat
  path : TransmitPath σ
  /-- Whether the caller may still ask something of the consumer. -/
  held : Bool
  /-- The frequencies that the sink was tuned to, in order. -/
  tuned : Array UInt32
  /-- Until when the caller waits for the end of the consumer. -/
  joining : Option Nat
  /-- What the caller has found. -/
  joined : Except Fault (Nat × Nat)

namespace TransmitRun

variable {σ : Type} [SinkDevice σ]

/-- A path at time zero. -/
def ofPath (path : TransmitPath σ) : TransmitRun σ :=
  ⟨0, path, true, #[], none, .ok (0, 0)⟩

/-- One step of a task, if it does not wait. -/
def step? (task : TransmitTask) (run : TransmitRun σ) : Option (TransmitRun σ) :=
  match task with
  | .caller => do
    let deadline ← run.joining
    let (consumer, result) ← run.path.consumer.joined? deadline run.now
    return { run with
      path := { run.path with consumer := consumer.close }, joining := none, joined := result }
  | .consumer => do
    let (path, tuned) ← run.path.step? run.now
    return { run with path := path, tuned := run.tuned ++ tuned.toArray }

instance : TaskSystem (TransmitRun σ) TransmitTask where
  tasks := fun _ => [.caller, .consumer]
  step? := step?
  deadline? := fun task run =>
    match task with
    | .caller => run.joining
    | .consumer => run.path.consumer.deadline?
  requeue := fun _ run => run
  now := now
  atTime := fun time run => { run with now := time }

/-- Ask the consumer to stop, and wait for its end for some milliseconds. -/
def shutdown (run : TransmitRun σ) (millis : Nat) : TransmitRun σ :=
  TaskSystem.advanceUntil (fun run => run.joining.isNone)
    { run with
      path := { run.path with consumer := run.path.consumer.cancel }
      held := false
      joining := some (Clock.nanos (run.now + millis)) }

/-- Make a call, and let everything happen that can happen then.  A shutdown
says how the consumer ended. -/
def perform (run : TransmitRun σ) :
    TransmitCall σ → TransmitRun σ × Option (Except Fault (Nat × Nat))
  | .write samples => (TaskSystem.settle { run with path := run.path.write samples }, none)
  | .retune frequencies =>
    (TaskSystem.settle { run with
      path := if run.held then frequencies.foldl TransmitPath.retune run.path else run.path },
      none)
  | .change change => (TaskSystem.settle { run with path := run.path.changeSink change }, none)
  | .advance millis => (TaskSystem.advance millis run, none)
  | .shutdown millis =>
    if run.held then
      let run := run.shutdown millis
      (run, some run.joined)
    else
      (TaskSystem.settle run, none)
  | .drop =>
    (TaskSystem.settle { run with
      path := { run.path with consumer := run.path.consumer.close }, held := false }, none)

end TransmitRun
end VirtualRadio
