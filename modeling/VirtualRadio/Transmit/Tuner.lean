import VirtualRadio.Band
import VirtualRadio.Sink.Device

namespace VirtualRadio

/-!
# The tuner

The tuner owns the output sink and remembers the frequency of its last
successful initialization.  To retune a running sink is to release it and to
initialize it at the new frequency; either call may fail, and then the
operation ends there.  Without a frequency, or with one that the sink cannot
transmit on, nothing is touched.

An operation is a chain of calls on the sink.  `TunerProgress` is what is left
of it: either its result, or the call that is at work and what comes after.
-/

/-- An output sink and the frequency it was last initialized at. -/
structure Tuner (σ : Type) where
  sink : σ
  tuned : Option UInt32

/-- What a call of the tuner is made for. -/
inductive TunerTask where
  /-- The sink is released, to be initialized at a frequency next. -/
  | leaveFor (hertz : UInt32)
  /-- The sink is initialized at a frequency. -/
  | tuneTo (hertz : UInt32)
  /-- The sink is released for good. -/
  | release
  /-- A burst is handed over. -/
  | push
  deriving DecidableEq, Repr

/-- How far an operation of the tuner is.  The result of a retune is the new
frequency, if the sink was initialized. -/
inductive TunerProgress where
  | finished (result : Except Fault (Option UInt32))
  | calling (task : TunerTask) (work : SinkWork)

namespace Tuner

variable {σ : Type} [SinkDevice σ]

/-- A tuner whose sink it has not initialized. -/
def ofSink (sink : σ) : Tuner σ := ⟨sink, none⟩

/-- Whether the sink takes bursts. -/
def isReady (tuner : Tuner σ) : Bool :=
  SinkDevice.isReady tuner.sink

/-- Begin a call on the sink. -/
def call (tuner : Tuner σ) (task : TunerTask) (request : SinkCall) (now : Nat) :
    Tuner σ × TunerProgress :=
  let (sink, work) := SinkDevice.start request now tuner.sink
  ({ tuner with sink := sink }, .calling task work)

/-- Begin to tune the sink. -/
def retune (tuner : Tuner σ) (frequency : Option UInt32) (now : Nat) :
    Tuner σ × TunerProgress :=
  match frequency with
  | none => (tuner, .finished (.ok none))
  | some hertz =>
    if isTransmitFrequency hertz then
      if tuner.isReady then
        if tuner.tuned = some hertz then (tuner, .finished (.ok none))
        else tuner.call (.leaveFor hertz) .deinit now
      else
        tuner.call (.tuneTo hertz) (.init hertz) now
    else
      (tuner, .finished (.ok none))

/-- Begin to release the sink, if it is running. -/
def release (tuner : Tuner σ) (now : Nat) : Tuner σ × TunerProgress :=
  if tuner.isReady then tuner.call .release .deinit now
  else ({ tuner with tuned := none }, .finished (.ok none))

/-- Begin to hand one burst to the sink. -/
def push (tuner : Tuner σ) (burst : List Sample) (now : Nat) : Tuner σ × TunerProgress :=
  tuner.call .push (.push burst) now

/-- Go on after a call that is due. -/
def resume (tuner : Tuner σ) (task : TunerTask) (work : SinkWork) (now : Nat) :
    Tuner σ × TunerProgress :=
  let tuner := { tuner with sink := SinkDevice.finish work tuner.sink }
  match work.outcome with
  | .error fault => (tuner, .finished (.error fault))
  | .ok () =>
    match task with
    | .leaveFor hertz =>
      { tuner with tuned := none }.call (.tuneTo hertz) (.init hertz) now
    | .tuneTo hertz => ({ tuner with tuned := some hertz }, .finished (.ok (some hertz)))
    | .release => ({ tuner with tuned := none }, .finished (.ok none))
    | .push => (tuner, .finished (.ok none))

/-- Wait for the end of an operation that needs at most `calls` more calls. -/
def completeWithin : Nat → Tuner σ × TunerProgress → Nat →
    Tuner σ × Except Fault (Option UInt32) × Nat
  | _, (tuner, .finished result), now => (tuner, result, now)
  | 0, (tuner, .calling _ work), now => (tuner, work.outcome.map (fun _ => none), now)
  | calls + 1, (tuner, .calling task work), now =>
    let now := max now (Clock.ceilMillis work.due)
    completeWithin calls (tuner.resume task work now) now

/-- Wait for the end of an operation.  None needs more than two calls. -/
def complete (state : Tuner σ × TunerProgress) (now : Nat) :
    Tuner σ × Except Fault (Option UInt32) × Nat :=
  completeWithin 2 state now

end Tuner
end VirtualRadio
