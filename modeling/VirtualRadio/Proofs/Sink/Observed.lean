import VirtualRadio.Sink.Device

namespace VirtualRadio

/-!
# Watching a sink

Nothing is asked of an output sink but that it can be called, so what becomes
of it is only seen from outside.  An observed sink hands every call on to
another sink and notes what it sees: calls that begin, calls that end, changes
that come by themselves, and each time whether the sink was ready before and is
ready after.

Whoever uses a sink cannot tell an observed one from the sink itself.
-/

/-- What is seen of a sink at one moment. -/
inductive SinkMoment where
  /-- A call begins.  Its outcome shows at its end. -/
  | began (call : SinkCall) (outcome : Except Fault Unit) (wasReady isReady : Bool)
  /-- A call ends. -/
  | ended (call : SinkCall) (outcome : Except Fault Unit) (wasReady isReady : Bool)
  /-- The sink changes by itself, perhaps while a call is at work. -/
  | changed (atWork : Option (SinkCall × Except Fault Unit)) (wasReady isReady : Bool)

namespace SinkMoment

/-- The call that begins. -/
def begun? : SinkMoment → Option SinkCall
  | began call _ _ _ => some call
  | _ => none

/-- The calls that began, in order. -/
def calls (moments : List SinkMoment) : List SinkCall :=
  moments.filterMap begun?

theorem calls_append (moments later : List SinkMoment) :
    calls (moments ++ later) = calls moments ++ calls later :=
  List.filterMap_append

end SinkMoment

/-- A sink, and what has been seen of it. -/
structure ObservedSink (σ : Type) where
  sink : σ
  /-- The call that began last, with its outcome, until it ends. -/
  atWork : Option (SinkCall × Except Fault Unit)
  moments : List SinkMoment

namespace ObservedSink

variable {σ : Type} [SinkDevice σ]

/-- Begin to watch a sink. -/
def observe (sink : σ) : ObservedSink σ :=
  ⟨sink, none, []⟩

/-- Begin a call and note it. -/
def start (call : SinkCall) (now : Nat) (observed : ObservedSink σ) :
    ObservedSink σ × SinkWork :=
  let (sink, work) := SinkDevice.start call now observed.sink
  (⟨sink, some (call, work.outcome), observed.moments ++ [.began call work.outcome
      (SinkDevice.isReady observed.sink) (SinkDevice.isReady sink)]⟩, work)

/-- End the call at work and note it. -/
def finish (work : SinkWork) (observed : ObservedSink σ) : ObservedSink σ :=
  let sink := SinkDevice.finish work observed.sink
  ⟨sink, none, observed.moments ++ observed.atWork.toList.map (fun (call, outcome) =>
    .ended call outcome (SinkDevice.isReady observed.sink) (SinkDevice.isReady sink))⟩

/-- Let the sink change by itself and note it. -/
def change (change : σ → σ) (observed : ObservedSink σ) : ObservedSink σ :=
  ⟨change observed.sink, observed.atWork, observed.moments ++ [.changed observed.atWork
    (SinkDevice.isReady observed.sink) (SinkDevice.isReady (change observed.sink))]⟩

instance : SinkDevice (ObservedSink σ) where
  isReady := fun observed => SinkDevice.isReady observed.sink
  start := start
  finish := finish

theorem moments_finish {observed : ObservedSink σ} {call : SinkCall}
    {outcome : Except Fault Unit} (begun : observed.atWork = some (call, outcome))
    (work : SinkWork) : (SinkDevice.finish work observed).moments =
      observed.moments ++ [.ended call outcome (SinkDevice.isReady observed)
        (SinkDevice.isReady (SinkDevice.finish work observed))] := by
  change observed.moments ++ _ = _
  rw [begun]
  rfl

end ObservedSink
end VirtualRadio
