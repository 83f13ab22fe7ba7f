import VirtualRadio.Sink.Device
import VirtualRadio.Sink.Pace

namespace VirtualRadio

/-!
# The discarding sink

It drops every burst, but takes the time for it.
-/

/-- A sink that drops what it is given. -/
structure DiscardSink where
  pace : Pace
  /-- The frequency it is initialized at. -/
  frequency : Option UInt32

namespace DiscardSink

/-- A sink that has not been initialized. -/
def idle (sampleRate : UInt32) : DiscardSink :=
  ⟨.idle sampleRate, none⟩

/-- Begin a call.  Only a burst takes time. -/
def start (call : SinkCall) (now : Nat) (sink : DiscardSink) : DiscardSink × SinkWork :=
  match call with
  | .init hertz =>
    ({ pace := sink.pace.reset, frequency := some hertz }, .atOnce call now (.ok ()))
  | .deinit => ({ sink with frequency := none }, .atOnce call now (.ok ()))
  | .push burst =>
    match sink.frequency with
    | none => (sink, .atOnce call now (.error .sinkNotReady))
    | some _ => (sink, ⟨call, sink.pace.burstEnd burst.length now, .ok ()⟩)

/-- A burst that was waited for is part of the schedule from then on. -/
def finish (work : SinkWork) (sink : DiscardSink) : DiscardSink :=
  match work.call, work.outcome with
  | .push _, .ok () => { sink with pace := { sink.pace with next := some work.due } }
  | _, _ => sink

instance : SinkDevice DiscardSink where
  isReady := fun sink => sink.frequency.isSome
  start := start
  finish := finish

end DiscardSink
end VirtualRadio
