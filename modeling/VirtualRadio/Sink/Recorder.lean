import VirtualRadio.Sink.Device

namespace VirtualRadio

/-!
# A recording sink

A sink that keeps everything it is given.  It behaves like a device that is
always there: it is ready between an initialization and the next release, and
it refuses bursts at other times.
-/

/-- A sink that records. -/
structure RecordingSink where
  /-- Whether every initialization is refused. -/
  refusesInit : Bool
  /-- How long a burst takes, in milliseconds. -/
  burstMillis : Nat
  ready : Bool
  /-- Initializations and releases, in order. -/
  calls : Array SinkCall
  bursts : Array (List Sample)

namespace RecordingSink

/-- A sink that has recorded nothing. -/
def blank (refusesInit : Bool) (burstMillis : Nat) : RecordingSink :=
  ⟨refusesInit, burstMillis, false, #[], #[]⟩

/-- Begin a call.  What is refused is not recorded, and a release is recorded
only if there is something to release. -/
def start (call : SinkCall) (now : Nat) (sink : RecordingSink) : RecordingSink × SinkWork :=
  match call with
  | .init _ =>
    if sink.refusesInit then
      (sink, .atOnce call now (.error (.transport "mock sink refused init")))
    else
      ({ sink with calls := sink.calls.push call, ready := true }, .atOnce call now (.ok ()))
  | .deinit =>
    (if sink.ready then { sink with calls := sink.calls.push call, ready := false } else sink,
      .atOnce call now (.ok ()))
  | .push burst =>
    if sink.ready then
      ({ sink with bursts := sink.bursts.push burst },
        ⟨call, Clock.nanos (now + sink.burstMillis), .ok ()⟩)
    else
      (sink, .atOnce call now (.error .sinkNotReady))

instance : SinkDevice RecordingSink where
  isReady := ready
  start := start
  finish := fun _ sink => sink

/-- Whether any recorded sample differs in value from silence.  Both zeros are
silent, and what is no number is not. -/
def sawSignal (sink : RecordingSink) : Bool :=
  sink.bursts.any (fun burst =>
    burst.any (fun sample => !(sample.i.toFloat == 0.0 && sample.q.toFloat == 0.0)))

end RecordingSink
end VirtualRadio
