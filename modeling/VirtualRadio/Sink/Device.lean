import VirtualRadio.Clock
import VirtualRadio.Fault
import VirtualRadio.Sample

namespace VirtualRadio

/-!
# Output sinks

An output sink takes bursts of samples.  It has to be initialized at a
frequency before it takes any.  Each call on it takes some time: a call is
begun, it is at work until an instant that is known from its beginning, and
then it is finished.  Whoever made the call may lose interest in between; then
it is never finished.

Nothing else is asked of a sink.  In particular its readiness may come and go,
and any call may fail.
-/

/-- A call on a sink. -/
inductive SinkCall where
  | init (hertz : UInt32)
  | deinit
  | push (burst : List Sample)
  deriving DecidableEq, Repr

/-- A call that is at work. -/
structure SinkWork where
  call : SinkCall
  /-- The instant at which it ends. -/
  due : Nat
  /-- How it will end. -/
  outcome : Except Fault Unit

/-- What an output sink can do. -/
class SinkDevice (σ : Type) where
  /-- Whether the sink takes bursts. -/
  isReady : σ → Bool
  /-- Begin a call at a time in milliseconds. -/
  start : SinkCall → Nat → σ → σ × SinkWork
  /-- End a call that is due. -/
  finish : SinkWork → σ → σ

namespace SinkWork

/-- A call that ends as soon as it has begun. -/
def atOnce (call : SinkCall) (now : Nat) (outcome : Except Fault Unit) : SinkWork :=
  ⟨call, Clock.nanos now, outcome⟩

end SinkWork

namespace SinkDevice

variable {σ : Type} [SinkDevice σ]

/-- Make one call and wait for its end: the sink, the outcome and the time. -/
def perform (call : SinkCall) (now : Nat) (sink : σ) : σ × Except Fault Unit × Nat :=
  let (sink, work) := start call now sink
  (finish work sink, work.outcome, max now (Clock.ceilMillis work.due))

end SinkDevice
end VirtualRadio
