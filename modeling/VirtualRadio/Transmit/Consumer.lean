import VirtualRadio.Ring
import VirtualRadio.Transmit.Tuner

namespace VirtualRadio

/-!
# The consumer

The consumer takes bursts out of the ring and hands them to the output sink,
one after the other, for as long as the sink is ready.  The sink sets the pace.
Requests to retune queue up and are carried out between bursts, so a slow sink
delays them but never the one who asks.

The consumer is a task that waits in many places.  Its phase says where it is,
and `step?` goes from one place at which it may have to wait to the next.  It
looks at a request to stop before anything else, except that it first carries
out the retunes that it has begun to take from the queue.  A burst that was
taken from the ring before it saw the request is then dropped.
-/

/-- Where the consumer is. -/
inductive ConsumerPhase where
  /-- At the top of its round, where it looks for a request to stop. -/
  | turning
  /-- Taking retunes from the queue until it is empty. -/
  | draining
  /-- Tuning the sink.  A retune that ended an idle wait begins a new round. -/
  | tuning (task : TunerTask) (work : SinkWork) (wasIdle : Bool)
  /-- Waiting for the sink to become ready, or for a retune. -/
  | idling (deadline : Nat)
  /-- Waiting for the sink to take a burst. -/
  | pushing (work : SinkWork)
  /-- Waiting after a refused burst. -/
  | backingOff (deadline : Nat)
  /-- Releasing the sink before the end. -/
  | releasing (task : TunerTask) (work : SinkWork)
  | ended
  /-- Ended from outside, without releasing the sink. -/
  | aborted

/-- The consumer of a ring. -/
structure Consumer (σ : Type) where
  tuner : Tuner σ
  /-- Retunes that were asked for. -/
  queue : List (Option UInt32)
  /-- Whether more retunes may come. -/
  isOpen : Bool
  /-- Whether it was asked to stop. -/
  cancelled : Bool
  phase : ConsumerPhase
  /-- Bursts that the sink took. -/
  pushed : Nat
  /-- Bursts that the sink refused. -/
  refused : Nat

namespace Consumer

variable {σ : Type} [SinkDevice σ]

/-- The most retunes that wait. -/
def queueSize : Nat := 32

/-- A consumer that is about to begin. -/
def spawn (sink : σ) : Consumer σ :=
  ⟨.ofSink sink, [], true, false, .turning, 0, 0⟩

/-- Whether the task is over. -/
def isOver (consumer : Consumer σ) : Bool :=
  match consumer.phase with
  | .ended | .aborted => true
  | _ => false

/-- Ask for a retune.  What does not fit into the queue is dropped. -/
def retune (consumer : Consumer σ) (frequency : Option UInt32) : Consumer σ :=
  if consumer.queue.length < queueSize then
    { consumer with queue := consumer.queue ++ [frequency] }
  else
    consumer

/-- Ask the consumer to stop. -/
def cancel (consumer : Consumer σ) : Consumer σ :=
  { consumer with cancelled := true }

/-- Let go of the consumer: no more retunes come, and it ends when it has
carried out those that wait. -/
def close (consumer : Consumer σ) : Consumer σ :=
  { consumer with isOpen := false }

/-- End the task wherever it is. -/
def abort (consumer : Consumer σ) : Consumer σ :=
  { consumer with phase := .aborted }

/-- Begin to release the sink and to end. -/
def leave (consumer : Consumer σ) (now : Nat) : Consumer σ :=
  let (tuner, progress) := consumer.tuner.release now
  match progress with
  | .finished _ => { consumer with tuner := tuner, phase := .ended }
  | .calling task work => { consumer with tuner := tuner, phase := .releasing task work }

/-- The frequency that a finished operation has tuned the sink to. -/
def tunedBy : Except Fault (Option UInt32) → Option UInt32
  | .ok frequency => frequency
  | .error _ => none

/-- Go on with an operation of the tuner: it either waits for the sink, or is
over, perhaps with a new frequency. -/
def tune (consumer : Consumer σ) (state : Tuner σ × TunerProgress) (wasIdle : Bool) :
    Consumer σ × Option UInt32 :=
  match state.2 with
  | .finished result =>
    ({ consumer with
        tuner := state.1
        phase := if wasIdle then .turning else .draining }, tunedBy result)
  | .calling task work =>
    ({ consumer with tuner := state.1, phase := .tuning task work wasIdle }, none)

/-- What to do once the queue is empty: hand a burst to a ready sink, and wait
for one that is not. -/
def feed (consumer : Consumer σ) (backoff : Nat) (ring : Ring) (now : Nat) :
    Consumer σ × Ring :=
  if consumer.tuner.isReady then
    let (burst, ring) := ring.read
    if consumer.cancelled then
      (consumer.leave now, ring)
    else
      let (tuner, progress) := consumer.tuner.push burst now
      match progress with
      | .finished _ => ({ consumer with tuner := tuner, phase := .turning }, ring)
      | .calling _ work => ({ consumer with tuner := tuner, phase := .pushing work }, ring)
  else if consumer.cancelled then
    (consumer.leave now, ring)
  else
    ({ consumer with phase := .idling (Clock.nanos now + backoff) }, ring)

/-- Take note of the end of a burst. -/
def finishPush (consumer : Consumer σ) (work : SinkWork) (backoff now : Nat) : Consumer σ :=
  let consumer := { consumer with tuner := (consumer.tuner.resume .push work now).1 }
  match work.outcome with
  | .ok () => { consumer with pushed := consumer.pushed + 1, phase := .turning }
  | .error _ =>
    { consumer with
      refused := consumer.refused + 1
      phase := .backingOff (Clock.nanos now + backoff) }

/-- One step, if the consumer does not wait: the consumer and the ring after
it, and the frequency that the sink was tuned to by it.  `backoff` is in
nanoseconds. -/
def step? (consumer : Consumer σ) (backoff : Nat) (ring : Ring) (now : Nat) :
    Option (Consumer σ × Ring × Option UInt32) :=
  match consumer.phase with
  | .turning =>
    if consumer.cancelled then some (consumer.leave now, ring, none)
    else some ({ consumer with phase := .draining }, ring, none)
  | .draining =>
    match consumer.queue with
    | frequency :: rest =>
      let (consumer, tuned) :=
        { consumer with queue := rest }.tune (consumer.tuner.retune frequency now) false
      some (consumer, ring, tuned)
    | [] =>
      if consumer.isOpen then
        let (consumer, ring) := consumer.feed backoff ring now
        some (consumer, ring, none)
      else
        some (consumer.leave now, ring, none)
  | .tuning task work wasIdle =>
    if Clock.isDue work.due now then
      let (consumer, tuned) := consumer.tune (consumer.tuner.resume task work now) wasIdle
      some (consumer, ring, tuned)
    else
      none
  | .idling deadline =>
    if consumer.cancelled then
      some (consumer.leave now, ring, none)
    else
      match consumer.queue with
      | frequency :: rest =>
        let (consumer, tuned) :=
          { consumer with queue := rest }.tune (consumer.tuner.retune frequency now) true
        some (consumer, ring, tuned)
      | [] =>
        if !consumer.isOpen then some (consumer.leave now, ring, none)
        else if Clock.isDue deadline now then
          some ({ consumer with phase := .turning }, ring, none)
        else none
  | .pushing work =>
    if consumer.cancelled then some (consumer.leave now, ring, none)
    else if Clock.isDue work.due now then
      some (consumer.finishPush work backoff now, ring, none)
    else none
  | .backingOff deadline =>
    if consumer.cancelled then some (consumer.leave now, ring, none)
    else if Clock.isDue deadline now then
      some ({ consumer with phase := .turning }, ring, none)
    else none
  | .releasing task work =>
    if Clock.isDue work.due now then
      some ({ consumer with
        tuner := (consumer.tuner.resume task work now).1, phase := .ended }, ring, none)
    else none
  | .ended => none
  | .aborted => none

/-- Bursts that the sink took, and bursts that it refused. -/
def counts (consumer : Consumer σ) : Nat × Nat :=
  (consumer.pushed, consumer.refused)

/-- What one who waits until `deadline` for the end of the consumer finds, if
the wait is over.  A consumer that is late is aborted. -/
def joined? (consumer : Consumer σ) (deadline now : Nat) :
    Option (Consumer σ × Except Fault (Nat × Nat)) :=
  if consumer.isOver then some (consumer, .ok consumer.counts)
  else if Clock.isDue deadline now then some (consumer.abort, .error .timeout)
  else none

/-- The deadline at which the wait of the consumer ends, if it has one. -/
def deadline? (consumer : Consumer σ) : Option Nat :=
  match consumer.phase with
  | .tuning _ work _ => some work.due
  | .idling deadline => some deadline
  | .pushing work => some work.due
  | .backingOff deadline => some deadline
  | .releasing _ work => some work.due
  | .turning | .draining | .ended | .aborted => none

end Consumer
end VirtualRadio
