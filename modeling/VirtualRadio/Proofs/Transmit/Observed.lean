import Mathlib.Logic.Basic
import VirtualRadio.Proofs.Sink.Observed
import VirtualRadio.Transmit.Consumer

namespace VirtualRadio

/-!
# Tuners and consumers of a watched sink

A tuner and a consumer only call the sink.  So watching it does not change what
they do: without the notes, each of their functions does the same with the sink
itself.
-/

namespace Tuner

variable {σ : Type} [SinkDevice σ]

/-- A tuner of a watched sink as a tuner of the sink itself. -/
def unobserved (tuner : Tuner (ObservedSink σ)) : Tuner σ :=
  ⟨tuner.sink.sink, tuner.tuned⟩

/-- The state of an operation without the notes. -/
def unobservedState (state : Tuner (ObservedSink σ) × TunerProgress) : Tuner σ × TunerProgress :=
  (state.1.unobserved, state.2)

variable (tuner : Tuner (ObservedSink σ)) (now : Nat)

theorem retune_unobserved (frequency : Option UInt32) :
    tuner.unobserved.retune frequency now = unobservedState (tuner.retune frequency now) := by
  rcases frequency with _ | hertz
  · rfl
  · simp only [retune, apply_ite unobservedState]
    rfl

theorem release_unobserved :
    tuner.unobserved.release now = unobservedState (tuner.release now) := by
  simp only [release, apply_ite unobservedState]
  rfl

theorem push_unobserved (burst : List Sample) :
    tuner.unobserved.push burst now = unobservedState (tuner.push burst now) := rfl

theorem resume_unobserved (task : TunerTask) (work : SinkWork) :
    tuner.unobserved.resume task work now = unobservedState (tuner.resume task work now) := by
  unfold resume
  rcases work.outcome with fault | ⟨⟩
  · rfl
  · cases task <;> rfl

/-! Notes are only added. -/

theorem call_moments (task : TunerTask) (request : SinkCall) :
    tuner.sink.moments <+: (tuner.call task request now).1.sink.moments :=
  List.prefix_append _ _

theorem retune_moments (frequency : Option UInt32) :
    tuner.sink.moments <+: (tuner.retune frequency now).1.sink.moments := by
  unfold retune
  repeat' split
  all_goals first | exact List.prefix_rfl | exact call_moments tuner now _ _

theorem push_moments (burst : List Sample) :
    tuner.sink.moments <+: (tuner.push burst now).1.sink.moments :=
  tuner.call_moments now .push (.push burst)

theorem release_moments : tuner.sink.moments <+: (tuner.release now).1.sink.moments := by
  unfold release
  split
  · exact tuner.call_moments now .release .deinit
  · exact List.prefix_rfl

theorem finish_moments (task : TunerTask) (work : SinkWork) :
    (SinkDevice.finish work tuner.sink).moments <+:
      (tuner.resume task work now).1.sink.moments := by
  unfold resume
  rcases work.outcome with fault | ⟨⟩
  · exact List.prefix_rfl
  · cases task with
    | leaveFor hertz => exact List.prefix_append _ _
    | tuneTo hertz => exact List.prefix_rfl
    | release => exact List.prefix_rfl
    | push => exact List.prefix_rfl

theorem resume_moments (task : TunerTask) (work : SinkWork) :
    tuner.sink.moments <+: (tuner.resume task work now).1.sink.moments :=
  (List.prefix_append _ _).trans (tuner.finish_moments now task work)

end Tuner

namespace Consumer

variable {σ : Type}

/-- A consumer of a watched sink as a consumer of the sink itself. -/
def unobserved (consumer : Consumer (ObservedSink σ)) : Consumer σ :=
  ⟨consumer.tuner.unobserved, consumer.queue, consumer.isOpen, consumer.cancelled,
    consumer.phase, consumer.pushed, consumer.refused⟩

theorem tune_unobserved (consumer : Consumer (ObservedSink σ))
    (state : Tuner (ObservedSink σ) × TunerProgress) (wasIdle : Bool) :
    consumer.unobserved.tune (Tuner.unobservedState state) wasIdle =
      ((consumer.tune state wasIdle).1.unobserved, (consumer.tune state wasIdle).2) := by
  rcases state with ⟨tuner, result | ⟨task, work⟩⟩ <;> rfl

variable [SinkDevice σ] (consumer : Consumer (ObservedSink σ)) (backoff now : Nat) (ring : Ring)

theorem leave_unobserved : consumer.unobserved.leave now = (consumer.leave now).unobserved := by
  have released := consumer.tuner.release_unobserved now
  unfold leave
  simp only [unobserved, released, Tuner.unobservedState]
  rcases consumer.tuner.release now with ⟨tuner, _ | ⟨task, work⟩⟩ <;> rfl

theorem retune_unobserved (tuner : Tuner (ObservedSink σ)) (frequency : Option UInt32)
    (wasIdle : Bool) : consumer.unobserved.tune (tuner.unobserved.retune frequency now) wasIdle =
      ((consumer.tune (tuner.retune frequency now) wasIdle).1.unobserved,
        (consumer.tune (tuner.retune frequency now) wasIdle).2) := by
  rw [Tuner.retune_unobserved, tune_unobserved]

theorem feed_unobserved : consumer.unobserved.feed backoff ring now =
    ((consumer.feed backoff ring now).1.unobserved, (consumer.feed backoff ring now).2) := by
  have ready : consumer.unobserved.tuner.isReady = consumer.tuner.isReady := rfl
  have asked : consumer.unobserved.cancelled = consumer.cancelled := rfl
  simp only [feed, ready, asked, leave_unobserved]
  split
  · split <;> rfl
  · split <;> rfl

theorem finishPush_unobserved (work : SinkWork) :
    consumer.unobserved.finishPush work backoff now =
      (consumer.finishPush work backoff now).unobserved := by
  have resumed := consumer.tuner.resume_unobserved now .push work
  unfold finishPush
  simp only [unobserved, resumed, Tuner.unobservedState]
  rcases work.outcome with fault | ⟨⟩ <;> rfl

/-- A step of the consumer without the notes. -/
theorem step?_unobserved : consumer.unobserved.step? backoff ring now =
    (consumer.step? backoff ring now).map (fun (consumer, ring, tuned) =>
      (consumer.unobserved, ring, tuned)) := by
  have phase : consumer.unobserved.phase = consumer.phase := rfl
  have queue : consumer.unobserved.queue = consumer.queue := rfl
  have asked : consumer.unobserved.cancelled = consumer.cancelled := rfl
  have opened : consumer.unobserved.isOpen = consumer.isOpen := rfl
  unfold step?
  rw [phase, queue, asked, opened]
  cases consumer.phase with
  | turning =>
      simp only [leave_unobserved]
      split <;> rfl
  | draining =>
      rcases consumer.queue with _ | ⟨frequency, rest⟩
      · simp only [leave_unobserved, feed_unobserved]
        split <;> rfl
      · exact congrArg (fun result => some (result.1, ring, result.2))
          (retune_unobserved { consumer with queue := rest, phase := .draining } now consumer.tuner
            frequency false)
  | tuning task work wasIdle =>
      have resumed : consumer.unobserved.tuner.resume task work now = _ :=
        consumer.tuner.resume_unobserved now task work
      simp only [resumed, tune_unobserved]
      split <;> rfl
  | idling deadline =>
      rcases consumer.queue with _ | ⟨frequency, rest⟩
      · simp only [leave_unobserved]
        repeat' split
        all_goals rfl
      · simp only [leave_unobserved]
        split
        · rfl
        · exact congrArg (fun result => some (result.1, ring, result.2))
            (retune_unobserved { consumer with queue := rest, phase := .idling deadline } now
              consumer.tuner frequency true)
  | pushing work =>
      simp only [leave_unobserved, finishPush_unobserved]
      repeat' split
      all_goals rfl
  | backingOff deadline =>
      simp only [leave_unobserved]
      repeat' split
      all_goals rfl
  | releasing task work =>
      have resumed : consumer.unobserved.tuner.resume task work now = _ :=
        consumer.tuner.resume_unobserved now task work
      simp only [resumed]
      split <;> rfl
  | ended => rfl
  | aborted => rfl

end Consumer
end VirtualRadio
