import Mathlib.Data.List.Infix
import VirtualRadio.Proofs.Transmit.Happenings

namespace VirtualRadio

/-!
# A transmit path with a watched sink

The phase of the consumer says which call on the sink is at work.  And what was
seen of the sink stays seen, so whatever is supposed of all that is seen in a
run holds at each of its moments.
-/

/-- Whether a phase waits for the call that is at work, if any.  Once the
consumer has left its loop for good, a call may be left behind. -/
def ConsumerPhase.awaits :
    ConsumerPhase → Option (SinkCall × Except Fault Unit) → Prop
  | turning, atWork | draining, atWork | idling _, atWork | backingOff _, atWork => atWork = none
  | tuning (.leaveFor _) work _, atWork => atWork = some (.deinit, work.outcome)
  | tuning (.tuneTo hertz) work _, atWork => atWork = some (.init hertz, work.outcome)
  | pushing work, atWork => ∃ burst, atWork = some (.push burst, work.outcome)
  | releasing .release work, atWork => atWork = some (.deinit, work.outcome)
  | tuning _ _ _, _ | releasing _ _, _ => False
  | ended, _ | aborted, _ => True

theorem ConsumerPhase.awaits_of_isPlain {phase : ConsumerPhase} (plain : phase.isPlain = true)
    {atWork : Option (SinkCall × Except Fault Unit)} : phase.awaits atWork ↔ atWork = none := by
  cases phase with
  | turning | draining | idling | backingOff => exact Iff.rfl
  | tuning | pushing | releasing | ended | aborted => cases plain

namespace Consumer

variable {σ : Type} {consumer after : Consumer (ObservedSink σ)}

/-- Whether the call at work is the one that the consumer waits for. -/
def Stands (consumer : Consumer (ObservedSink σ)) : Prop :=
  consumer.phase.awaits consumer.tuner.sink.atWork

theorem tune_finished_stands {tuner : Tuner (ObservedSink σ)} (silent : tuner.sink.atWork = none)
    (result : Except Fault (Option UInt32)) (wasIdle : Bool) :
    (consumer.tune (tuner, .finished result) wasIdle).1.Stands := by
  cases wasIdle <;> exact silent

variable [SinkDevice σ] {backoff now : Nat} {ring rest : Ring} {tuned : Option UInt32}

theorem leave_stands (consumer : Consumer (ObservedSink σ)) (now : Nat) :
    (consumer.leave now).Stands := by
  rcases ready : consumer.tuner.isReady with _ | _
  · rw [leave_of_unready ready]
    exact trivial
  · rw [leave_of_ready ready]
    rfl

theorem Turn.stands (turn : Turn consumer backoff ring now after rest tuned)
    (stands : consumer.Stands) : after.Stands := by
  cases turn with
  | goesOn phase before plain =>
      exact (ConsumerPhase.awaits_of_isPlain plain).mpr
        ((ConsumerPhase.awaits_of_isPlain before).mp stands)
  | takes frequency rest wasIdle before =>
      have silent := (ConsumerPhase.awaits_of_isPlain before).mp stands
      have turn := consumer.tuner.retune_turn frequency now
      generalize consumer.tuner.retune frequency now = state at turn ⊢
      cases turn with
      | ignores => exact tune_finished_stands silent _ wasIdle
      | stays => exact tune_finished_stands silent _ wasIdle
      | leaves hertz => rfl
      | tunes hertz => rfl
  | tunes task work wasIdle before =>
      rw [Stands, before] at stands
      rcases outcome : work.outcome with fault | ⟨⟩
      · rw [Tuner.resume_of_error outcome]
        exact tune_finished_stands rfl _ wasIdle
      · rw [Tuner.resume_of_ok outcome]
        cases task with
        | leaveFor hertz => rfl
        | tuneTo hertz => exact tune_finished_stands rfl _ wasIdle
        | release => exact stands.elim
        | push => exact stands.elim
  | hands before ready work begun =>
      cases begun
      exact ⟨ring.read.1, rfl⟩
  | drops => exact consumer.leave_stands now
  | finishes work =>
      unfold finishPush
      rcases outcome : work.outcome with fault | ⟨⟩
      · rw [Tuner.resume_of_error outcome]
        rfl
      · rw [Tuner.resume_of_ok outcome]
        rfl
  | abandons => exact consumer.leave_stands now
  | leaves => exact consumer.leave_stands now
  | releases => exact trivial

theorem leave_moments (consumer : Consumer (ObservedSink σ)) (now : Nat) :
    consumer.tuner.sink.moments <+: (consumer.leave now).tuner.sink.moments := by
  rcases ready : consumer.tuner.isReady with _ | _
  · rw [leave_of_unready ready]
  · rw [leave_of_ready ready]
    exact consumer.tuner.call_moments now .release .deinit

theorem Turn.moments (turn : Turn consumer backoff ring now after rest tuned) :
    consumer.tuner.sink.moments <+: after.tuner.sink.moments := by
  cases turn with
  | goesOn => exact List.prefix_rfl
  | takes frequency =>
      rw [tune_tuner]
      exact consumer.tuner.retune_moments now frequency
  | tunes task work =>
      rw [tune_tuner]
      exact consumer.tuner.resume_moments now task work
  | hands => exact consumer.tuner.push_moments now ring.read.1
  | drops => exact consumer.leave_moments now
  | finishes work =>
      rw [finishPush_tuner]
      exact consumer.tuner.resume_moments now .push work
  | abandons => exact consumer.leave_moments now
  | leaves => exact consumer.leave_moments now
  | releases task work => exact consumer.tuner.resume_moments now task work

end Consumer

namespace TransmitRun

variable {σ : Type} [SinkDevice σ]

/-- A path to a sink that has not been used, at time zero. -/
def spawn (ring : Ring) (sink : σ) (backoff : Nat) : TransmitRun σ :=
  ofPath (.spawn ring sink backoff)

/-- The run that becomes of a path with a watched sink. -/
def watched (ring : Ring) (sink : σ) (backoff : Nat) (happenings : List (TransmitHappening σ)) :
    TransmitRun (ObservedSink σ) :=
  (spawn ring (ObservedSink.observe sink) backoff).afterAll (happenings.map .observed)

/-- What is seen of the sink in a run. -/
def moments (ring : Ring) (sink : σ) (backoff : Nat) (happenings : List (TransmitHappening σ)) :
    List SinkMoment :=
  (watched ring sink backoff happenings).path.sink.moments

theorem spawn_afterAll (ring : Ring) (sink : σ) (backoff : Nat)
    (happenings : List (TransmitHappening σ)) :
    (spawn ring sink backoff).afterAll happenings =
      (watched ring sink backoff happenings).unobserved :=
  afterAll_unobserved (spawn ring (ObservedSink.observe sink) backoff) happenings

theorem spawn_accepted (ring : Ring) (sink : σ) (backoff : Nat)
    (happenings : List (TransmitHappening σ)) :
    (spawn ring sink backoff).accepted happenings =
      (spawn ring (ObservedSink.observe sink) backoff).accepted (happenings.map .observed) :=
  accepted_unobserved (spawn ring (ObservedSink.observe sink) backoff) happenings

theorem happen_moments (run : TransmitRun (ObservedSink σ)) (happening : TransmitHappening σ) :
    run.path.sink.moments <+: (run.happen happening.observed).path.sink.moments := by
  cases happening with
  | step task =>
      cases task with
      | caller =>
          change _ <+: (run.happen (.step .caller)).path.sink.moments
          rcases run.happen_caller with same | ⟨phase, joined, -, same⟩
          · rw [same]
          · rw [same]
            exact List.prefix_rfl
      | consumer =>
          change _ <+: (run.happen (.step .consumer)).path.sink.moments
          rcases run.happen_consumer with same | ⟨consumer, ring, tuned, turn, same⟩
          · rw [same]
          · rw [same]
            exact turn.moments
  | wait millis => exact List.prefix_rfl
  | write samples => exact List.prefix_rfl
  | retune frequency =>
      simp only [TransmitHappening.observed, happen, TransmitPath.retune, Consumer.retune]
      repeat' split
      all_goals exact List.prefix_rfl
  | change change => exact List.prefix_append _ _
  | shutdown millis =>
      simp only [TransmitHappening.observed, happen]
      split <;> exact List.prefix_rfl
  | drop => exact List.prefix_rfl

theorem afterAll_moments (run : TransmitRun (ObservedSink σ))
    (happenings : List (TransmitHappening σ)) :
    run.path.sink.moments <+: (run.afterAll (happenings.map .observed)).path.sink.moments := by
  induction happenings generalizing run with
  | nil => exact List.prefix_rfl
  | cons happening happenings ih => exact (happen_moments run happening).trans (ih _)

/-- The call at work stays the one that the consumer waits for. -/
theorem happen_stands {run : TransmitRun (ObservedSink σ)} (stands : run.path.consumer.Stands)
    (happening : TransmitHappening σ) : (run.happen happening.observed).path.consumer.Stands := by
  cases happening with
  | step task =>
      cases task with
      | caller =>
          change (run.happen (.step .caller)).path.consumer.Stands
          rcases run.happen_caller with same | ⟨phase, joined, rfl | rfl, same⟩ <;> rw [same]
          · exact stands
          · exact stands
          · exact trivial
      | consumer =>
          change (run.happen (.step .consumer)).path.consumer.Stands
          rcases run.happen_consumer with same | ⟨consumer, ring, tuned, turn, same⟩ <;> rw [same]
          · exact stands
          · exact turn.stands stands
  | wait millis => exact stands
  | write samples => exact stands
  | retune frequency =>
      simp only [TransmitHappening.observed, happen, TransmitPath.retune, Consumer.retune]
      repeat' split
      all_goals exact stands
  | change change => exact stands
  | shutdown millis =>
      simp only [TransmitHappening.observed, happen]
      split <;> exact stands
  | drop => exact stands

end TransmitRun
end VirtualRadio
