import VirtualRadio.Transmit.Consumer

namespace VirtualRadio

/-!
# Turns of the tuner and the consumer

A tuner does one of four things about a retune, and a step of the consumer is
one of nine.  `Tuner.Retune` and `Consumer.Turn` list them, each with what leads
to it, so that what a step keeps is seen from the list.
-/

namespace Tuner

variable {σ : Type} [SinkDevice σ] {tuner : Tuner σ}

/-- What a tuner may do about a retune. -/
inductive Retune (tuner : Tuner σ) (now : Nat) :
    Option UInt32 → Tuner σ × TunerProgress → Prop where
  /-- No frequency is named, or none that the sink can transmit on. -/
  | ignores (frequency : Option UInt32)
      (unfit : ∀ hertz, frequency = some hertz → isTransmitFrequency hertz = false) :
      Retune tuner now frequency (tuner, .finished (.ok none))
  /-- The sink runs on the frequency. -/
  | stays (hertz : UInt32) (within : isTransmitFrequency hertz = true)
      (ready : tuner.isReady = true) (same : tuner.tuned = some hertz) :
      Retune tuner now (some hertz) (tuner, .finished (.ok none))
  /-- The sink runs on another frequency. -/
  | leaves (hertz : UInt32) (within : isTransmitFrequency hertz = true)
      (ready : tuner.isReady = true) (other : tuner.tuned ≠ some hertz) :
      Retune tuner now (some hertz) (tuner.call (.leaveFor hertz) .deinit now)
  /-- The sink does not run. -/
  | tunes (hertz : UInt32) (within : isTransmitFrequency hertz = true)
      (unready : tuner.isReady = false) :
      Retune tuner now (some hertz) (tuner.call (.tuneTo hertz) (.init hertz) now)

theorem retune_turn (frequency : Option UInt32) (now : Nat) :
    tuner.Retune now frequency (tuner.retune frequency now) := by
  rcases frequency with _ | hertz
  · exact .ignores none (fun _ other => by cases other)
  unfold retune
  simp only
  split
  · next within =>
      split
      · next ready =>
          split
          · next same => exact .stays hertz within ready same
          · next other => exact .leaves hertz within ready other
      · next unready => exact .tunes hertz within (Bool.eq_false_iff.mpr unready)
  · next outside =>
      refine .ignores (some hertz) ?_
      rintro _ ⟨⟩
      exact Bool.eq_false_iff.mpr outside

/-- A tuner when a call on its sink ends. -/
def ended (tuner : Tuner σ) (work : SinkWork) : Tuner σ :=
  { tuner with sink := SinkDevice.finish work tuner.sink }

variable {work : SinkWork} {now : Nat}

theorem resume_of_error {fault : Fault} (failed : work.outcome = .error fault)
    (task : TunerTask) :
    tuner.resume task work now = (tuner.ended work, .finished (.error fault)) := by
  unfold resume
  rw [failed]
  rfl

theorem resume_of_ok (succeeded : work.outcome = .ok ()) (task : TunerTask) :
    tuner.resume task work now =
      match task with
      | .leaveFor hertz =>
        { tuner.ended work with tuned := none }.call (.tuneTo hertz) (.init hertz) now
      | .tuneTo hertz =>
        ({ tuner.ended work with tuned := some hertz }, .finished (.ok (some hertz)))
      | .release => ({ tuner.ended work with tuned := none }, .finished (.ok none))
      | .push => (tuner.ended work, .finished (.ok none)) := by
  unfold resume
  rw [succeeded]
  rfl

end Tuner

/-- Whether the consumer waits for no call on the sink, and has not left its
loop. -/
def ConsumerPhase.isPlain : ConsumerPhase → Bool
  | turning | draining | idling _ | backingOff _ => true
  | tuning _ _ _ | pushing _ | releasing _ _ | ended | aborted => false

namespace Consumer

variable {σ : Type}

theorem tune_tuner (consumer : Consumer σ) (state : Tuner σ × TunerProgress) (wasIdle : Bool) :
    (consumer.tune state wasIdle).1.tuner = state.1 := by
  unfold tune
  split <;> rfl

theorem tune_queue (consumer : Consumer σ) (state : Tuner σ × TunerProgress) (wasIdle : Bool) :
    (consumer.tune state wasIdle).1.queue = consumer.queue := by
  unfold tune
  split <;> rfl

variable [SinkDevice σ]

/-- What a step of the consumer may be: the consumer and the ring after it, and
the frequency that the sink was tuned to by it. -/
inductive Turn (consumer : Consumer σ) (backoff : Nat) (ring : Ring) (now : Nat) :
    Consumer σ → Ring → Option UInt32 → Prop where
  /-- It goes to another place of its loop. -/
  | goesOn (phase : ConsumerPhase) (before : consumer.phase.isPlain = true)
      (after : phase.isPlain = true) :
      Turn consumer backoff ring now { consumer with phase := phase } ring none
  /-- It takes a retune from the queue. -/
  | takes (frequency : Option UInt32) (rest : List (Option UInt32)) (wasIdle : Bool)
      (before : consumer.phase.isPlain = true) (queue : consumer.queue = frequency :: rest) :
      Turn consumer backoff ring now
        ({ consumer with queue := rest }.tune (consumer.tuner.retune frequency now) wasIdle).1 ring
        ({ consumer with queue := rest }.tune (consumer.tuner.retune frequency now) wasIdle).2
  /-- A call on the sink that it waits for to tune it ends. -/
  | tunes (task : TunerTask) (work : SinkWork) (wasIdle : Bool)
      (before : consumer.phase = .tuning task work wasIdle) :
      Turn consumer backoff ring now
        (consumer.tune (consumer.tuner.resume task work now) wasIdle).1 ring
        (consumer.tune (consumer.tuner.resume task work now) wasIdle).2
  /-- It drains a burst and hands it to the sink. -/
  | hands (before : consumer.phase.isPlain = true) (ready : consumer.tuner.isReady = true)
      (work : SinkWork)
      (begun : (consumer.tuner.push ring.read.1 now).2 = .calling .push work) :
      Turn consumer backoff ring now
        { consumer with
          tuner := (consumer.tuner.push ring.read.1 now).1
          phase := .pushing work } ring.read.2 none
  /-- It drains a burst and leaves its loop. -/
  | drops (before : consumer.phase.isPlain = true) (ready : consumer.tuner.isReady = true)
      (asked : consumer.cancelled = true) :
      Turn consumer backoff ring now (consumer.leave now) ring.read.2 none
  /-- The sink has taken or refused a burst. -/
  | finishes (work : SinkWork) (before : consumer.phase = .pushing work) :
      Turn consumer backoff ring now (consumer.finishPush work backoff now) ring none
  /-- It does not wait for the sink to take a burst and leaves its loop. -/
  | abandons (work : SinkWork) (before : consumer.phase = .pushing work)
      (asked : consumer.cancelled = true) :
      Turn consumer backoff ring now (consumer.leave now) ring none
  /-- It leaves its loop. -/
  | leaves (before : consumer.phase.isPlain = true) :
      Turn consumer backoff ring now (consumer.leave now) ring none
  /-- It has released the sink. -/
  | releases (task : TunerTask) (work : SinkWork) (before : consumer.phase = .releasing task work) :
      Turn consumer backoff ring now
        { consumer with
          tuner := (consumer.tuner.resume task work now).1
          phase := .ended } ring none

variable {consumer after : Consumer σ} {backoff now : Nat} {ring rest : Ring}
  {tuned : Option UInt32}

theorem feed_turn (before : consumer.phase.isPlain = true) :
    Turn consumer backoff ring now (consumer.feed backoff ring now).1
      (consumer.feed backoff ring now).2 none := by
  unfold feed
  simp only
  split
  · next ready =>
      split
      · next asked => exact .drops before ready asked
      · exact .hands before ready _ rfl
  · split
    · exact .leaves before
    · exact .goesOn _ before rfl

/-- Every step is one of these. -/
theorem step?_turn (stepped : consumer.step? backoff ring now = some (after, rest, tuned)) :
    Turn consumer backoff ring now after rest tuned := by
  unfold step? at stepped
  cases phase : consumer.phase with
  | turning =>
      have before : consumer.phase.isPlain = true := phase ▸ rfl
      simp only [phase] at stepped
      split at stepped
      · cases stepped
        exact .leaves before
      · cases stepped
        exact .goesOn .draining before rfl
  | draining =>
      have before : consumer.phase.isPlain = true := phase ▸ rfl
      simp only [phase] at stepped
      split at stepped
      · next frequency rest queue =>
          cases stepped
          rw [← phase]
          exact .takes frequency rest false before queue
      · split at stepped
        · cases stepped
          exact feed_turn before
        · cases stepped
          exact .leaves before
  | tuning task work wasIdle =>
      simp only [phase] at stepped
      split at stepped
      · cases stepped
        exact .tunes task work wasIdle phase
      · cases stepped
  | idling deadline =>
      have before : consumer.phase.isPlain = true := phase ▸ rfl
      simp only [phase] at stepped
      split at stepped
      · cases stepped
        exact .leaves before
      · split at stepped
        · next frequency rest queue =>
            cases stepped
            rw [← phase]
            exact .takes frequency rest true before queue
        · split at stepped
          · cases stepped
            exact .leaves before
          · split at stepped
            · cases stepped
              exact .goesOn .turning before rfl
            · cases stepped
  | pushing work =>
      simp only [phase] at stepped
      split at stepped
      · next asked =>
          cases stepped
          exact .abandons work phase asked
      · split at stepped
        · cases stepped
          exact .finishes work phase
        · cases stepped
  | backingOff deadline =>
      have before : consumer.phase.isPlain = true := phase ▸ rfl
      simp only [phase] at stepped
      split at stepped
      · cases stepped
        exact .leaves before
      · split at stepped
        · cases stepped
          exact .goesOn .turning before rfl
        · cases stepped
  | releasing task work =>
      simp only [phase] at stepped
      split at stepped
      · cases stepped
        exact .releases task work phase
      · cases stepped
  | ended => simp only [phase] at stepped; cases stepped
  | aborted => simp only [phase] at stepped; cases stepped

theorem leave_of_ready (ready : consumer.tuner.isReady = true) :
    consumer.leave now =
      { consumer with
        tuner := (consumer.tuner.call .release .deinit now).1
        phase := .releasing .release (SinkDevice.start .deinit now consumer.tuner.sink).2 } := by
  unfold leave Tuner.release
  rw [if_pos ready]
  rfl

theorem leave_of_unready (unready : consumer.tuner.isReady = false) :
    consumer.leave now =
      { consumer with tuner := { consumer.tuner with tuned := none }, phase := .ended } := by
  unfold leave Tuner.release
  rw [if_neg (Bool.eq_false_iff.mp unready)]

theorem leave_queue (consumer : Consumer σ) (now : Nat) :
    (consumer.leave now).queue = consumer.queue := by
  unfold leave
  split
  split <;> rfl

theorem finishPush_tuner (consumer : Consumer σ) (work : SinkWork) (backoff now : Nat) :
    (consumer.finishPush work backoff now).tuner = (consumer.tuner.resume .push work now).1 := by
  unfold finishPush
  split <;> rfl

theorem finishPush_queue (consumer : Consumer σ) (work : SinkWork) (backoff now : Nat) :
    (consumer.finishPush work backoff now).queue = consumer.queue := by
  unfold finishPush
  split <;> rfl

/-- Only to take a retune changes the queue. -/
theorem Turn.queue (turn : Turn consumer backoff ring now after rest tuned) :
    after.queue = consumer.queue ∨ ∃ frequency, consumer.queue = frequency :: after.queue := by
  cases turn with
  | goesOn => exact .inl rfl
  | takes frequency rest wasIdle _ queue =>
      exact .inr ⟨frequency, queue.trans (by rw [tune_queue])⟩
  | tunes task work wasIdle => exact .inl (tune_queue _ _ wasIdle)
  | hands => exact .inl rfl
  | drops => exact .inl (consumer.leave_queue now)
  | finishes work => exact .inl (consumer.finishPush_queue work backoff now)
  | abandons => exact .inl (consumer.leave_queue now)
  | leaves => exact .inl (consumer.leave_queue now)
  | releases => exact .inl rfl

end Consumer
end VirtualRadio
