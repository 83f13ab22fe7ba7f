import VirtualRadio.Proofs.Schedule
import VirtualRadio.Proofs.Transmit.Observed
import VirtualRadio.Proofs.Transmit.Turns
import VirtualRadio.Transmit.Path

namespace VirtualRadio

/-!
# What may happen to a transmit path

Samples are written, retunes are asked for, the consumer or the one who waits
for it makes a step, time goes by, or the sink changes by itself.  Nothing is
said of when: a step that is not possible does nothing, and a consumer that was
let go of is asked for nothing more, so every list of happenings is a run.

Schedules add nothing to this.  And since the consumer only calls the sink, the
same happenings lead a path with a watched sink to the same place.
-/

/-- What may happen next to a transmit path. -/
inductive TransmitHappening (σ : Type) where
  | step (task : TransmitTask)
  | wait (millis : Nat)
  | write (samples : List Sample)
  | retune (frequency : Option UInt32)
  /-- The sink changes by itself. -/
  | change (change : σ → σ)
  /-- The consumer is asked to stop, and has some milliseconds for it. -/
  | shutdown (millis : Nat)
  | drop

namespace TransmitRun

variable {σ : Type}

/-- Ask the consumer to stop, and begin to wait for its end. -/
def askToStop (run : TransmitRun σ) (millis : Nat) : TransmitRun σ :=
  { run with
    path := { run.path with consumer := run.path.consumer.cancel }
    held := false
    joining := some (Clock.nanos (run.now + millis)) }

/-- Let go of the consumer. -/
def letGo (run : TransmitRun σ) : TransmitRun σ :=
  { run with path := { run.path with consumer := run.path.consumer.close }, held := false }

/-- The retune that is taken into the queue when something happens. -/
def accepts (run : TransmitRun σ) : TransmitHappening σ → List (Option UInt32)
  | .retune frequency =>
    if run.held && run.path.consumer.queue.length < Consumer.queueSize then [frequency] else []
  | _ => []

variable [SinkDevice σ]

/-- Let something happen. -/
def happen (run : TransmitRun σ) : TransmitHappening σ → TransmitRun σ
  | .step task => (step? task run).getD run
  | .wait millis => { run with now := run.now + millis }
  | .write samples => { run with path := run.path.write samples }
  | .retune frequency => if run.held then { run with path := run.path.retune frequency } else run
  | .change change => { run with path := run.path.changeSink change }
  | .shutdown millis => if run.held then run.askToStop millis else run
  | .drop => run.letGo

/-- Let one thing happen after the other. -/
def afterAll (run : TransmitRun σ) (happenings : List (TransmitHappening σ)) : TransmitRun σ :=
  happenings.foldl happen run

/-- The retunes that are taken into the queue in a run, in order. -/
def accepted (run : TransmitRun σ) : List (TransmitHappening σ) → List (Option UInt32)
  | [] => []
  | happening :: later => run.accepts happening ++ (run.happen happening).accepted later

theorem afterAll_append (run : TransmitRun σ) (happenings later : List (TransmitHappening σ)) :
    run.afterAll (happenings ++ later) = (run.afterAll happenings).afterAll later :=
  List.foldl_append

/-- A step of the consumer, if it does not wait, is one of its turns. -/
theorem happen_consumer (run : TransmitRun σ) :
    run.happen (.step .consumer) = run ∨ ∃ consumer ring tuned,
      run.path.consumer.Turn run.path.backoff run.path.ring run.now consumer ring tuned ∧
        run.happen (.step .consumer) =
          { run with
            path := { run.path with consumer := consumer, ring := ring }
            tuned := run.tuned ++ tuned.toArray } := by
  change (step? .consumer run).getD run = run ∨ ∃ consumer ring tuned, _ ∧
    (step? .consumer run).getD run = _
  rcases stepped : run.path.consumer.step? run.path.backoff run.path.ring run.now with
    _ | ⟨consumer, ring, tuned⟩
  · left
    simp [step?, TransmitPath.step?, stepped]
  · refine .inr ⟨consumer, ring, tuned, Consumer.step?_turn stepped, ?_⟩
    simp [step?, TransmitPath.step?, stepped]

/-- Whoever waits for the consumer lets go of it at the end, and may abort it. -/
theorem happen_caller (run : TransmitRun σ) :
    run.happen (.step .caller) = run ∨ ∃ phase joined,
      (phase = run.path.consumer.phase ∨ phase = .aborted) ∧
        run.happen (.step .caller) =
          { run with
            path := { run.path with
              consumer := { run.path.consumer with phase := phase, isOpen := false } }
            joining := none
            joined := joined } := by
  change (step? .caller run).getD run = run ∨ ∃ phase joined, _ ∧
    (step? .caller run).getD run = _
  rcases waits : run.joining with _ | deadline
  · left
    simp [step?, waits]
  · rcases found : run.path.consumer.joined? deadline run.now with _ | ⟨consumer, result⟩
    · left
      simp [step?, waits, found]
    · have same : (step? .caller run).getD run =
          { run with
            path := { run.path with consumer := consumer.close }
            joining := none
            joined := result } := by
        simp [step?, waits, found]
      rw [same]
      unfold Consumer.joined? at found
      split at found
      · cases found
        exact .inr ⟨_, _, .inl rfl, rfl⟩
      · split at found
        · cases found
          exact .inr ⟨_, _, .inr rfl, rfl⟩
        · cases found

/-! ## Schedules -/

/-- Whether a run may become another one. -/
def Reaches (before after : TransmitRun σ) : Prop :=
  ∃ happenings, before.afterAll happenings = after

namespace Reaches

variable {start run : TransmitRun σ}

theorem refl (run : TransmitRun σ) : Reaches run run :=
  ⟨[], rfl⟩

theorem happen (reached : Reaches start run) (happening : TransmitHappening σ) :
    Reaches start (run.happen happening) := by
  rcases reached with ⟨happenings, rfl⟩
  exact ⟨happenings ++ [happening], afterAll_append start happenings [happening]⟩

theorem retunes (reached : Reaches start run) (held : run.held = true)
    (frequencies : List (Option UInt32)) :
    Reaches start { run with path := frequencies.foldl TransmitPath.retune run.path } := by
  induction frequencies generalizing run with
  | nil => exact reached
  | cons frequency frequencies ih =>
      have asked := reached.happen (.retune frequency)
      rw [TransmitRun.happen, if_pos held] at asked
      exact ih asked held

end Reaches

/-- Schedules lead nowhere else. -/
theorem keeps_reaches (start : TransmitRun σ) : TaskSystem.Keeps start.Reaches where
  step := by
    intro task before after reached stepped
    have made : before.happen (.step task) = after := by
      rw [happen]
      exact congrArg (Option.getD · before) stepped
    exact made ▸ reached.happen (.step task)
  requeue := fun _ _ reached => reached
  later := by
    intro time run later reached
    have sum : run.now + (time - run.now) = time := Nat.add_sub_cancel' later
    have waited : run.happen (.wait (time - run.now)) = TaskSystem.atTime time run := by
      rw [happen, sum]
      rfl
    exact waited ▸ reached.happen (.wait _)

/-- Whatever the caller does with a path, it goes where happenings lead. -/
theorem Reaches.perform {start run : TransmitRun σ} (reached : start.Reaches run)
    (call : TransmitCall σ) : start.Reaches (run.perform call).1 := by
  have keeps := start.keeps_reaches
  cases call with
  | write samples => exact keeps.settle (reached.happen (.write samples))
  | retune frequencies =>
      refine keeps.settle ?_
      by_cases held : run.held = true
      · rw [if_pos held]
        exact reached.retunes held frequencies
      · rwa [if_neg held]
  | change change => exact keeps.settle (reached.happen (.change change))
  | advance millis => exact keeps.advance millis reached
  | shutdown millis =>
      rw [TransmitRun.perform]
      split
      · next held =>
          have asked := reached.happen (.shutdown millis)
          rw [TransmitRun.happen, if_pos held] at asked
          exact keeps.advanceUntil (fun run => run.joining.isNone) asked
      · exact keeps.settle reached
  | drop => exact keeps.settle (reached.happen .drop)

/-! ## Watching the sink -/

/-- A run on a watched sink as a run on the sink itself. -/
def unobserved (run : TransmitRun (ObservedSink σ)) : TransmitRun σ :=
  { run with path := { run.path with consumer := run.path.consumer.unobserved } }

end TransmitRun

/-- The same happening with a watched sink. -/
def TransmitHappening.observed {σ : Type} [SinkDevice σ] :
    TransmitHappening σ → TransmitHappening (ObservedSink σ)
  | step task => step task
  | wait millis => wait millis
  | write samples => write samples
  | retune frequency => retune frequency
  | change sinkChange => change (ObservedSink.change sinkChange)
  | shutdown millis => shutdown millis
  | drop => drop

namespace TransmitRun

variable {σ : Type} [SinkDevice σ]

theorem step?_unobserved (run : TransmitRun (ObservedSink σ)) (task : TransmitTask) :
    step? task run.unobserved = (step? task run).map unobserved := by
  cases task with
  | caller =>
      have joined : ∀ deadline, run.unobserved.path.consumer.joined? deadline run.now =
          (run.path.consumer.joined? deadline run.now).map (fun (consumer, result) =>
            (consumer.unobserved, result)) := by
        intro deadline
        have isOver : run.unobserved.path.consumer.isOver = run.path.consumer.isOver := rfl
        unfold Consumer.joined?
        rw [isOver]
        repeat' split
        all_goals rfl
      change (run.joining.bind fun deadline =>
        (run.unobserved.path.consumer.joined? deadline run.now).bind _) =
          (run.joining.bind fun deadline =>
            (run.path.consumer.joined? deadline run.now).bind _).map _
      rcases run.joining with _ | deadline
      · rfl
      · simp only [joined, Option.bind_some]
        rcases run.path.consumer.joined? deadline run.now with _ | ⟨consumer, result⟩ <;> rfl
  | consumer =>
      have stepped := run.path.consumer.step?_unobserved run.path.backoff run.now run.path.ring
      change ((run.path.consumer.unobserved.step? run.path.backoff run.path.ring run.now).map
        _).bind _ = (((run.path.consumer.step? run.path.backoff run.path.ring run.now).map
        _).bind _).map _
      rw [stepped]
      rcases run.path.consumer.step? run.path.backoff run.path.ring run.now with
        _ | ⟨consumer, ring, tuned⟩ <;> rfl

theorem happen_unobserved (run : TransmitRun (ObservedSink σ)) (happening : TransmitHappening σ) :
    run.unobserved.happen happening = (run.happen happening.observed).unobserved := by
  cases happening with
  | step task =>
      change (step? task run.unobserved).getD run.unobserved =
        ((step? task run).getD run).unobserved
      rw [step?_unobserved]
      rcases step? task run with _ | after <;> rfl
  | wait millis => rfl
  | write samples => rfl
  | retune frequency =>
      have held : run.unobserved.held = run.held := rfl
      have queue : run.unobserved.path.consumer.queue = run.path.consumer.queue := rfl
      simp only [happen, TransmitHappening.observed, held, TransmitPath.retune, Consumer.retune,
        queue]
      repeat' split
      all_goals rfl
  | change change => rfl
  | shutdown millis =>
      have held : run.unobserved.held = run.held := rfl
      simp only [happen, TransmitHappening.observed, held]
      split <;> rfl
  | drop => rfl

/-- Watching the sink does not change a run. -/
theorem afterAll_unobserved (run : TransmitRun (ObservedSink σ))
    (happenings : List (TransmitHappening σ)) :
    run.unobserved.afterAll happenings =
      (run.afterAll (happenings.map .observed)).unobserved := by
  induction happenings generalizing run with
  | nil => rfl
  | cons happening happenings ih =>
      change (run.unobserved.happen happening).afterAll happenings = _
      rw [happen_unobserved, ih]
      rfl

theorem accepts_unobserved (run : TransmitRun (ObservedSink σ)) (happening : TransmitHappening σ) :
    run.unobserved.accepts happening = run.accepts happening.observed := by
  cases happening <;> rfl

theorem accepted_unobserved (run : TransmitRun (ObservedSink σ))
    (happenings : List (TransmitHappening σ)) :
    run.unobserved.accepted happenings = run.accepted (happenings.map .observed) := by
  induction happenings generalizing run with
  | nil => rfl
  | cons happening happenings ih =>
      rw [accepted, accepts_unobserved, happen_unobserved, ih]
      rfl

end TransmitRun
end VirtualRadio
