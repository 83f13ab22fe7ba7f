import VirtualRadio.Proofs.Transmit.Observed

namespace VirtualRadio

/-!
# Operations of a tuner

A tuner is asked for one operation after the other: to retune, to hand over a
burst, to release the sink.  Each is a chain of calls on the sink.  `TunerRun`
lets the calls end whenever they like and the sink change at any time, so it has
every run of a tuner, and those in which somebody waits for the end of each
operation among them.
-/

/-- What one may ask of a tuner. -/
inductive TunerCall where
  | retune (frequency : Option UInt32)
  | push (burst : List Sample)
  | release

/-- The most calls on the sink until an operation is over. -/
def TunerProgress.callsLeft : TunerProgress → Nat
  | finished _ => 0
  | calling (.leaveFor _) _ => 2
  | calling _ _ => 1

namespace Tuner

variable {σ : Type} [SinkDevice σ]

/-- Begin what is asked of a tuner. -/
def begin (tuner : Tuner σ) (call : TunerCall) (now : Nat) : Tuner σ × TunerProgress :=
  match call with
  | .retune frequency => tuner.retune frequency now
  | .push burst => tuner.push burst now
  | .release => tuner.release now

theorem begin_unobserved (tuner : Tuner (ObservedSink σ)) (call : TunerCall) (now : Nat) :
    tuner.unobserved.begin call now = unobservedState (tuner.begin call now) := by
  cases call with
  | retune frequency => exact tuner.retune_unobserved now frequency
  | push burst => exact tuner.push_unobserved now burst
  | release => exact tuner.release_unobserved now

theorem begin_moments (tuner : Tuner (ObservedSink σ)) (call : TunerCall) (now : Nat) :
    tuner.sink.moments <+: (tuner.begin call now).1.sink.moments := by
  cases call with
  | retune frequency => exact tuner.retune_moments now frequency
  | push burst => exact tuner.push_moments now burst
  | release => exact tuner.release_moments now

theorem resume_callsLeft_lt (tuner : Tuner σ) (task : TunerTask) (work : SinkWork) (now : Nat) :
    (tuner.resume task work now).2.callsLeft < (TunerProgress.calling task work).callsLeft := by
  unfold resume
  rcases work.outcome with fault | ⟨⟩
  · cases task <;> simp [TunerProgress.callsLeft]
  · cases task <;> simp [TunerProgress.callsLeft, call]

end Tuner

/-- A tuner between the beginning and the end of what is asked of it. -/
structure TunerRun (σ : Type) where
  tuner : Tuner σ
  /-- What was asked and is not over, and the call on the sink that it waits
  for. -/
  atWork : Option (TunerCall × TunerTask × SinkWork)
  /-- What has just been answered, and to which call. -/
  answer : Option (TunerCall × Except Fault (Option UInt32))

/-- What may happen next to a tuner.  Nothing is said of when. -/
inductive TunerHappening (σ : Type) where
  | call (call : TunerCall) (now : Nat)
  /-- The call on the sink ends. -/
  | finish (now : Nat)
  /-- Whoever hands over a burst does not wait for its end. -/
  | giveUp
  /-- The sink changes by itself. -/
  | change (change : σ → σ)

namespace TunerRun

variable {σ : Type}

/-- Go on with an operation until it waits for the sink or is over. -/
def follow (call : TunerCall) (state : Tuner σ × TunerProgress) : TunerRun σ :=
  match state.2 with
  | .finished result => ⟨state.1, none, some (call, result)⟩
  | .calling task work => ⟨state.1, some (call, task, work), none⟩

/-- A run on a watched sink as a run on the sink itself. -/
def unobserved (run : TunerRun (ObservedSink σ)) : TunerRun σ :=
  ⟨run.tuner.unobserved, run.atWork, run.answer⟩

theorem follow_tuner (call : TunerCall) (state : Tuner σ × TunerProgress) :
    (follow call state).tuner = state.1 := by
  rcases state with ⟨tuner, result | ⟨task, work⟩⟩ <;> rfl

theorem follow_unobserved (call : TunerCall) (state : Tuner (ObservedSink σ) × TunerProgress) :
    follow call (Tuner.unobservedState state) = (follow call state).unobserved := by
  rcases state with ⟨tuner, result | ⟨task, work⟩⟩ <;> rfl

variable [SinkDevice σ]

/-- A tuner of which nothing was asked. -/
def ofSink (sink : σ) : TunerRun σ :=
  ⟨.ofSink sink, none, none⟩

/-- Let something happen.  What cannot happen does nothing. -/
def happen (run : TunerRun σ) : TunerHappening σ → TunerRun σ
  | .call call now =>
    match run.atWork with
    | none => follow call (run.tuner.begin call now)
    | some _ => run
  | .finish now =>
    match run.atWork with
    | some (call, task, work) => follow call (run.tuner.resume task work now)
    | none => run
  | .giveUp =>
    match run.atWork with
    | some (_, .push, _) => { run with atWork := none, answer := none }
    | _ => run
  | .change change =>
    { run with tuner := { run.tuner with sink := change run.tuner.sink }, answer := none }

/-- Let one thing happen after the other. -/
def afterAll (run : TunerRun σ) (happenings : List (TunerHappening σ)) : TunerRun σ :=
  happenings.foldl happen run

theorem afterAll_append (run : TunerRun σ) (happenings later : List (TunerHappening σ)) :
    run.afterAll (happenings ++ later) = (run.afterAll happenings).afterAll later :=
  List.foldl_append

/-! ## Waiting for the end of an operation -/

theorem follow_completeWithin (call : TunerCall) (calls : Nat) (state : Tuner σ × TunerProgress)
    (now : Nat) (enough : state.2.callsLeft ≤ calls) :
    ∃ happenings, (follow call state).afterAll happenings =
      follow call ((Tuner.completeWithin calls state now).1,
        .finished (Tuner.completeWithin calls state now).2.1) := by
  induction calls generalizing state now with
  | zero =>
      rcases state with ⟨tuner, result | ⟨task, work⟩⟩
      · exact ⟨[], rfl⟩
      · have fewer := tuner.resume_callsLeft_lt task work now
        exact absurd (Nat.lt_of_lt_of_le fewer enough) (Nat.not_lt_zero _)
  | succ calls ih =>
      rcases state with ⟨tuner, result | ⟨task, work⟩⟩
      · exact ⟨[], rfl⟩
      · let later := max now (Clock.ceilMillis work.due)
        have fewer := tuner.resume_callsLeft_lt task work later
        obtain ⟨happenings, reached⟩ := ih (tuner.resume task work later) later
          (Nat.le_of_lt_succ (Nat.lt_of_lt_of_le fewer enough))
        exact ⟨.finish later :: happenings, reached⟩

/-- To ask something of a tuner and to wait for the end is one of the runs. -/
theorem call_complete (run : TunerRun σ) (idle : run.atWork = none) (call : TunerCall)
    (now : Nat) : ∃ happenings, run.afterAll (.call call now :: happenings) =
      ⟨(Tuner.complete (run.tuner.begin call now) now).1, none,
        some (call, (Tuner.complete (run.tuner.begin call now) now).2.1)⟩ := by
  have enough : (run.tuner.begin call now).2.callsLeft ≤ 2 := by
    rcases (run.tuner.begin call now).2 with result | ⟨_ | _ | _ | _, work⟩ <;>
      simp [TunerProgress.callsLeft]
  obtain ⟨happenings, reached⟩ :=
    follow_completeWithin call 2 (run.tuner.begin call now) now enough
  have begun : run.happen (.call call now) = follow call (run.tuner.begin call now) := by
    rw [happen, idle]
  refine ⟨happenings, ?_⟩
  change (run.happen (.call call now)).afterAll happenings = _
  rw [begun, reached]
  rfl

/-! ## Watching the sink -/

end TunerRun

/-- The same happening with a watched sink. -/
def TunerHappening.observed {σ : Type} [SinkDevice σ] :
    TunerHappening σ → TunerHappening (ObservedSink σ)
  | call request now => call request now
  | finish now => finish now
  | giveUp => giveUp
  | change sinkChange => change (ObservedSink.change sinkChange)

namespace TunerRun

variable {σ : Type} [SinkDevice σ]

theorem happen_unobserved (run : TunerRun (ObservedSink σ)) (happening : TunerHappening σ) :
    run.unobserved.happen happening = (run.happen happening.observed).unobserved := by
  rcases run with ⟨tuner, atWork, answer⟩
  cases happening with
  | call call now =>
      cases atWork with
      | none =>
          change follow call (tuner.unobserved.begin call now) = _
          rw [Tuner.begin_unobserved, follow_unobserved]
          rfl
      | some _ => rfl
  | finish now =>
      rcases atWork with _ | ⟨call, task, work⟩
      · rfl
      · change follow call (tuner.unobserved.resume task work now) = _
        rw [Tuner.resume_unobserved, follow_unobserved]
        rfl
  | giveUp => rcases atWork with _ | ⟨call, _ | _ | _ | _, work⟩ <;> rfl
  | change change => rfl

theorem afterAll_unobserved (run : TunerRun (ObservedSink σ))
    (happenings : List (TunerHappening σ)) :
    run.unobserved.afterAll happenings =
      (run.afterAll (happenings.map .observed)).unobserved := by
  induction happenings generalizing run with
  | nil => rfl
  | cons happening happenings ih =>
      change (run.unobserved.happen happening).afterAll happenings = _
      rw [happen_unobserved, ih]
      rfl

/-- What is seen of a sink while all this happens to its tuner. -/
def moments (sink : σ) (happenings : List (TunerHappening σ)) : List SinkMoment :=
  ((ofSink (ObservedSink.observe sink)).afterAll (happenings.map .observed)).tuner.sink.moments

theorem moments_append (sink : σ) (happenings later : List (TunerHappening σ)) :
    moments sink (happenings ++ later) =
      (((ofSink (ObservedSink.observe sink)).afterAll (happenings.map .observed)).afterAll
        (later.map .observed)).tuner.sink.moments := by
  rw [moments, List.map_append, afterAll_append]

end TunerRun
end VirtualRadio
