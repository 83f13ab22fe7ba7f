import VirtualRadio.Generator.Run
import VirtualRadio.Proofs.Generator.Observed
import VirtualRadio.Proofs.Generator.Pool
import VirtualRadio.Proofs.Schedule

namespace VirtualRadio

/-!
# What may happen to generators on a clock

The caller starts and stops generators, tasks make steps, and registers and the
output change at any time.  The clock moves on only when all tasks wait, and
then not beyond the end of a wait; and the caller, who comes first among the
tasks, is not passed over by a generator.  Everything else is free, so a list of
happenings is a run with any registers over any output.

An output is watched in such a run without changing it.
-/

/-- What may happen next to generators. -/
inductive GeneratorHappening (ω : Type) where
  | step (task : GeneratorTask)
  /-- Milliseconds go by. -/
  | pass (millis : Nat)
  /-- The radio takes on another state. -/
  | tune (radio : Radio)
  /-- The output changes by itself. -/
  | change (change : ω → ω)
  | start
  /-- The generator that is held is asked to stop, and has some nanoseconds for it. -/
  | stop (patience : Nat)
  | drop

/-- Whether nobody brings a happening about. -/
def GeneratorHappening.isInner {ω : Type} : GeneratorHappening ω → Bool
  | step _ | pass _ => true
  | _ => false

namespace GeneratorRun

variable {ω κ : Type}

/-- Ask the generator that is held to stop, and begin to wait for its end. -/
def askToStop (run : GeneratorRun ω κ) (patience : Nat) : GeneratorRun ω κ :=
  match run.held with
  | none => run
  | some id =>
    { run with
      pool := run.pool.cancel id
      held := none
      stopping := some (id, Clock.nanos run.now + patience) }

variable [FrameOutput ω κ]

/-- Whether something may happen now.  While the caller waits for the end of a
generator it starts, stops and drops none. -/
def permits (run : GeneratorRun ω κ) : GeneratorHappening ω → Bool
  | .step .caller => true
  | .step (.generator _) => (step? .caller run).isNone
  | .pass millis => TaskSystem.mayPass millis run
  | .tune _ => true
  | .change _ => true
  | .start => run.stopping.isNone
  | .stop _ => run.stopping.isNone
  | .drop => run.stopping.isNone

/-- What something that happens makes of a run. -/
def made (run : GeneratorRun ω κ) : GeneratorHappening ω → GeneratorRun ω κ
  | .step task => (step? task run).getD run
  | .pass millis => { run with now := run.now + millis }
  | .tune radio => { run with radio := radio }
  | .change change => { run with output := change run.output }
  | .start => run.start
  | .stop patience => run.askToStop patience
  | .drop => run.drop

/-- Let something happen, if it may. -/
def happen (run : GeneratorRun ω κ) (happening : GeneratorHappening ω) : GeneratorRun ω κ :=
  if run.permits happening then run.made happening else run

/-- Let one thing happen after the other. -/
def afterAll (run : GeneratorRun ω κ) (happenings : List (GeneratorHappening ω)) :
    GeneratorRun ω κ :=
  happenings.foldl happen run

theorem afterAll_append (run : GeneratorRun ω κ) (happenings later : List (GeneratorHappening ω)) :
    run.afterAll (happenings ++ later) = (run.afterAll happenings).afterAll later :=
  List.foldl_append

/-- A stop asks the generator to stop and lets the time go by until it has ended
or is ended. -/
theorem stop_eq (run : GeneratorRun ω κ) (millis : Nat) :
    run.stop millis =
      if run.held.isSome then
        TaskSystem.advanceUntil (fun run => run.stopping.isNone)
          (run.askToStop (Clock.nanos millis))
      else run := by
  rw [stop, askToStop, ← Clock.nanos_add]
  split <;> simp_all

/-! ## Who has a step -/

section Steps

variable {run : GeneratorRun ω κ}

/-- A step of a generator moves nothing but this generator and the output. -/
theorem step?_generator_eq_some {id : Nat} {run after : GeneratorRun ω κ}
    (stepped : step? (.generator id) run = some after) :
    ∃ generator generatorAfter output, run.pool.get? id = some generator ∧
      generator.step? id run.radio.bank run.now run.output = some (generatorAfter, output) ∧
      after = { run with
        pool := run.pool.update id (fun _ => generatorAfter)
        output := output } := by
  simp only [step?, Option.bind_eq_bind, Option.bind_eq_some_iff, Option.pure_def,
    Option.some.injEq] at stepped
  rcases stepped with ⟨⟨pool, output⟩, moved, rfl⟩
  rcases GeneratorPool.step?_eq_some moved with ⟨generator, generatorAfter, finds, step, rfl⟩
  exact ⟨generator, generatorAfter, output, finds, step, rfl⟩

/-- A generator whose task has no step has none itself. -/
theorem step?_of_waits {id : Nat} {generator : Generator κ}
    (finds : run.pool.get? id = some generator) (waits : step? (.generator id) run = none) :
    generator.step? id run.radio.bank run.now run.output = none := by
  cases stepped : generator.step? id run.radio.bank run.now run.output with
  | none => rfl
  | some result => simp [step?, GeneratorPool.step?, finds, stepped] at waits

/-- The caller has no step exactly as long as it waits for no generator, or for
one that is not over and has time. -/
theorem step?_caller_eq_none_iff :
    step? .caller run = none ↔ ∀ id deadline, run.stopping = some (id, deadline) →
      ∃ generator, run.pool.get? id = some generator ∧ generator.isOver = false ∧
        Clock.isDue deadline run.now = false := by
  have unfolded : step? .caller run = none ↔ ∀ id deadline, run.stopping = some (id, deadline) →
      run.pool.stopped? id deadline run.now run.output = none := by
    simp only [step?, Option.bind_eq_bind, Option.bind_eq_none_iff, Option.pure_def]
    simp [Option.eq_none_iff_forall_ne_some]
  rw [unfolded]
  simp only [GeneratorPool.stopped?_eq_none_iff]

end Steps

/-! ## Watching the output -/

/-- A run over a watched output as a run over the output itself. -/
def unobserved (run : GeneratorRun (ObservedOutput ω) κ) : GeneratorRun ω κ :=
  { run with output := run.output.output }

end GeneratorRun

/-- The same happening with a watched output. -/
def GeneratorHappening.observed {ω : Type} :
    GeneratorHappening ω → GeneratorHappening (ObservedOutput ω)
  | step task => step task
  | pass millis => pass millis
  | tune radio => tune radio
  | change outputChange => change (ObservedOutput.change outputChange)
  | start => start
  | stop patience => stop patience
  | drop => drop

theorem Generator.step?_unobserved {ω κ : Type} [FrameOutput ω κ] (generator : Generator κ)
    (id now : Nat) (bank : RegisterBank) (observed : ObservedOutput ω) :
    generator.step? id bank now observed.output =
      (generator.step? id bank now observed).map (fun made => (made.1, made.2.output)) := by
  unfold step?
  cases generator.phase with
  | pacing inputs =>
      simp only
      split
      · rfl
      · split <;> rfl
  | sending call =>
      simp only [ObservedOutput.resume?_eq, Option.map_map]
      rfl
  | _ => rfl

namespace GeneratorPool

variable {ω κ : Type} [FrameOutput ω κ]

theorem step?_unobserved (pool : GeneratorPool κ) (id now : Nat) (bank : RegisterBank)
    (observed : ObservedOutput ω) :
    pool.step? id bank now observed.output =
      (pool.step? id bank now observed).map (fun made => (made.1, made.2.output)) := by
  unfold step?
  cases pool.get? id with
  | none => rfl
  | some generator =>
      simp only [Option.bind_eq_bind, Option.bind_some, generator.step?_unobserved]
      cases generator.step? id bank now observed <;> rfl

theorem abort_unobserved (pool : GeneratorPool κ) (id : Nat) (observed : ObservedOutput ω) :
    pool.abort id observed.output =
      ((pool.abort id observed).1, (pool.abort id observed).2.output) := by
  unfold abort
  split <;> simp_all [FrameOutput.abandon]

theorem stopped?_unobserved (pool : GeneratorPool κ) (id deadline now : Nat)
    (observed : ObservedOutput ω) :
    pool.stopped? id deadline now observed.output =
      (pool.stopped? id deadline now observed).map (fun made =>
        (made.1, made.2.1, made.2.2.output)) := by
  unfold stopped?
  cases pool.get? id with
  | none => rfl
  | some generator =>
      simp only [abort_unobserved, Option.map_map]
      rfl

end GeneratorPool

namespace GeneratorRun

variable {ω κ : Type} [FrameOutput ω κ]

theorem step?_unobserved (run : GeneratorRun (ObservedOutput ω) κ) (task : GeneratorTask) :
    step? task run.unobserved = (step? task run).map unobserved := by
  cases task with
  | caller =>
      change run.stopping.bind (fun waited => (run.pool.stopped? waited.1 waited.2 run.now
        run.output.output).bind _) = (run.stopping.bind fun waited =>
          (run.pool.stopped? waited.1 waited.2 run.now run.output).bind _).map _
      cases run.stopping with
      | none => rfl
      | some waited =>
          simp only [Option.bind_some, GeneratorPool.stopped?_unobserved]
          cases run.pool.stopped? waited.1 waited.2 run.now run.output <;> rfl
  | generator id =>
      change (run.pool.step? id run.radio.bank run.now run.output.output).bind _ =
        ((run.pool.step? id run.radio.bank run.now run.output).bind _).map _
      rw [GeneratorPool.step?_unobserved]
      cases run.pool.step? id run.radio.bank run.now run.output <;> rfl

theorem permits_unobserved (run : GeneratorRun (ObservedOutput ω) κ)
    (happening : GeneratorHappening ω) :
    run.unobserved.permits happening = run.permits happening.observed := by
  have isSome : ∀ task, (step? task run.unobserved).isSome = (step? task run).isSome := by
    intro task
    rw [step?_unobserved, Option.isSome_map]
  have isNone : ∀ task, (step? task run.unobserved).isNone = (step? task run).isNone := by
    intro task
    rw [step?_unobserved, Option.isNone_map]
  cases happening with
  | step task =>
      cases task with
      | caller => rfl
      | generator id => exact isNone .caller
  | pass millis =>
      have ready : TaskSystem.ready? run.unobserved = TaskSystem.ready? run := by
        change List.find? (fun task => (step? task run.unobserved).isSome) _ =
          List.find? (fun task => (step? task run).isSome) _
        simp only [isSome]
        rfl
      change ((TaskSystem.ready? run.unobserved).isNone && _) =
        ((TaskSystem.ready? run).isNone && _)
      rw [ready]
      rfl
  | _ => rfl

/-- Watching the output does not change what happens. -/
theorem happen_unobserved (run : GeneratorRun (ObservedOutput ω) κ)
    (happening : GeneratorHappening ω) :
    run.unobserved.happen happening = (run.happen happening.observed).unobserved := by
  rw [happen, happen, permits_unobserved]
  split
  · cases happening with
    | step task =>
        change (step? task run.unobserved).getD run.unobserved =
          ((step? task run).getD run).unobserved
        rw [step?_unobserved]
        cases step? task run <;> rfl
    | pass millis => rfl
    | tune radio => rfl
    | change change => rfl
    | start =>
        change run.unobserved.start = run.start.unobserved
        cases held : run.held <;> simp [start, drop, unobserved, held]
    | stop patience =>
        change run.unobserved.askToStop patience = (run.askToStop patience).unobserved
        cases held : run.held <;> simp [askToStop, unobserved, held]
    | drop =>
        change run.unobserved.drop = run.drop.unobserved
        cases held : run.held <;> simp [drop, unobserved, held]
  · rfl

theorem afterAll_unobserved (run : GeneratorRun (ObservedOutput ω) κ)
    (happenings : List (GeneratorHappening ω)) :
    run.unobserved.afterAll happenings =
      (run.afterAll (happenings.map .observed)).unobserved := by
  induction happenings generalizing run with
  | nil => rfl
  | cons happening happenings ih =>
      change (run.unobserved.happen happening).afterAll happenings = _
      rw [happen_unobserved, ih]
      rfl

/-- A run with the output watched from the beginning. -/
def watched (profile : Profile) (output : ω) (happenings : List (GeneratorHappening ω)) :
    GeneratorRun (ObservedOutput ω) κ :=
  (initial profile (.observe output)).afterAll (happenings.map .observed)

/-- Watching the output does not change a run. -/
theorem watched_unobserved (profile : Profile) (output : ω)
    (happenings : List (GeneratorHappening ω)) :
    (watched profile output happenings : GeneratorRun (ObservedOutput ω) κ).unobserved =
      (initial profile output).afterAll happenings :=
  (afterAll_unobserved _ happenings).symm

end GeneratorRun
end VirtualRadio
