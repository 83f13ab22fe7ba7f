import VirtualRadio.Control.Radio
import VirtualRadio.Generator.Pool
import VirtualRadio.Schedule

namespace VirtualRadio

/-!
# Generators on a clock

A run sets generators on a clock, over the registers of a radio and an output,
next to a caller who starts and stops them one after the other.
-/

/-- The tasks of a run. -/
inductive GeneratorTask where
  | caller
  | generator (id : Nat)
  deriving DecidableEq

/-- What the caller may do with generators. -/
inductive GeneratorCall (ω : Type) where
  /-- Start a generator. -/
  | start
  /-- Store a value in a register. -/
  | set (register : Register) (value : Int)
  /-- Decode a control block. -/
  | block (block : ControlBlock)
  /-- Change the output from outside. -/
  | change (change : ω → ω)
  /-- Let milliseconds go by. -/
  | advance (millis : Nat)
  /-- Stop the generator that is held, and wait for it for some milliseconds. -/
  | stop (millis : Nat)
  /-- Let go of the generator that is held. -/
  | drop

/-- Generators on a clock. -/
structure GeneratorRun (ω κ : Type) where
  /-- The time in milliseconds. -/
  now : Nat
  profile : Profile
  radio : Radio
  output : ω
  pool : GeneratorPool κ
  /-- The generator that the caller may stop. -/
  held : Option Nat
  /-- The generator that the caller waits for, and until when. -/
  stopping : Option (Nat × Nat)
  /-- What the caller has found. -/
  outcome : StopOutcome

namespace GeneratorRun

variable {ω κ : Type} [FrameOutput ω κ]

/-- A run in which nothing has been started. -/
def initial (profile : Profile) (output : ω) : GeneratorRun ω κ :=
  ⟨0, profile, .initial, output, .empty, none, none, .forced⟩

/-- One step of a task, if it does not wait. -/
def step? (task : GeneratorTask) (run : GeneratorRun ω κ) : Option (GeneratorRun ω κ) :=
  match task with
  | .caller => do
    let (id, deadline) ← run.stopping
    let (outcome, pool, output) ← run.pool.stopped? id deadline run.now run.output
    return { run with pool := pool, output := output, stopping := none, outcome := outcome }
  | .generator id => do
    let (pool, output) ← run.pool.step? id run.radio.bank run.now run.output
    return { run with pool := pool, output := output }

instance : TaskSystem (GeneratorRun ω κ) GeneratorTask where
  tasks := fun run => .caller :: run.pool.members.map (fun member => .generator member.1)
  step? := step?
  deadline? := fun task run =>
    match task with
    | .caller => run.stopping.map Prod.snd
    | .generator id => (run.pool.get? id).bind Generator.deadline?
  requeue := fun _ run => run
  now := now
  atTime := fun time run => { run with now := time }

/-- Let go of the generator that is held, which asks it to stop. -/
def drop (run : GeneratorRun ω κ) : GeneratorRun ω κ :=
  match run.held with
  | none => run
  | some id => { run with pool := run.pool.cancel id, held := none }

/-- Start a generator, and hold it instead of another. -/
def start (run : GeneratorRun ω κ) : GeneratorRun ω κ :=
  let run := run.drop
  { run with pool := run.pool.spawn run.profile, held := some run.pool.nextId }

/-- Stop the generator that is held, and wait for its end for some
milliseconds. -/
def stop (run : GeneratorRun ω κ) (millis : Nat) : GeneratorRun ω κ :=
  match run.held with
  | none => run
  | some id =>
    TaskSystem.advanceUntil (fun run => run.stopping.isNone)
      { run with
        pool := run.pool.cancel id
        held := none
        stopping := some (id, Clock.nanos (run.now + millis)) }

/-- Whether a held generator counts as streaming. -/
def isActive? (run : GeneratorRun ω κ) : Option Bool :=
  run.held.map run.pool.isActive

/-- Make a call, and let everything happen that can happen then.  A stop says
how the generator was stopped. -/
def perform (run : GeneratorRun ω κ) : GeneratorCall ω → GeneratorRun ω κ × Option StopOutcome
  | .start => (TaskSystem.settle run.start, none)
  | .set register value =>
    (TaskSystem.settle { run with
      radio := { run.radio with bank := (run.radio.bank.set register value).1 } }, none)
  | .block block =>
    (TaskSystem.settle { run with
      radio := ((Decoder.ofProfile run.profile).decodeBlock run.radio block).1 }, none)
  | .change change => (TaskSystem.settle { run with output := change run.output }, none)
  | .advance millis => (TaskSystem.advance millis run, none)
  | .stop millis =>
    if run.held.isSome then
      let run := run.stop millis
      (run, some run.outcome)
    else
      (TaskSystem.settle run, none)
  | .drop => (TaskSystem.settle run.drop, none)

/-- Look once a millisecond whether a condition holds, before anything else
happens then, at most `looks` times after the first. -/
def await (condition : GeneratorRun ω κ → Bool) : Nat → GeneratorRun ω κ →
    GeneratorRun ω κ × Bool
  | 0, run => (TaskSystem.settle run, condition run)
  | looks + 1, run =>
    if condition run then
      (TaskSystem.settle run, true)
    else
      let run := TaskSystem.settle run
      await condition looks { run with now := run.now + 1 }

end GeneratorRun
end VirtualRadio
