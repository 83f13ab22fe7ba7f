import VirtualRadio.Generator.Basic

namespace VirtualRadio

/-!
# Running generators

At most one generator is held by somebody who may stop it, but one that was let
go may need some time to end.  So generators are kept in a pool under numbers
that are never used twice.
-/

/-- Generators over an output, by their numbers. -/
structure GeneratorPool (κ : Type) where
  members : List (Nat × Generator κ)
  /-- The number of the next generator. -/
  nextId : Nat

namespace GeneratorPool

variable {ω κ : Type}

/-- The pool without generators. -/
def empty : GeneratorPool κ := ⟨[], 0⟩

/-- The generator with a number. -/
def get? (pool : GeneratorPool κ) (id : Nat) : Option (Generator κ) :=
  pool.members.lookup id

/-- Change the generator with a number. -/
def update (pool : GeneratorPool κ) (id : Nat) (change : Generator κ → Generator κ) :
    GeneratorPool κ :=
  { pool with members := pool.members.map (fun (other, generator) =>
      (other, if other = id then change generator else generator)) }

/-- Add a generator that is about to begin.  Those that are over are
forgotten. -/
def spawn (pool : GeneratorPool κ) (profile : Profile) : GeneratorPool κ :=
  ⟨pool.members.filter (fun member => !member.2.isOver) ++ [(pool.nextId, .spawn profile)],
    pool.nextId + 1⟩

/-- Ask a generator to stop. -/
def cancel (pool : GeneratorPool κ) (id : Nat) : GeneratorPool κ :=
  pool.update id Generator.cancel

/-- Whether a generator counts as streaming. -/
def isActive (pool : GeneratorPool κ) (id : Nat) : Bool :=
  (pool.get? id).any Generator.active

/-- Whether every task is over. -/
def isIdle (pool : GeneratorPool κ) : Bool :=
  pool.members.all (fun member => member.2.isOver)

/-- One step of a generator, if it does not wait. -/
def step? [FrameOutput ω κ] (pool : GeneratorPool κ) (id : Nat) (bank : RegisterBank)
    (now : Nat) (output : ω) : Option (GeneratorPool κ × ω) := do
  let generator ← pool.get? id
  let (generator, output) ← generator.step? id bank now output
  return (pool.update id (fun _ => generator), output)

/-- End a generator wherever it is.  A send that waits is taken back from the
output. -/
def abort [FrameOutput ω κ] (pool : GeneratorPool κ) (id : Nat) (output : ω) :
    GeneratorPool κ × ω :=
  (pool.update id Generator.abort,
    match (pool.get? id).map Generator.phase with
    | some (.sending call) => FrameOutput.abandon id call output
    | _ => output)

/-- What one who waits until `deadline` for the end of a cancelled generator
finds, if the wait is over: the outcome, and the pool and the output in which
the generator is no more. -/
def stopped? [FrameOutput ω κ] (pool : GeneratorPool κ) (id deadline now : Nat) (output : ω) :
    Option (StopOutcome × GeneratorPool κ × ω) :=
  match pool.get? id with
  | none => some (.forced, pool, output)
  | some generator =>
    (generator.stopped? deadline now).map (fun outcome => (outcome, pool.abort id output))

end GeneratorPool
end VirtualRadio
