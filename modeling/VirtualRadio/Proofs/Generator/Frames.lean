import VirtualRadio.Generator.Pool
import VirtualRadio.Proofs.Wire.Words

namespace VirtualRadio

/-!
# The frames that a generator hands to its output

A generator counts the frames that it hands on, not those that arrive: the
number of a frame is one more than that of the frame before, whatever the
output makes of either.

The witness is an output that notes every frame it is handed.  It leaves the
rest to another output, about which nothing is assumed.
-/

/-- A frame carries the number that the cursor has reached. -/
theorem StatusCursor.sequenceOf_frame (cursor : StatusCursor) (inputs : StatusInputs) :
    Packet.sequenceOf (cursor.frame inputs) = cursor.sequence :=
  Word.ofBytes32_bytes cursor.sequence

/-- An output that notes the frames it is handed, in order, and leaves them to
another. -/
@[reducible]
def FrameOutput.noting {ω κ : Type} (output : FrameOutput ω κ) :
    FrameOutput (ω × List (List UInt8)) κ where
  start := fun sender frame now state =>
    let (after, progress) := output.start sender frame now state.1
    ((after, state.2 ++ [frame]), progress)
  resume? := fun sender call now state =>
    (output.resume? sender call now state.1).map (fun (after, progress) =>
      ((after, state.2), progress))
  abandon := fun sender call state => (output.abandon sender call state.1, state.2)

theorem FrameOutput.noting_resume? {ω κ : Type} (output : FrameOutput ω κ) (sender now : Nat)
    (call : κ) (state : ω) (noted : List (List UInt8)) :
    output.noting.resume? sender call now (state, noted) =
      (output.resume? sender call now state).map (fun result => ((result.1, noted), result.2)) :=
  rfl

namespace Generator

variable {ω κ : Type}

/-- One step over an output, together with the frames that are handed to it. -/
def turn? (output : FrameOutput ω κ) (generator : Generator κ) (sender : Nat)
    (bank : RegisterBank) (now : Nat) (state : ω) :
    Option (Generator κ × ω × List (List UInt8)) :=
  @step? _ _ output.noting generator sender bank now (state, [])

@[simp] theorem follow_cursor (generator : Generator κ) (progress : SendProgress κ) :
    (generator.follow progress).cursor = generator.cursor := by
  rcases progress with _ | (_ | _) | _ <;> rfl

/-- Noting frames does not change what a generator does. -/
theorem turn?_eq_step? (output : FrameOutput ω κ) (generator : Generator κ) (sender : Nat)
    (bank : RegisterBank) (now : Nat) (state : ω) :
    (generator.turn? output sender bank now state).map (fun turn => (turn.1, turn.2.1)) =
      @step? _ _ output generator sender bank now state := by
  unfold turn? step?
  cases generator.phase with
  | fresh => rfl
  | turning => rfl
  | pacing inputs =>
      simp only
      split
      · rfl
      · split <;> rfl
  | sending call =>
      simp only [FrameOutput.noting_resume?, Option.map_map]
      rfl
  | ended => rfl
  | crashed => rfl
  | aborted => rfl

/-- A generator that is over makes no step. -/
theorem turn?_isOver {output : FrameOutput ω κ} {generator after : Generator κ} {sender : Nat}
    {bank : RegisterBank} {now : Nat} {state stateAfter : ω} {frames : List (List UInt8)}
    (turn : generator.turn? output sender bank now state = some (after, stateAfter, frames)) :
    generator.isOver = false := by
  unfold turn? step? at turn
  unfold isOver
  split at turn <;> simp_all

/-- A step hands on one frame with the number that the cursor has reached, and
the cursor moves on; or it hands on none, and the cursor stays. -/
theorem turn?_frames {output : FrameOutput ω κ} {generator after : Generator κ} {sender : Nat}
    {bank : RegisterBank} {now : Nat} {state stateAfter : ω} {frames : List (List UInt8)}
    (turn : generator.turn? output sender bank now state = some (after, stateAfter, frames)) :
    (frames = [] ∧ after.cursor = generator.cursor) ∨
      ∃ frame, frames = [frame] ∧ Packet.sequenceOf frame = generator.cursor.sequence ∧
        after.cursor = generator.cursor.advance := by
  unfold turn? step? at turn
  cases phase : generator.phase with
  | fresh =>
      simp only [phase, Option.some.injEq, Prod.mk.injEq] at turn
      rcases turn with ⟨rfl, rfl, rfl⟩
      exact .inl ⟨rfl, rfl⟩
  | turning =>
      simp only [phase, Option.some.injEq, Prod.mk.injEq] at turn
      rcases turn with ⟨rfl, rfl, rfl⟩
      exact .inl ⟨rfl, rfl⟩
  | pacing inputs =>
      simp only [phase] at turn
      split at turn
      · simp only [Option.some.injEq, Prod.mk.injEq] at turn
        rcases turn with ⟨rfl, rfl, rfl⟩
        exact .inl ⟨rfl, rfl⟩
      · split at turn
        · simp only [Option.some.injEq, Prod.mk.injEq] at turn
          rcases turn with ⟨rfl, rfl, rfl⟩
          refine .inr ⟨generator.cursor.frame inputs, rfl, ?_, follow_cursor _ _⟩
          exact generator.cursor.sequenceOf_frame inputs
        · contradiction
  | sending call =>
      simp only [phase, FrameOutput.noting_resume?, Option.map_map, Option.map_eq_some_iff,
        Function.comp_apply, Prod.mk.injEq] at turn
      rcases turn with ⟨_, _, rfl, rfl, rfl⟩
      exact .inl ⟨rfl, follow_cursor _ _⟩
  | ended => simp [phase] at turn
  | crashed => simp [phase] at turn
  | aborted => simp [phase] at turn

end Generator

namespace GeneratorPool

variable {ω κ : Type}

/-- One step of a generator over an output, together with the frames that are
handed to it. -/
def turn? (output : FrameOutput ω κ) (pool : GeneratorPool κ) (id : Nat) (bank : RegisterBank)
    (now : Nat) (state : ω) : Option (GeneratorPool κ × ω × List (List UInt8)) :=
  @step? _ _ output.noting pool id bank now (state, [])

theorem turn?_eq_step? (output : FrameOutput ω κ) (pool : GeneratorPool κ) (id : Nat)
    (bank : RegisterBank) (now : Nat) (state : ω) :
    (pool.turn? output id bank now state).map (fun turn => (turn.1, turn.2.1)) =
      @step? _ _ output pool id bank now state := by
  unfold turn? step?
  cases pool.get? id with
  | none => rfl
  | some generator =>
      simp only [Option.bind_eq_bind, Option.bind_some]
      rw [← generator.turn?_eq_step? output]
      unfold Generator.turn?
      rcases @Generator.step? _ _ output.noting generator id bank now (state, []) with
        _ | ⟨after, stateAfter, frames⟩ <;> rfl

/-- A step of the pool is a step of the generator that has the number. -/
theorem step?_eq_some [FrameOutput ω κ] {pool after : GeneratorPool κ} {id : Nat}
    {bank : RegisterBank} {now : Nat} {state stateAfter : ω}
    (stepped : pool.step? id bank now state = some (after, stateAfter)) :
    ∃ generator generatorAfter, pool.get? id = some generator ∧
      generator.step? id bank now state = some (generatorAfter, stateAfter) ∧
      after = pool.update id (fun _ => generatorAfter) := by
  simp only [step?, Option.bind_eq_bind, Option.bind_eq_some_iff, Option.pure_def,
    Option.some.injEq, Prod.mk.injEq] at stepped
  rcases stepped with ⟨generator, finds, ⟨generatorAfter, output⟩, moved, rfl, rfl⟩
  exact ⟨generator, generatorAfter, finds, moved, rfl⟩

/-- The same of a step together with its frames. -/
theorem turn?_eq_some {output : FrameOutput ω κ} {pool after : GeneratorPool κ} {id : Nat}
    {bank : RegisterBank} {now : Nat} {state stateAfter : ω} {frames : List (List UInt8)}
    (turn : pool.turn? output id bank now state = some (after, stateAfter, frames)) :
    ∃ generator generatorAfter, pool.get? id = some generator ∧
      generator.turn? output id bank now state = some (generatorAfter, stateAfter, frames) ∧
      after = pool.update id (fun _ => generatorAfter) :=
  @step?_eq_some _ _ output.noting _ _ _ _ _ _ _ turn

end GeneratorPool
end VirtualRadio
