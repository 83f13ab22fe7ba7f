import Mathlib.Logic.Function.Basic
import VirtualRadio.Generator.Basic
import VirtualRadio.Proofs.Wire.StatusFrames

namespace VirtualRadio

/-!
# Watching the sends of generators

Nothing is asked of an output but that frames can be sent to it, so what becomes
of a send is only seen from outside.  An observed output hands every send on to
another output and keeps a diary of each sender: when sends began and with which
frames, when they returned and with what, and whether one of them crashed.

A generator keeps books of its own.  At every moment they agree with the diary
of its sends: its counters say how many of them were taken and refused, and its
cursor stands where a stream stands after as many frames as were begun.
-/

/-- What is seen of the sends of one sender. -/
structure SendDiary where
  /-- When sends began, and with which frames. -/
  begun : List (Nat × List UInt8)
  /-- When sends returned, and with which outcomes. -/
  returned : List (Nat × Except Fault Unit)
  /-- Whether a send took its task down with it. -/
  crashed : Bool

namespace SendDiary

/-- The diary of one who has sent nothing. -/
def blank : SendDiary := ⟨[], [], false⟩

/-- Note that a send begins. -/
def start (diary : SendDiary) (now : Nat) (frame : List UInt8) : SendDiary :=
  { diary with begun := diary.begun ++ [(now, frame)] }

/-- Note how far a send is. -/
def follow {κ : Type} (diary : SendDiary) (now : Nat) : SendProgress κ → SendDiary
  | .waiting _ => diary
  | .finished outcome => { diary with returned := diary.returned ++ [(now, outcome)] }
  | .crashed => { diary with crashed := true }

/-- Whether a send has begun of which nothing more was seen. -/
def isInFlight (diary : SendDiary) : Bool :=
  !diary.crashed && decide (diary.returned.length < diary.begun.length)

/-- The number of sends that succeeded. -/
def taken (diary : SendDiary) : Nat :=
  diary.returned.countP (fun entry => entry.2.isOk)

/-- The number of sends that failed. -/
def refused (diary : SendDiary) : Nat :=
  diary.returned.countP (fun entry => !entry.2.isOk)

theorem taken_add_refused (diary : SendDiary) :
    diary.taken + diary.refused = diary.returned.length := by
  rw [taken, refused, List.length_eq_countP_add_countP (fun entry => entry.2.isOk)]
  simp only [Bool.not_eq_true, Bool.decide_eq_false]

theorem isInFlight_eq_true {diary : SendDiary} (whole : diary.crashed = false)
    (inFlight : diary.begun.length = diary.returned.length + 1) : diary.isInFlight = true := by
  rw [isInFlight, whole, inFlight]
  simp

end SendDiary

/-- An output, and what has been seen of it. -/
structure ObservedOutput (ω : Type) where
  output : ω
  /-- The diary of each sender. -/
  seen : Nat → SendDiary

namespace ObservedOutput

variable {ω κ : Type}

/-- Begin to watch an output. -/
def observe (output : ω) : ObservedOutput ω :=
  ⟨output, fun _ => .blank⟩

/-- Write the diary of a sender on. -/
def note (observed : ObservedOutput ω) (sender : Nat) (output : ω) (diary : SendDiary) :
    ObservedOutput ω :=
  ⟨output, Function.update observed.seen sender diary⟩

/-- Let the output change by itself. -/
def change (change : ω → ω) (observed : ObservedOutput ω) : ObservedOutput ω :=
  { observed with output := change observed.output }

instance [FrameOutput ω κ] : FrameOutput (ObservedOutput ω) κ where
  start := fun sender frame now observed =>
    let (output, progress) := FrameOutput.start sender frame now observed.output
    (observed.note sender output (((observed.seen sender).start now frame).follow now progress),
      progress)
  resume? := fun sender call now observed =>
    (FrameOutput.resume? sender call now observed.output).map (fun (output, progress) =>
      (observed.note sender output ((observed.seen sender).follow now progress), progress))
  abandon := fun sender call observed =>
    { observed with output := FrameOutput.abandon sender call observed.output }

theorem resume?_eq [FrameOutput ω κ] (observed : ObservedOutput ω) (sender now : Nat) (call : κ) :
    FrameOutput.resume? sender call now observed =
      (FrameOutput.resume? sender call now observed.output).map (fun result =>
        (observed.note sender result.1 ((observed.seen sender).follow now result.2), result.2)) :=
  rfl

@[simp] theorem seen_note (observed : ObservedOutput ω) (sender : Nat) (output : ω)
    (diary : SendDiary) : (observed.note sender output diary).seen sender = diary :=
  Function.update_self _ _ _

theorem seen_note_of_ne (observed : ObservedOutput ω) {sender other : Nat} (apart : other ≠ sender)
    (output : ω) (diary : SendDiary) :
    (observed.note sender output diary).seen other = observed.seen other :=
  Function.update_of_ne apart _ _

end ObservedOutput

namespace Generator

variable {ω κ : Type}

/-- What one step of a generator over a watched output may be. -/
inductive Moves (id now : Nat) (bank : RegisterBank) (before : Generator κ)
    (observed : ObservedOutput ω) : Generator κ → ObservedOutput ω → Prop
  /-- It begins to wait, for its first frame or for the next one. -/
  | waits (previous : Nat)
      (phase : before.phase = .fresh ∧ previous = Clock.nanos now ∨
        before.phase = .turning ∧ previous = before.deadline) :
      Moves id now bank before observed (before.pace previous bank) observed
  /-- It finds that it was asked to stop. -/
  | finishes (inputs : StatusInputs) (phase : before.phase = .pacing inputs)
      (cancelled : before.cancelled = true) :
      Moves id now bank before observed before.finish observed
  /-- Its wait is over, and a send begins. -/
  | begins (inputs : StatusInputs) (phase : before.phase = .pacing inputs)
      (wanted : before.cancelled = false) (due : Clock.isDue before.deadline now = true)
      (output : ω) (progress : SendProgress κ) :
      Moves id now bank before observed
        ({ before with cursor := before.cursor.advance }.follow progress)
        (observed.note id output
          (((observed.seen id).start now (before.cursor.frame inputs)).follow now progress))
  /-- It goes on with a send. -/
  | resumes (call : κ) (phase : before.phase = .sending call) (output : ω)
      (progress : SendProgress κ) :
      Moves id now bank before observed (before.follow progress)
        (observed.note id output ((observed.seen id).follow now progress))

variable {id now : Nat} {bank : RegisterBank} {before after : Generator κ}
variable {observed observedAfter : ObservedOutput ω}

theorem step?_moves [FrameOutput ω κ]
    (stepped : before.step? id bank now observed = some (after, observedAfter)) :
    Moves id now bank before observed after observedAfter := by
  cases phase : before.phase with
  | fresh =>
      simp only [step?, phase, Option.some.injEq, Prod.mk.injEq] at stepped
      rcases stepped with ⟨rfl, rfl⟩
      exact .waits _ (.inl ⟨phase, rfl⟩)
  | turning =>
      simp only [step?, phase, Option.some.injEq, Prod.mk.injEq] at stepped
      rcases stepped with ⟨rfl, rfl⟩
      exact .waits _ (.inr ⟨phase, rfl⟩)
  | pacing inputs =>
      simp only [step?, phase] at stepped
      split at stepped
      · next cancelled =>
          cases stepped
          exact .finishes inputs phase cancelled
      · next wanted =>
          split at stepped
          · next due =>
              cases stepped
              exact .begins inputs phase (Bool.eq_false_iff.mpr wanted) due _ _
          · contradiction
  | sending call =>
      simp only [step?, phase, ObservedOutput.resume?_eq, Option.map_map,
        Option.map_eq_some_iff] at stepped
      rcases stepped with ⟨⟨output, progress⟩, _, same⟩
      cases same
      exact .resumes call phase output progress
  | ended => simp [step?, phase] at stepped
  | crashed => simp [step?, phase] at stepped
  | aborted => simp [step?, phase] at stepped

/-- A step is seen in no other diary. -/
theorem Moves.seen_of_ne (moves : Moves id now bank before observed after observedAfter)
    {other : Nat} (apart : other ≠ id) : observedAfter.seen other = observed.seen other := by
  cases moves with
  | waits => rfl
  | finishes => rfl
  | begins => exact observed.seen_note_of_ne apart _ _
  | resumes => exact observed.seen_note_of_ne apart _ _

theorem Moves.cancelled (moves : Moves id now bank before observed after observedAfter) :
    after.cancelled = before.cancelled := by
  cases moves with
  | waits => rfl
  | finishes => rfl
  | begins _ _ _ _ _ progress => rcases progress with _ | (_ | _) | _ <;> rfl
  | resumes _ _ _ progress => rcases progress with _ | (_ | _) | _ <;> rfl

/-! ## Books -/

end Generator

/-- Whether a generator in this phase was stopped. -/
def GeneratorPhase.isStopped {κ : Type} : GeneratorPhase κ → Bool
  | .ended | .aborted => true
  | _ => false

/-- What a diary looks like while the sender is in a phase.  Nothing is said of
one who was ended from outside. -/
def GeneratorPhase.Matches {κ : Type} (diary : SendDiary) : GeneratorPhase κ → Prop
  | .sending _ => diary.crashed = false ∧ diary.begun.length = diary.returned.length + 1
  | .crashed => diary.crashed = true ∧ diary.begun.length = diary.returned.length + 1
  | .aborted => True
  | _ => diary.crashed = false ∧ diary.begun.length = diary.returned.length

namespace Generator

variable {ω κ : Type} {profile : Profile} {diary : SendDiary} {generator : Generator κ}

/-- The books of a generator agree with the diary of its sends. -/
structure Books (profile : Profile) (diary : SendDiary) (generator : Generator κ) : Prop where
  cursor : generator.cursor = .reached profile diary.begun.length
  sent : generator.sent = diary.taken
  failed : generator.failed = diary.refused
  phase : generator.phase.Matches diary
  /-- Whoever counts as streaming was not stopped. -/
  streaming : generator.active = true → generator.phase.isStopped = false

namespace Books

theorem spawn (profile : Profile) : Books profile .blank (Generator.spawn profile : Generator κ) :=
  ⟨rfl, rfl, rfl, ⟨rfl, rfl⟩, fun _ => rfl⟩

theorem cancel (books : Books profile diary generator) :
    Books profile diary generator.cancel :=
  ⟨books.cursor, books.sent, books.failed, books.phase, books.streaming⟩

theorem abort (books : Books profile diary generator) :
    Books profile diary generator.abort := by
  refine ⟨books.cursor, books.sent, books.failed, ?_, fun active => ?_⟩
  · rw [Generator.abort]
    split
    · exact books.phase
    · trivial
  · exact absurd active Bool.false_ne_true

/-- One who has ended by himself does not notice that he is ended. -/
theorem abort_of_ended (books : Books profile diary generator)
    (ended : generator.phase = .ended) : generator.abort = generator := by
  have inactive : generator.active = false := by
    refine Bool.eq_false_iff.mpr fun active => ?_
    have unstopped := books.streaming active
    rw [ended] at unstopped
    contradiction
  have gone : generator.isOver = true := by rw [isOver, ended]
  rw [Generator.abort, if_pos gone, ← inactive]

/-- A send that has begun and the books of one who follows it. -/
theorem follow (cursor : generator.cursor = .reached profile diary.begun.length)
    (sent : generator.sent = diary.taken) (failed : generator.failed = diary.refused)
    (whole : diary.crashed = false) (inFlight : diary.begun.length = diary.returned.length + 1)
    (now : Nat) (progress : SendProgress κ) :
    Books profile (diary.follow now progress) (generator.follow progress) := by
  rcases progress with call | (fault | _) | _
  · exact ⟨cursor, sent, failed, ⟨whole, inFlight⟩, fun _ => rfl⟩
  · refine ⟨cursor, ?_, ?_, ⟨whole, ?_⟩, fun _ => rfl⟩
    · simp only [SendDiary.follow, SendDiary.taken, List.countP_append] at sent ⊢
      exact sent
    · simp only [SendDiary.follow, SendDiary.refused, List.countP_append] at failed ⊢
      exact congrArg (· + 1) failed
    · rw [SendDiary.follow, List.length_append]
      exact inFlight
  · refine ⟨cursor, ?_, ?_, ⟨whole, ?_⟩, fun _ => rfl⟩
    · simp only [SendDiary.follow, SendDiary.taken, List.countP_append] at sent ⊢
      exact congrArg (· + 1) sent
    · simp only [SendDiary.follow, SendDiary.refused, List.countP_append] at failed ⊢
      exact failed
    · rw [SendDiary.follow, List.length_append]
      exact inFlight
  · exact ⟨cursor, sent, failed, ⟨rfl, inFlight⟩, fun _ => rfl⟩

variable {id now : Nat} {bank : RegisterBank} {before after : Generator κ}
variable {observed observedAfter : ObservedOutput ω}

theorem moves (books : Books profile (observed.seen id) before)
    (moves : Moves id now bank before observed after observedAfter) :
    Books profile (observedAfter.seen id) after := by
  have phase := books.phase
  cases moves with
  | waits previous early =>
      refine ⟨books.cursor, books.sent, books.failed, ?_, fun _ => rfl⟩
      rcases early with ⟨fresh, -⟩ | ⟨turning, -⟩
      · rwa [fresh] at phase
      · rwa [turning] at phase
  | finishes inputs pacing =>
      rw [pacing] at phase
      exact ⟨books.cursor, books.sent, books.failed, phase,
        fun active => absurd active Bool.false_ne_true⟩
  | begins inputs pacing wanted due output progress =>
      rw [pacing] at phase
      rw [ObservedOutput.seen_note]
      have longer : ((observed.seen id).start now (before.cursor.frame inputs)).begun.length =
          (observed.seen id).begun.length + 1 := List.length_append
      have cursor : ({ before with cursor := before.cursor.advance } : Generator κ).cursor =
          .reached profile
            ((observed.seen id).start now (before.cursor.frame inputs)).begun.length := by
        rw [longer, StatusCursor.reached_succ, ← books.cursor]
      refine follow cursor books.sent books.failed phase.1 ?_ now progress
      rw [longer, phase.2]
      rfl
  | resumes call sending output progress =>
      rw [sending] at phase
      rw [ObservedOutput.seen_note]
      exact follow books.cursor books.sent books.failed phase.1 phase.2 now progress

end Books
end Generator
end VirtualRadio
