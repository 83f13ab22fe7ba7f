import VirtualRadio.Proofs.Generator.Happenings

namespace VirtualRadio

/-!
# What becomes of a generator

Of all that happens, little concerns a generator with a given number.  It is
born, it makes steps, time goes by; it is asked to stop, ended from outside when
its stopper has waited long enough, and forgotten once it is over.  Whatever is
to be shown of one generator is shown for each of these.

A run is sound if the books of all its generators agree with what was seen of
their sends, and if the one that is held has not been asked to stop.
-/

namespace Generator

variable {κ : Type}

/-- Whether nobody has asked a generator to stop or ended it. -/
structure IsWanted (generator : Generator κ) : Prop where
  uncancelled : generator.cancelled = false
  unstopped : generator.phase.isStopped = false

theorem isWanted_spawn (profile : Profile) : (spawn profile : Generator κ).IsWanted :=
  ⟨rfl, rfl⟩

/-- A send leaves its generator neither ended nor aborted. -/
theorem isWanted_follow {generator : Generator κ} (uncancelled : generator.cancelled = false)
    (progress : SendProgress κ) : (generator.follow progress).IsWanted := by
  rcases progress with _ | (_ | _) | _ <;> exact ⟨uncancelled, rfl⟩

/-- Nobody stops by himself. -/
theorem Moves.isWanted {ω : Type} {id now : Nat} {bank : RegisterBank}
    {before after : Generator κ} {observed observedAfter : ObservedOutput ω}
    (moves : Moves id now bank before observed after observedAfter) (wanted : before.IsWanted) :
    after.IsWanted := by
  cases moves with
  | waits => exact ⟨wanted.uncancelled, rfl⟩
  | finishes _ _ cancelled => exact absurd cancelled (by simp [wanted.uncancelled])
  | begins _ _ uncancelled =>
      have advanced : ({ before with cursor := before.cursor.advance } : Generator κ).cancelled =
          false := uncancelled
      exact isWanted_follow advanced _
  | resumes => exact isWanted_follow wanted.uncancelled _

/-- A generator that is over makes no step. -/
theorem Moves.not_isOver {ω : Type} {id now : Nat} {bank : RegisterBank}
    {before after : Generator κ} {observed observedAfter : ObservedOutput ω}
    (moves : Moves id now bank before observed after observedAfter) : before.isOver = false := by
  rw [isOver]
  cases moves with
  | waits _ phase =>
      rcases phase with ⟨fresh, -⟩ | ⟨turning, -⟩
      · rw [fresh]
      · rw [turning]
  | finishes _ phase => rw [phase]
  | begins _ phase => rw [phase]
  | resumes _ phase => rw [phase]

end Generator

/-- A send that is taken back leaves no trace in the diary. -/
theorem GeneratorPool.seen_abort {ω κ : Type} [FrameOutput ω κ] (pool : GeneratorPool κ)
    (id : Nat) (observed : ObservedOutput ω) :
    (pool.abort id observed).2.seen = observed.seen := by
  rw [abort]
  split <;> rfl

namespace GeneratorRun

/-! ## Letting go and starting -/

section Drop

variable {ω κ : Type} {run : GeneratorRun ω κ}

theorem nextId_drop (run : GeneratorRun ω κ) :
    run.drop.pool.nextId = run.pool.nextId := by
  rw [drop]
  split <;> rfl

theorem numbered_drop (numbered : run.pool.IsNumbered) : run.drop.pool.IsNumbered := by
  rw [drop]
  split
  · exact numbered
  · exact numbered.update _ _

theorem get?_drop (run : GeneratorRun ω κ) (id : Nat) :
    run.drop.pool.get? id =
      if run.held = some id then (run.pool.get? id).map Generator.cancel
      else run.pool.get? id := by
  rw [drop]
  split
  · next none => simp [none]
  · next holder holds =>
      rw [GeneratorPool.cancel, GeneratorPool.get?_update, holds]
      by_cases same : id = holder
      · simp [same]
      · simp [same, Ne.symm same]

theorem start_eq (run : GeneratorRun ω κ) :
    run.start = { run with
      pool := run.drop.pool.spawn run.profile
      held := some run.pool.nextId } := by
  simp only [start, nextId_drop]
  rw [drop]
  split <;> rfl

theorem get?_start (numbered : run.pool.IsNumbered) (id : Nat) :
    run.start.pool.get? id =
      if id = run.pool.nextId then some (.spawn run.profile)
      else (if run.held = some id then (run.pool.get? id).map Generator.cancel
        else run.pool.get? id).filter (fun generator => !generator.isOver) := by
  have member := GeneratorPool.get?_spawn (numbered_drop numbered) run.profile id
  rw [nextId_drop, get?_drop] at member
  rw [start_eq]
  exact member

/-- What is common to everything that happens: no number is given twice, and
while the caller waits it holds none. -/
structure Continues (run after : GeneratorRun ω κ) : Prop where
  profile : after.profile = run.profile
  nextId : run.pool.nextId ≤ after.pool.nextId
  numbered : run.pool.IsNumbered → after.pool.IsNumbered
  alone : after.held.isSome = true → after.stopping = none ∨
    run.held.isSome = true ∧ after.stopping = run.stopping

theorem continues_drop (run : GeneratorRun ω κ) : Continues run run.drop := by
  refine ⟨?_, Nat.le_of_eq (nextId_drop run).symm, numbered_drop, ?_⟩
  · rw [drop]
    split <;> rfl
  · rw [drop]
    split
    · exact fun holds => .inr ⟨holds, rfl⟩
    · exact fun holds => absurd holds Bool.false_ne_true

theorem continues_askToStop (run : GeneratorRun ω κ) (patience : Nat) :
    Continues run (run.askToStop patience) := by
  rw [askToStop]
  split
  · exact ⟨rfl, Nat.le_refl _, fun numbered => numbered, fun holds => .inr ⟨holds, rfl⟩⟩
  · exact ⟨rfl, Nat.le_refl _, fun numbered => numbered.update _ _,
      fun holds => absurd holds Bool.false_ne_true⟩

end Drop

variable {ω κ : Type} [FrameOutput ω κ]
variable {id : Nat} {run after : GeneratorRun (ObservedOutput ω) κ}

theorem step?_generator (stepped : step? (.generator id) run = some after) :
    ∃ generator generatorAfter output, run.pool.get? id = some generator ∧
      Generator.Moves id run.now run.radio.bank generator run.output generatorAfter output ∧
      after = { run with
        pool := run.pool.update id (fun _ => generatorAfter)
        output := output } := by
  obtain ⟨generator, generatorAfter, output, finds, step, same⟩ := step?_generator_eq_some stepped
  exact ⟨generator, generatorAfter, output, finds, Generator.step?_moves step, same⟩

/-- A step of the caller is the end of a stop: it has found how the generator
ended, and has ended it if it had not. -/
theorem step?_caller (stepped : step? .caller run = some after) :
    ∃ id deadline, run.stopping = some (id, deadline) ∧
      (run.pool.get? id = none ∧ after = { run with stopping := none, outcome := .forced } ∨
        ∃ generator outcome output, run.pool.get? id = some generator ∧
          generator.stopped? deadline run.now = some outcome ∧ output.seen = run.output.seen ∧
          after = { run with
            pool := run.pool.update id Generator.abort
            output := output
            stopping := none
            outcome := outcome }) := by
  simp only [step?, Option.bind_eq_bind, Option.bind_eq_some_iff, Option.pure_def,
    Option.some.injEq] at stepped
  rcases stepped with ⟨⟨id, deadline⟩, waited, ⟨outcome, pool, output⟩, stopped, rfl⟩
  refine ⟨id, deadline, waited, ?_⟩
  cases finds : run.pool.get? id with
  | none =>
      simp only [GeneratorPool.stopped?, finds, Option.some.injEq, Prod.mk.injEq] at stopped
      rcases stopped with ⟨rfl, rfl, rfl⟩
      exact .inl ⟨rfl, rfl⟩
  | some generator =>
      simp only [GeneratorPool.stopped?, finds, Option.map_eq_some_iff] at stopped
      rcases stopped with ⟨_, found, same⟩
      cases same
      exact .inr ⟨generator, _, _, rfl, found, run.pool.seen_abort id run.output, rfl⟩

/-! ## Moments of rest -/

theorem mem_tasks {generator : Generator κ} (finds : run.pool.get? id = some generator) :
    GeneratorTask.generator id ∈ TaskSystem.tasks run := by
  rcases List.lookup_eq_some_iff.mp finds with ⟨front, back, members, _⟩
  refine List.mem_cons_of_mem _ (List.mem_map.mpr ⟨(id, generator), ?_, rfl⟩)
  simp [members]

theorem caller_mem_tasks (run : GeneratorRun (ObservedOutput ω) κ) :
    GeneratorTask.caller ∈ TaskSystem.tasks run :=
  List.mem_cons_self

/-- At rest a generator has no step to make. -/
theorem step?_of_rest {generator : Generator κ} (finds : run.pool.get? id = some generator)
    (rests : TaskSystem.isAtRest run = true) :
    generator.step? id run.radio.bank run.now run.output = none :=
  step?_of_waits finds (TaskSystem.step?_of_isAtRest rests (mem_tasks finds))

/-- The clock does not pass over the wait of a generator. -/
theorem le_ceilMillis_of_wait {generator : Generator κ} {deadline millis : Nat}
    (finds : run.pool.get? id = some generator) (waits : generator.deadline? = some deadline)
    (may : TaskSystem.mayPass millis run = true) :
    run.now + millis ≤ Clock.ceilMillis deadline := by
  refine TaskSystem.le_ceilMillis_of_mayPass may (mem_tasks finds) ?_
  change (run.pool.get? id).bind Generator.deadline? = some deadline
  rw [finds, Option.bind_some, waits]

/-! ## Happenings -/

/-- What something that happens may mean for the generator with a number. -/
inductive Befalls (id : Nat) (run after : GeneratorRun (ObservedOutput ω) κ) : Prop
  /-- It does not concern it. -/
  | apart (member : after.pool.get? id = run.pool.get? id)
      (seen : after.output.seen id = run.output.seen id) (now : after.now = run.now)
      (held : after.held = some id → run.held = some id)
  | born (new : run.pool.nextId = id) (member : after.pool.get? id = some (.spawn run.profile))
      (seen : after.output.seen id = run.output.seen id) (now : after.now = run.now)
  /-- It makes a step, and the caller is not passed over. -/
  | moves (generator generatorAfter : Generator κ) (finds : run.pool.get? id = some generator)
      (callerWaits : step? .caller run = none)
      (moves : Generator.Moves id run.now run.radio.bank generator run.output generatorAfter
        after.output)
      (member : after.pool.get? id = some generatorAfter) (now : after.now = run.now)
      (held : after.held = run.held)
  | passes (millis : Nat) (may : TaskSystem.mayPass millis run = true)
      (same : after = { run with now := run.now + millis })
  /-- Its holder lets go of it. -/
  | cancels (holds : run.held = some id)
      (member : after.pool.get? id = (run.pool.get? id).map Generator.cancel)
      (seen : after.output.seen id = run.output.seen id) (now : after.now = run.now)
      (held : after.held ≠ some id)
  /-- One who waited for its end waits no longer. -/
  | aborts (returns : step? .caller run = some after)
      (member : after.pool.get? id = (run.pool.get? id).map Generator.abort)
      (seen : after.output.seen id = run.output.seen id) (now : after.now = run.now)
      (held : after.held = run.held)
  | forgets (free : run.stopping = none) (generator : Generator κ)
      (finds : run.pool.get? id = some generator) (gone : generator.isOver = true)
      (member : after.pool.get? id = none)
      (seen : after.output.seen id = run.output.seen id) (now : after.now = run.now)
      (held : after.held ≠ some id)

namespace Befalls

variable {holder : Nat}

theorem nothing (id : Nat) (run : GeneratorRun (ObservedOutput ω) κ) : Befalls id run run :=
  .apart rfl rfl rfl (fun holds => holds)

/-- The holder of a generator asks it to stop and holds none after that. -/
theorem letGo (holds : run.held = some holder) (pool : after.pool = run.pool.cancel holder)
    (output : after.output = run.output) (now : after.now = run.now) (held : after.held = none) :
    Befalls id run after := by
  have member := run.pool.get?_update holder id Generator.cancel
  rw [← GeneratorPool.cancel, ← pool] at member
  have seen : after.output.seen id = run.output.seen id := by rw [output]
  by_cases same : id = holder
  · rw [if_pos same, ← same] at member
    exact .cancels (same ▸ holds) member seen now (by simp [held])
  · rw [if_neg same] at member
    exact .apart member seen now (by simp [held])

theorem drop (id : Nat) (run : GeneratorRun (ObservedOutput ω) κ) : Befalls id run run.drop := by
  cases holds : run.held with
  | none =>
      rw [GeneratorRun.drop, holds]
      exact nothing id run
  | some holder =>
      rw [GeneratorRun.drop, holds]
      exact letGo holds rfl rfl rfl rfl

theorem askToStop (id : Nat) (run : GeneratorRun (ObservedOutput ω) κ) (patience : Nat) :
    Befalls id run (run.askToStop patience) := by
  cases holds : run.held with
  | none =>
      rw [GeneratorRun.askToStop, holds]
      exact nothing id run
  | some holder =>
      rw [GeneratorRun.askToStop, holds]
      exact letGo holds rfl rfl rfl rfl

/-- Whoever is over is forgotten when the next generator is born; whoever was
held has been asked to stop. -/
theorem start (numbered : run.pool.IsNumbered) (free : run.stopping = none) (id : Nat) :
    Befalls id run run.start := by
  have member := get?_start numbered id
  rw [start_eq] at member ⊢
  by_cases new : id = run.pool.nextId
  · rw [if_pos new] at member
    exact .born new.symm member rfl rfl
  · rw [if_neg new] at member
    have held : some run.pool.nextId ≠ some id := fun same => new (Option.some.inj same).symm
    cases finds : run.pool.get? id with
    | none =>
        rw [finds, Option.map_none, ite_self] at member
        exact .apart (member.trans finds.symm) rfl rfl (fun same => absurd same held)
    | some generator =>
        rw [finds, Option.map_some] at member
        cases gone : generator.isOver with
        | true =>
            refine .forgets free generator finds gone (member.trans ?_) rfl rfl held
            split <;> simp [Generator.isOver_cancel, gone]
        | false =>
            by_cases holds : run.held = some id
            · refine .cancels holds (member.trans ?_) rfl rfl held
              simp [holds, finds, Generator.isOver_cancel, gone]
            · refine .apart (member.trans ?_) rfl rfl (fun same => absurd same held)
              simp [holds, finds, gone]

theorem caller (stepped : step? .caller run = some after) : Befalls id run after := by
  obtain ⟨awaited, _, -, ⟨-, rfl⟩ | ⟨_, _, _, -, -, seen, rfl⟩⟩ := step?_caller stepped
  · exact .apart rfl rfl rfl (fun holds => holds)
  · have member := run.pool.get?_update awaited id Generator.abort
    by_cases same : id = awaited
    · rw [if_pos same, ← same] at member
      exact .aborts stepped (same ▸ member) (congrFun seen id) rfl rfl
    · rw [if_neg same] at member
      exact .apart member (congrFun seen id) rfl (fun holds => holds)

theorem generator {mover : Nat} (callerWaits : step? .caller run = none)
    (stepped : step? (.generator mover) run = some after) : Befalls id run after := by
  obtain ⟨generator, generatorAfter, output, finds, moves, rfl⟩ := step?_generator stepped
  have member := run.pool.get?_update mover id (fun _ => generatorAfter)
  by_cases same : id = mover
  · subst same
    rw [if_pos rfl, finds] at member
    exact .moves generator generatorAfter finds callerWaits moves member rfl rfl
  · rw [if_neg same] at member
    exact .apart member (moves.seen_of_ne same) rfl (fun holds => holds)

/-- Nothing is seen of a generator that does not exist. -/
theorem seen_of_absent (befalls : Befalls id run after) (absent : run.pool.get? id = none) :
    after.output.seen id = run.output.seen id := by
  cases befalls with
  | apart _ seen => exact seen
  | born _ _ seen => exact seen
  | moves _ _ finds => exact absurd (finds.symm.trans absent) (Option.some_ne_none _)
  | passes _ _ same => rw [same]
  | cancels _ _ seen => exact seen
  | aborts _ _ seen => exact seen
  | forgets _ _ finds => exact absurd (finds.symm.trans absent) (Option.some_ne_none _)

end Befalls

theorem happen_befalls (numbered : run.pool.IsNumbered) (id : Nat)
    (happening : GeneratorHappening ω) : Befalls id run (run.happen happening.observed) := by
  rw [happen]
  split
  · next permitted =>
      cases happening with
      | step task =>
          change Befalls id run ((step? task run).getD run)
          cases stepped : step? task run with
          | none => exact .nothing id run
          | some after =>
              cases task with
              | caller => exact .caller stepped
              | generator mover => exact .generator (Option.isNone_iff_eq_none.mp permitted) stepped
      | pass millis => exact .passes millis permitted rfl
      | tune radio => exact .apart rfl rfl rfl (fun holds => holds)
      | change change => exact .apart rfl rfl rfl (fun holds => holds)
      | start => exact .start numbered (Option.isNone_iff_eq_none.mp permitted) id
      | stop patience => exact .askToStop id run patience
      | drop => exact .drop id run
  · exact .nothing id run

/-! ## Sound runs -/

/-- The books of all generators agree with what was seen, and the caller holds
none that was asked to stop, nor any while it waits for the end of one. -/
structure IsSound (run : GeneratorRun (ObservedOutput ω) κ) : Prop where
  numbered : run.pool.IsNumbered
  blank : ∀ id, run.pool.nextId ≤ id → run.output.seen id = .blank
  books : ∀ id generator, run.pool.get? id = some generator →
    generator.Books run.profile (run.output.seen id)
  held : ∀ id, run.held = some id →
    ∃ generator, run.pool.get? id = some generator ∧ generator.IsWanted
  alone : run.held.isSome = true → run.stopping = none

omit [FrameOutput ω κ] in
theorem initial_isSound (profile : Profile) (output : ω) :
    (initial profile (.observe output) : GeneratorRun (ObservedOutput ω) κ).IsSound :=
  ⟨.empty, fun _ _ => rfl, fun _ _ finds => absurd finds (Option.some_ne_none _).symm,
    fun _ holds => absurd holds (Option.some_ne_none _).symm,
    fun holds => absurd holds Bool.false_ne_true⟩

theorem happen_continues (run : GeneratorRun (ObservedOutput ω) κ)
    (happening : GeneratorHappening ω) : Continues run (run.happen happening.observed) := by
  have nothing : Continues run run :=
    ⟨rfl, Nat.le_refl _, fun numbered => numbered, fun holds => .inr ⟨holds, rfl⟩⟩
  rw [happen]
  split
  · next permitted =>
      cases happening with
      | step task =>
          change Continues run ((step? task run).getD run)
          cases stepped : step? task run with
          | none => exact nothing
          | some after =>
              change Continues run after
              cases task with
              | caller =>
                  obtain ⟨_, _, -, ⟨-, rfl⟩ | ⟨_, _, _, -, -, -, rfl⟩⟩ := step?_caller stepped
                  · exact ⟨rfl, Nat.le_refl _, fun numbered => numbered, fun _ => .inl rfl⟩
                  · exact ⟨rfl, Nat.le_refl _, fun numbered => numbered.update _ _,
                      fun _ => .inl rfl⟩
              | generator mover =>
                  obtain ⟨_, moved, _, -, -, rfl⟩ := step?_generator stepped
                  exact ⟨rfl, Nat.le_refl _, fun numbered => numbered.update mover (fun _ => moved),
                    fun holds => .inr ⟨holds, rfl⟩⟩
      | pass millis => exact ⟨rfl, Nat.le_refl _, nothing.numbered, nothing.alone⟩
      | tune radio => exact ⟨rfl, Nat.le_refl _, nothing.numbered, nothing.alone⟩
      | change change => exact ⟨rfl, Nat.le_refl _, nothing.numbered, nothing.alone⟩
      | start =>
          change Continues run run.start
          rw [start_eq]
          refine ⟨rfl, ?_, fun numbered => (numbered_drop numbered).spawn _, fun _ => .inl ?_⟩
          · exact Nat.le_trans (Nat.le_succ _) (Nat.le_of_eq (congrArg Nat.succ
              (nextId_drop run).symm))
          · exact Option.isNone_iff_eq_none.mp permitted
      | stop patience => exact continues_askToStop run patience
      | drop => exact continues_drop run
  · exact nothing

namespace IsSound

theorem books_after (sound : run.IsSound) (profile : after.profile = run.profile)
    (befalls : Befalls id run after) {generator : Generator κ}
    (finds : after.pool.get? id = some generator) :
    generator.Books after.profile (after.output.seen id) := by
  rw [profile]
  cases befalls with
  | apart member seen =>
      rw [seen]
      exact sound.books id generator (member ▸ finds)
  | born new member seen =>
      rw [seen, sound.blank id (Nat.le_of_eq new)]
      cases member.symm.trans finds
      exact .spawn _
  | moves before _ found _ moves member =>
      cases member.symm.trans finds
      exact (sound.books id before found).moves moves
  | passes _ _ same =>
      rw [same] at finds ⊢
      exact sound.books id generator finds
  | cancels _ member seen =>
      rw [seen]
      rw [member, Option.map_eq_some_iff] at finds
      obtain ⟨before, found, rfl⟩ := finds
      exact (sound.books id before found).cancel
  | aborts _ member seen =>
      rw [seen]
      rw [member, Option.map_eq_some_iff] at finds
      obtain ⟨before, found, rfl⟩ := finds
      exact (sound.books id before found).abort
  | forgets _ _ _ _ member => exact absurd (finds.symm.trans member) (Option.some_ne_none _)

theorem held_after (sound : run.IsSound) (befalls : Befalls id run after)
    (holds : after.held = some id) :
    ∃ generator, after.pool.get? id = some generator ∧ generator.IsWanted := by
  cases befalls with
  | apart member _ _ held =>
      rw [member]
      exact sound.held id (held holds)
  | born _ member => exact ⟨_, member, Generator.isWanted_spawn _⟩
  | moves before _ found _ moves member _ held =>
      obtain ⟨generator, finds, wanted⟩ := sound.held id (held ▸ holds)
      cases found.symm.trans finds
      exact ⟨_, member, moves.isWanted wanted⟩
  | passes _ _ same =>
      rw [same] at holds ⊢
      exact sound.held id holds
  | cancels _ _ _ _ held => exact absurd holds held
  | aborts returns _ _ _ held =>
      obtain ⟨_, _, waited, -⟩ := step?_caller returns
      have free := sound.alone (by rw [← held, holds]; rfl)
      exact absurd (waited.symm.trans free) (Option.some_ne_none _)
  | forgets _ _ _ _ _ _ _ held => exact absurd holds held

theorem keep (sound : run.IsSound) (continues : Continues run after)
    (befalls : ∀ id, Befalls id run after) : after.IsSound where
  numbered := continues.numbered sound.numbered
  blank := by
    intro id unknown
    have unborn := Nat.le_trans continues.nextId unknown
    have absent : run.pool.get? id = none := Option.eq_none_iff_forall_ne_some.mpr
      fun _ finds => absurd (sound.numbered.lt_nextId finds) (Nat.not_lt_of_le unborn)
    rw [(befalls id).seen_of_absent absent]
    exact sound.blank id unborn
  books := fun id _ finds => sound.books_after continues.profile (befalls id) finds
  held := fun id holds => sound.held_after (befalls id) holds
  alone := by
    intro holds
    rcases continues.alone holds with free | ⟨held, same⟩
    · exact free
    · rw [same]
      exact sound.alone held

theorem happen (sound : run.IsSound) (happening : GeneratorHappening ω) :
    (run.happen happening.observed).IsSound :=
  sound.keep (happen_continues run happening) fun id =>
    happen_befalls sound.numbered id happening

theorem afterAll (sound : run.IsSound) (happenings : List (GeneratorHappening ω)) :
    (run.afterAll (happenings.map .observed)).IsSound := by
  induction happenings generalizing run with
  | nil => exact sound
  | cons happening happenings ih => exact ih (sound.happen happening)

end IsSound

theorem profile_afterAll (run : GeneratorRun (ObservedOutput ω) κ)
    (happenings : List (GeneratorHappening ω)) :
    (run.afterAll (happenings.map .observed)).profile = run.profile := by
  induction happenings generalizing run with
  | nil => rfl
  | cons happening happenings ih =>
      exact (ih (run.happen happening.observed)).trans (happen_continues run happening).profile

theorem watched_isSound (profile : Profile) (output : ω)
    (happenings : List (GeneratorHappening ω)) :
    (watched profile output happenings : GeneratorRun (ObservedOutput ω) κ).IsSound :=
  (initial_isSound profile output).afterAll happenings

end GeneratorRun
end VirtualRadio
