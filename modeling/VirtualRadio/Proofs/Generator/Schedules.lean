import VirtualRadio.Proofs.Generator.Happenings

namespace VirtualRadio

/-!
# Calls are made of happenings

Whatever the caller does with generators, it goes where happenings lead: the
tasks get their turns in an order that is permitted, and as long as they come to
rest at every moment, the clock passes over none of their waits.
-/

namespace GeneratorRun

variable {ω κ : Type} [FrameOutput ω κ] {start run after : GeneratorRun ω κ}

/-! ## Turns -/

/-- A generator that goes on after a step has not given the caller one. -/
theorem callerWaits_of_steps {id : Nat} {next : GeneratorRun ω κ}
    (callerWaits : step? .caller run = none)
    (stepped : step? (.generator id) run = some after)
    (goesOn : step? (.generator id) after = some next) : step? .caller after = none := by
  obtain ⟨generator, generatorAfter, output, finds, moved, rfl⟩ := step?_generator_eq_some stepped
  obtain ⟨found, _, _, there, movedOn, -⟩ := step?_generator_eq_some goesOn
  have alive : found.isOver = false := by
    refine Bool.eq_false_iff.mpr fun gone => ?_
    rw [Generator.step?_of_isOver gone] at movedOn
    contradiction
  rw [step?_caller_eq_none_iff] at callerWaits ⊢
  intro waited deadline waits
  obtain ⟨awaited, present, unended, early⟩ := callerWaits waited deadline waits
  by_cases same : waited = id
  · subst same
    exact ⟨found, there, alive, early⟩
  · refine ⟨awaited, ?_, unended, early⟩
    change (run.pool.update id (fun _ => generatorAfter)).get? waited = some awaited
    rw [GeneratorPool.get?_update, if_neg same, present]

/-! ## Schedules -/

/-- Whether a run becomes another one by itself. -/
def Evolves (before after : GeneratorRun ω κ) : Prop :=
  ∃ happenings : List (GeneratorHappening ω),
    (∀ happening ∈ happenings, happening.isInner = true) ∧ before.afterAll happenings = after

namespace Evolves

theorem refl (run : GeneratorRun ω κ) : run.Evolves run :=
  ⟨[], nofun, rfl⟩

theorem happen (evolves : start.Evolves run) {happening : GeneratorHappening ω}
    (inner : happening.isInner = true) : start.Evolves (run.happen happening) := by
  obtain ⟨happenings, all, rfl⟩ := evolves
  refine ⟨happenings ++ [happening], fun other among => ?_, afterAll_append start happenings _⟩
  rcases List.mem_append.mp among with among | last
  · exact all other among
  · rw [List.mem_singleton.mp last]
    exact inner

/-- A task goes on until it waits, and the caller is not passed over. -/
theorem turn (evolves : start.Evolves run) {task : GeneratorTask}
    (first : task = .caller ∨ step? .caller run = none) (limit : Nat) :
    start.Evolves (TaskSystem.turn task limit run) := by
  induction limit generalizing run with
  | zero => exact evolves
  | succ limit ih =>
      rw [TaskSystem.turn]
      split
      · exact evolves
      · next after stepped =>
          change step? task run = some after at stepped
          have permitted : run.permits (.step task) = true := by
            cases task with
            | caller => rfl
            | generator id =>
                rcases first with caller | waits
                · contradiction
                · exact Option.isNone_iff_eq_none.mpr waits
          have made : run.happen (.step task) = after := by
            rw [GeneratorRun.happen, if_pos permitted]
            exact congrArg (Option.getD · run) stepped
          have next : start.Evolves after := made ▸ evolves.happen rfl
          rcases first with caller | waits
          · exact ih next (.inl caller)
          · cases task with
            | caller => exact ih next (.inl rfl)
            | generator id =>
                cases goesOn : step? (.generator id) after with
                | none =>
                    rw [TaskSystem.turn_of_waits goesOn]
                    exact next
                | some later => exact ih next (.inr (callerWaits_of_steps waits stepped goesOn))

end Evolves

/-- The caller comes first. -/
theorem first_of_ready {task : GeneratorTask} (chosen : TaskSystem.ready? run = some task) :
    task = .caller ∨ step? .caller run = none := by
  cases waits : step? .caller run with
  | none => exact .inr rfl
  | some after =>
      have ready : (step? .caller run).isSome = true := by rw [waits]; rfl
      have caller : TaskSystem.ready? run = some .caller := List.find?_cons_of_pos ready
      exact .inl (Option.some.inj (chosen.symm.trans caller))

theorem keepsInOrder_evolves (start : GeneratorRun ω κ) :
    TaskSystem.KeepsInOrder start.Evolves where
  turn := fun evolves chosen => evolves.turn (first_of_ready chosen) _
  pass := by
    intro millis run evolves may
    have passed : run.happen (.pass millis) = TaskSystem.atTime (run.now + millis) run := if_pos may
    have next : start.Evolves (run.happen (.pass millis)) := evolves.happen rfl
    rw [passed] at next
    exact next
  ahead := by
    intro task run deadline rests member waits
    have stuck : step? task run = none := TaskSystem.step?_of_isAtRest rests member
    change run.now < Clock.ceilMillis deadline
    rw [Clock.lt_ceilMillis_iff]
    cases task with
    | caller =>
        obtain ⟨⟨id, awaited⟩, waited, rfl⟩ := Option.map_eq_some_iff.mp waits
        obtain ⟨_, -, -, early⟩ := step?_caller_eq_none_iff.mp stuck id awaited waited
        exact Nat.lt_of_not_le (of_decide_eq_false early)
    | generator id =>
        obtain ⟨generator, finds, waited⟩ := Option.bind_eq_some_iff.mp waits
        exact Generator.nanos_lt_of_waits waited (step?_of_waits finds stuck)

/-! ## Calls -/

/-- Whether a run that goes on by itself comes to rest at every moment. -/
def ComesToRest (run : GeneratorRun ω κ) : Prop :=
  ∀ after, run.Evolves after → TaskSystem.isAtRest (TaskSystem.settle after) = true

/-- What a call makes of a run before anything else happens. -/
def begun (run : GeneratorRun ω κ) : GeneratorCall ω → GeneratorRun ω κ
  | .start => run.start
  | .set register value =>
    { run with radio := { run.radio with bank := (run.radio.bank.set register value).1 } }
  | .block block =>
    { run with radio := ((Decoder.ofProfile run.profile).decodeBlock run.radio block).1 }
  | .change change => { run with output := change run.output }
  | .advance _ => run
  | .stop millis => run.askToStop (Clock.nanos millis)
  | .drop => run.drop

/-- A call begins with one thing that happens. -/
theorem begun_of_happening (free : run.stopping = none) (call : GeneratorCall ω) :
    ∃ happening, run.happen happening = run.begun call := by
  have isNone : run.stopping.isNone = true := Option.isNone_iff_eq_none.mpr free
  cases call with
  | start => exact ⟨.start, if_pos isNone⟩
  | set register value => exact ⟨.tune _, if_pos rfl⟩
  | block block => exact ⟨.tune _, if_pos rfl⟩
  | change change => exact ⟨.change change, if_pos rfl⟩
  | advance millis => exact ⟨.tune run.radio, if_pos rfl⟩
  | stop millis => exact ⟨.stop (Clock.nanos millis), if_pos isNone⟩
  | drop => exact ⟨.drop, if_pos isNone⟩

/-- After that a call lets everything happen by itself. -/
theorem evolves_perform (run : GeneratorRun ω κ) (call : GeneratorCall ω)
    (rests : (run.begun call).ComesToRest) : (run.begun call).Evolves (run.perform call).1 := by
  have keeps := (run.begun call).keepsInOrder_evolves
  have settled : (run.begun call).Evolves (TaskSystem.settle (run.begun call)) :=
    keeps.settle (.refl _)
  cases call with
  | advance millis => exact keeps.advance rests millis (.refl _)
  | stop millis =>
      rw [perform]
      split
      · next holds =>
          rw [stop_eq, if_pos holds]
          change (run.begun (.stop millis)).Evolves (TaskSystem.advanceUntil
            (fun run => run.stopping.isNone) (run.begun (.stop millis)))
          exact keeps.advanceUntil rests _ (.refl _)
      · next none =>
          have same : run.begun (.stop millis) = run := by
            rw [begun, askToStop]
            split
            · rfl
            · next holds => simp [holds] at none
          rw [same] at settled ⊢
          exact settled
  | _ => exact settled

/-- Whatever the caller does with generators, it goes where happenings lead. -/
theorem perform_of_happenings (free : run.stopping = none) (call : GeneratorCall ω)
    (rests : (run.begun call).ComesToRest) :
    ∃ happenings, run.afterAll happenings = (run.perform call).1 := by
  obtain ⟨first, begins⟩ := begun_of_happening free call
  obtain ⟨happenings, -, evolved⟩ := run.evolves_perform call rests
  refine ⟨first :: happenings, ?_⟩
  change (run.happen first).afterAll happenings = _
  rw [begins, evolved]

end GeneratorRun
end VirtualRadio
