import VirtualRadio.Generator.Recording
import VirtualRadio.Proofs.Generator.Fates

namespace VirtualRadio

/-!
# Stopping a generator

Whoever stops a generator asks it to stop and waits for its end, but not for
ever.  From the request on the generator begins no send; it ends as soon as it
is not in the middle of one.  So the outcome depends on the output alone: on
whether the send that was in flight returns in time, and returns at all.
Whatever the outcome is, the generator is heard of no more.
-/

/-! ## What is seen of a stop -/

namespace SendDiary

/-- Nothing more is begun than before, and at most the send that was in flight
has returned since. -/
structure WindsUp (before after : SendDiary) : Prop where
  begun : after.begun = before.begun
  returned : ∃ last, after.returned = before.returned ++ last ∧
    last.length ≤ if before.isInFlight then 1 else 0

/-- The send that was in flight, if there was one, has returned before an
instant. -/
def AnsweredBefore (deadline : Nat) (before after : SendDiary) : Prop :=
  before.isInFlight = true →
    ∃ time outcome, after.returned[before.returned.length]? = some (time, outcome) ∧
      Clock.nanos time < deadline

/-- What a diary looks like while one waits for the end of the sender, up to a
deadline: nothing is written but the return of the send that was in flight. -/
structure Ebbs (deadline : Nat) (before after : SendDiary) : Prop where
  begun : after.begun = before.begun
  returned : ∃ last, after.returned = before.returned ++ last ∧
    ∀ entry ∈ last, Clock.nanos entry.1 < deadline
  idle : before.isInFlight = false → after = before

namespace Ebbs

variable {deadline now : Nat} {before diary : SendDiary}

theorem refl (deadline : Nat) (diary : SendDiary) : diary.Ebbs deadline diary :=
  ⟨rfl, ⟨[], (List.append_nil _).symm, nofun⟩, fun _ => rfl⟩

theorem follow {κ : Type} (ebbs : before.Ebbs deadline diary) (early : Clock.nanos now < deadline)
    (inFlight : diary.isInFlight = true) (progress : SendProgress κ) :
    before.Ebbs deadline (diary.follow now progress) := by
  refine ⟨?_, ?_, fun idle => ?_⟩
  · cases progress <;> exact ebbs.begun
  · obtain ⟨last, same, times⟩ := ebbs.returned
    cases progress with
    | finished outcome =>
        refine ⟨last ++ [(now, outcome)], ?_, fun entry among => ?_⟩
        · rw [SendDiary.follow, same, List.append_assoc]
        · rcases List.mem_append.mp among with among | new
          · exact times entry among
          · rw [List.mem_singleton.mp new]
            exact early
    | _ => exact ⟨last, same, times⟩
  · rw [ebbs.idle idle, idle] at inFlight
    contradiction

/-- The diary of one who keeps his books has room for one more return at most. -/
theorem windsUp (ebbs : before.Ebbs deadline diary)
    (answered : diary.returned.length ≤ diary.begun.length)
    (single : before.begun.length ≤ before.returned.length + 1) : before.WindsUp diary := by
  obtain ⟨last, same, -⟩ := ebbs.returned
  refine ⟨ebbs.begun, last, same, ?_⟩
  rw [ebbs.begun, same, List.length_append] at answered
  split
  · omega
  · next idle =>
      rw [ebbs.idle (Bool.eq_false_iff.mpr idle)] at same
      have none : last = [] := List.self_eq_append_right.mp same
      exact Nat.le_of_eq (congrArg List.length none)

/-- If all sends have returned, then so has the one that was in flight. -/
theorem answeredBefore (ebbs : before.Ebbs deadline diary)
    (answered : diary.begun.length = diary.returned.length) :
    before.AnsweredBefore deadline diary := by
  intro inFlight
  obtain ⟨last, same, times⟩ := ebbs.returned
  have unanswered : before.returned.length < before.begun.length := by
    rw [isInFlight, Bool.and_eq_true, decide_eq_true_iff] at inFlight
    exact inFlight.2
  rw [ebbs.begun, same, List.length_append] at answered
  cases last with
  | nil => exact absurd answered (Nat.ne_of_gt unanswered)
  | cons entry last =>
      refine ⟨entry.1, entry.2, ?_, times entry List.mem_cons_self⟩
      rw [same, List.getElem?_append_right (Nat.le_refl _), Nat.sub_self, List.getElem?_cons_zero]

/-- If a send is still in flight, then it is the one that was, and it has not
returned. -/
theorem not_answeredBefore (ebbs : before.Ebbs deadline diary)
    (single : before.begun.length ≤ before.returned.length + 1)
    (whole : diary.crashed = false)
    (inFlight : diary.begun.length = diary.returned.length + 1) :
    ¬ before.AnsweredBefore deadline diary := by
  intro answered
  cases wasInFlight : before.isInFlight with
  | false =>
      have still := isInFlight_eq_true whole inFlight
      rw [ebbs.idle wasInFlight, wasInFlight] at still
      contradiction
  | true =>
      obtain ⟨time, outcome, listed, -⟩ := answered wasInFlight
      have known := (List.getElem?_eq_some_iff.mp listed).1
      rw [ebbs.begun] at inFlight
      omega

end Ebbs
end SendDiary

/-- Whether a generator in this phase was ended from outside. -/
def GeneratorPhase.isAborted {κ : Type} : GeneratorPhase κ → Bool
  | .aborted => true
  | _ => false

theorem GeneratorPhase.isAborted_of_isStopped {κ : Type} {phase : GeneratorPhase κ}
    (unstopped : phase.isStopped = false) : phase.isAborted = false := by
  cases phase <;> first | rfl | contradiction

/-- What is known of a generator while someone waits for its end up to a
deadline.  When the deadline is reached it has ended, or its output keeps it. -/
structure Generator.WindsDown {κ : Type} (deadline now : Nat) (generator : Generator κ) :
    Prop where
  cancelled : generator.cancelled = true
  unaborted : generator.phase.isAborted = false
  stuck : deadline ≤ Clock.nanos now →
    generator.isOver = true ∨ ∃ call, generator.phase = .sending call

namespace Generator

/-- Whoever has waited for the end of a generator finds it ended, or found no
other end of the wait. -/
theorem stopped?_eq_some {κ : Type} {generator : Generator κ} {deadline now : Nat}
    {outcome : StopOutcome} (finding : generator.stopped? deadline now = some outcome) :
    generator.phase = .ended ∧ outcome = .clean generator.sent generator.failed ∨
      outcome = .forced ∧ (generator.phase = .crashed ∨ generator.phase = .aborted ∨
        generator.isOver = false ∧ Clock.isDue deadline now = true) := by
  rw [stopped?] at finding
  rw [isOver]
  cases phase : generator.phase <;> simp_all

theorem Books.returned_le {κ : Type} {profile : Profile} {diary : SendDiary}
    {generator : Generator κ} (books : generator.Books profile diary)
    (unaborted : generator.phase.isAborted = false) :
    diary.returned.length ≤ diary.begun.length ∧
      diary.begun.length ≤ diary.returned.length + 1 := by
  have matching := books.phase
  cases phase : generator.phase with
  | aborted => rw [phase] at unaborted; contradiction
  | _ =>
      rw [phase] at matching
      have := matching.2
      omega

/-- While it winds down, a generator goes on with its send at most. -/
theorem WindsDown.moves {ω κ : Type} {id deadline now : Nat} {bank : RegisterBank}
    {profile : Profile} {generator moved : Generator κ} {observed observedAfter : ObservedOutput ω}
    {before : SendDiary} (early : Clock.nanos now < deadline)
    (winds : generator.WindsDown deadline now) (books : generator.Books profile (observed.seen id))
    (ebbs : before.Ebbs deadline (observed.seen id))
    (moves : Moves id now bank generator observed moved observedAfter) :
    moved.WindsDown deadline now ∧ before.Ebbs deadline (observedAfter.seen id) := by
  have stuck : ∀ reached : Generator κ, deadline ≤ Clock.nanos now →
      reached.isOver = true ∨ ∃ call, reached.phase = .sending call :=
    fun _ late => absurd early (Nat.not_lt_of_le late)
  have cancelled := moves.cancelled.trans winds.cancelled
  cases moves with
  | waits => exact ⟨⟨cancelled, rfl, stuck _⟩, ebbs⟩
  | finishes => exact ⟨⟨cancelled, rfl, stuck _⟩, ebbs⟩
  | begins _ _ uncancelled => exact absurd (winds.cancelled.symm.trans uncancelled) nofun
  | resumes call sending output progress =>
      have matching := books.phase
      rw [sending] at matching
      rw [ObservedOutput.seen_note]
      refine ⟨⟨cancelled, ?_, stuck _⟩, ebbs.follow early ?_ progress⟩
      · rcases progress with _ | (_ | _) | _ <;> rfl
      · exact SendDiary.isInFlight_eq_true matching.1 matching.2

end Generator

namespace GeneratorRun

variable {ω κ : Type} [FrameOutput ω κ]

/-- The run in which the caller waits no longer. -/
def returned? (run : GeneratorRun ω κ) : List (GeneratorHappening ω) → Option (GeneratorRun ω κ)
  | [] => if run.stopping.isNone then some run else none
  | happening :: later =>
    if run.stopping.isNone then some run else (run.happen happening).returned? later

theorem returned?_of_free {run : GeneratorRun ω κ} (free : run.stopping = none)
    (later : List (GeneratorHappening ω)) : run.returned? later = some run := by
  have isNone : run.stopping.isNone = true := Option.isNone_iff_eq_none.mpr free
  cases later with
  | nil => exact if_pos isNone
  | cons happening later => exact if_pos isNone

variable {id deadline : Nat} {before : SendDiary}
variable {run after : GeneratorRun (ObservedOutput ω) κ}

/-- What the caller finds when it has waited for the end of a generator up to a
deadline. -/
structure IsStopped (id deadline : Nat) (before : SendDiary)
    (run : GeneratorRun (ObservedOutput ω) κ) : Prop where
  inTime : run.now ≤ Clock.ceilMillis deadline
  windsUp : before.WindsUp (run.output.seen id)
  /-- The generator ended by itself exactly if no send crashed it and none that
  was in flight took too long. -/
  clean_iff : run.outcome.isForced = false ↔
    (run.output.seen id).crashed = false ∧ before.AnsweredBefore deadline (run.output.seen id)
  /-- It has counted its sends, and would have numbered the next frame with their sum. -/
  counted : ∀ sent failed, run.outcome = .clean sent failed →
    sent = (run.output.seen id).taken ∧ failed = (run.output.seen id).refused ∧
      ∃ generator, run.pool.get? id = some generator ∧
        ∀ inputs, Packet.sequenceOf (generator.cursor.frame inputs) = UInt32.ofNat (sent + failed)
  inactive : run.pool.isActive id = false

/-! ## While the caller waits -/

/-- The caller waits for the end of a generator, and so far nothing has happened
that it need not expect. -/
structure Awaits (id deadline : Nat) (before : SendDiary)
    (run : GeneratorRun (ObservedOutput ω) κ) : Prop where
  stopping : run.stopping = some (id, deadline)
  inTime : run.now ≤ Clock.ceilMillis deadline
  ebbs : before.Ebbs deadline (run.output.seen id)
  member : ∃ generator, run.pool.get? id = some generator ∧ generator.WindsDown deadline run.now

/-- While the caller waits, only its own step ends its wait. -/
theorem stopping_happen {waited : Nat × Nat} (waits : run.stopping = some waited)
    (happening : GeneratorHappening ω) :
    step? .caller run = some (run.happen happening.observed) ∨
      (run.happen happening.observed).stopping = some waited := by
  have busy : run.stopping.isNone = false := by rw [waits]; rfl
  rw [happen]
  split
  · next permitted =>
      cases happening with
      | step task =>
          change step? .caller run = some ((step? task run).getD run) ∨
            ((step? task run).getD run).stopping = some waited
          cases stepped : step? task run with
          | none => exact .inr waits
          | some after =>
              cases task with
              | caller => exact .inl stepped
              | generator mover =>
                  obtain ⟨_, _, _, -, -, rfl⟩ := step?_generator stepped
                  exact .inr waits
      | pass millis => exact .inr waits
      | tune radio => exact .inr waits
      | change change => exact .inr waits
      | start => exact absurd (busy.symm.trans permitted) Bool.false_ne_true
      | stop millis => exact absurd (busy.symm.trans permitted) Bool.false_ne_true
      | drop => exact absurd (busy.symm.trans permitted) Bool.false_ne_true
  · exact .inr waits

/-- A generator makes steps before the deadline only: then the caller comes
first. -/
theorem nanos_lt_of_callerWaits (waits : run.stopping = some (id, deadline))
    (callerWaits : step? .caller run = none) : Clock.nanos run.now < deadline := by
  obtain ⟨_, -, -, early⟩ := step?_caller_eq_none_iff.mp callerWaits id deadline waits
  exact Nat.lt_of_not_le (of_decide_eq_false early)

/-- At rest a generator that was asked to stop has ended or is kept by its output. -/
theorem stuck_of_rest {generator : Generator κ} (finds : run.pool.get? id = some generator)
    (cancelled : generator.cancelled = true) (rests : TaskSystem.isAtRest run = true) :
    generator.isOver = true ∨ ∃ call, generator.phase = .sending call := by
  have stuck := step?_of_rest finds rests
  cases phase : generator.phase with
  | fresh => simp [Generator.step?, phase] at stuck
  | turning => simp [Generator.step?, phase] at stuck
  | pacing inputs => simp [Generator.step?, phase, cancelled] at stuck
  | sending call => exact .inr ⟨call, rfl⟩
  | _ => exact .inl (by rw [Generator.isOver, phase])

namespace Awaits

theorem now_le_of_pass {millis : Nat} (awaits : run.Awaits id deadline before)
    (may : TaskSystem.mayPass millis run = true) :
    run.now + millis ≤ Clock.ceilMillis deadline := by
  refine TaskSystem.le_ceilMillis_of_mayPass may (caller_mem_tasks run) ?_
  change run.stopping.map Prod.snd = some deadline
  rw [awaits.stopping, Option.map_some]

theorem keep (sound : run.IsSound) (awaits : run.Awaits id deadline before)
    (waits : after.stopping = some (id, deadline)) (befalls : Befalls id run after) :
    after.Awaits id deadline before := by
  obtain ⟨generator, finds, winds⟩ := awaits.member
  have ebbs := awaits.ebbs
  cases befalls with
  | apart member seen now =>
      rw [← seen] at ebbs
      exact ⟨waits, now ▸ awaits.inTime, ebbs, generator, member.trans finds,
        now ▸ winds⟩
  | born new => exact absurd (sound.numbered.lt_nextId finds) (Nat.not_lt_of_le (Nat.le_of_eq new))
  | moves _ moved found callerWaits moves member now =>
      cases finds.symm.trans found
      have early := nanos_lt_of_callerWaits awaits.stopping callerWaits
      have ⟨windsNext, ebbsNext⟩ := winds.moves early (sound.books id generator finds) ebbs moves
      rw [← now] at windsNext
      exact ⟨waits, now ▸ awaits.inTime, ebbsNext, moved, member, windsNext⟩
  | passes millis may same =>
      subst same
      refine ⟨waits, awaits.now_le_of_pass may, ebbs, generator, finds,
        winds.cancelled, winds.unaborted, fun _ => ?_⟩
      exact stuck_of_rest finds winds.cancelled (TaskSystem.isAtRest_of_mayPass may)
  | cancels holds =>
      have free := sound.alone (by rw [holds]; rfl)
      exact absurd (awaits.stopping.symm.trans free) nofun
  | aborts returns =>
      have free : after.stopping = none := by
        obtain ⟨_, _, -, ⟨-, rfl⟩ | ⟨_, _, _, -, -, -, rfl⟩⟩ := step?_caller returns <;> rfl
      exact absurd (waits.symm.trans free) nofun
  | forgets free => exact absurd (awaits.stopping.symm.trans free) nofun

/-- What the caller finds when its wait is over. -/
theorem isStopped (sound : run.IsSound) (awaits : run.Awaits id deadline before)
    (single : before.begun.length ≤ before.returned.length + 1)
    (returns : step? .caller run = some after) : after.IsStopped id deadline before := by
  obtain ⟨generator, finds, winds⟩ := awaits.member
  obtain ⟨awaited, deadline, waited, result⟩ := step?_caller returns
  rcases result with ⟨missing, -⟩ | ⟨found, outcome, output, there, finding, same, rfl⟩
  · cases awaits.stopping.symm.trans waited
    exact absurd (missing.symm.trans finds) nofun
  cases awaits.stopping.symm.trans waited
  cases finds.symm.trans there
  have books := sound.books id generator finds
  have matching := books.phase
  have seen : output.seen id = run.output.seen id := congrFun same id
  have member := run.pool.get?_update id id Generator.abort
  rw [if_pos rfl, finds, Option.map_some] at member
  refine ⟨awaits.inTime, ?_, ?_, fun sent failed clean => ?_, ?_⟩
  · change before.WindsUp (output.seen id)
    rw [seen]
    exact awaits.ebbs.windsUp (books.returned_le winds.unaborted).1 single
  · change outcome.isForced = false ↔
      (output.seen id).crashed = false ∧ before.AnsweredBefore deadline (output.seen id)
    rw [seen]
    rcases Generator.stopped?_eq_some finding with ⟨ended, rfl⟩ | ⟨rfl, phase⟩
    · rw [ended] at matching
      exact iff_of_true rfl ⟨matching.1, awaits.ebbs.answeredBefore matching.2⟩
    · refine iff_of_false nofun fun ⟨whole, answered⟩ => ?_
      rcases phase with crashed | aborted | ⟨alive, due⟩
      · rw [crashed] at matching
        exact absurd (whole.symm.trans matching.1) nofun
      · have unaborted := winds.unaborted
        rw [aborted] at unaborted
        contradiction
      · rcases winds.stuck (of_decide_eq_true due) with gone | ⟨call, sending⟩
        · exact absurd (alive.symm.trans gone) nofun
        · rw [sending] at matching
          exact awaits.ebbs.not_answeredBefore single whole matching.2 answered
  · change outcome = .clean sent failed at clean
    change sent = (output.seen id).taken ∧ failed = (output.seen id).refused ∧ _
    rw [seen]
    rcases Generator.stopped?_eq_some finding with ⟨ended, rfl⟩ | ⟨rfl, -⟩
    · cases clean
      rw [ended] at matching
      rw [books.abort_of_ended ended] at member
      refine ⟨books.sent, books.failed, generator, member, fun inputs => ?_⟩
      rw [StatusCursor.sequenceOf_frame, books.sent, books.failed, SendDiary.taken_add_refused,
        ← matching.2, ← StatusCursor.reached_sequence run.profile, ← books.cursor]
    · contradiction
  · change ((run.pool.update id Generator.abort).get? id).any Generator.active = false
    rw [member]
    rfl

end Awaits

/-! ## After the stop -/

/-- Nothing is heard of a generator any more, of which this was seen. -/
structure IsSilent (id : Nat) (diary : SendDiary) (run : GeneratorRun (ObservedOutput ω) κ) :
    Prop where
  known : id < run.pool.nextId
  seen : run.output.seen id = diary
  gone : ∀ generator, run.pool.get? id = some generator →
    generator.isOver = true ∧ generator.active = false

namespace IsSilent

variable {diary : SendDiary}

omit [FrameOutput ω κ] in
theorem inactive (silent : run.IsSilent id diary) : run.pool.isActive id = false := by
  rw [GeneratorPool.isActive]
  cases finds : run.pool.get? id with
  | none => rfl
  | some generator => exact (silent.gone generator finds).2

theorem keep (silent : run.IsSilent id diary) (continues : Continues run after)
    (befalls : Befalls id run after) : after.IsSilent id diary := by
  have known := Nat.lt_of_lt_of_le silent.known continues.nextId
  have gone := silent.gone
  cases befalls with
  | apart member seen => exact ⟨known, seen.trans silent.seen, member ▸ gone⟩
  | born new => exact absurd silent.known (Nat.not_lt_of_le (Nat.le_of_eq new))
  | moves generator _ finds _ moves =>
      exact absurd (moves.not_isOver.symm.trans (gone generator finds).1) nofun
  | passes _ _ same =>
      subst same
      exact ⟨known, silent.seen, gone⟩
  | cancels _ member seen =>
      refine ⟨known, seen.trans silent.seen, fun generator finds => ?_⟩
      rw [member, Option.map_eq_some_iff] at finds
      obtain ⟨found, there, rfl⟩ := finds
      exact gone found there
  | aborts _ member seen =>
      refine ⟨known, seen.trans silent.seen, fun generator finds => ?_⟩
      rw [member, Option.map_eq_some_iff] at finds
      obtain ⟨found, -, rfl⟩ := finds
      exact ⟨found.abort_isOver, rfl⟩
  | forgets _ _ _ _ member seen =>
      exact ⟨known, seen.trans silent.seen, fun _ finds =>
        absurd (finds.symm.trans member) (Option.some_ne_none _)⟩

theorem happen (sound : run.IsSound) (silent : run.IsSilent id diary)
    (happening : GeneratorHappening ω) : (run.happen happening.observed).IsSilent id diary :=
  silent.keep (happen_continues run happening) (happen_befalls sound.numbered id happening)

theorem afterAll (sound : run.IsSound) (silent : run.IsSilent id diary)
    (later : List (GeneratorHappening ω)) :
    (run.afterAll (later.map .observed)).IsSilent id diary := by
  induction later generalizing run with
  | nil => exact silent
  | cons happening later ih => exact ih (sound.happen happening) (silent.happen sound happening)

end IsSilent

namespace Awaits

/-- The end of the wait leaves the generator silent. -/
theorem isSilent (sound : run.IsSound) (awaits : run.Awaits id deadline before)
    (returns : step? .caller run = some after) : after.IsSilent id (after.output.seen id) := by
  obtain ⟨generator, finds, -⟩ := awaits.member
  have known := sound.numbered.lt_nextId finds
  obtain ⟨awaited, deadline, waited, ⟨missing, -⟩ | ⟨_, _, _, -, -, -, rfl⟩⟩ := step?_caller returns
  · cases awaits.stopping.symm.trans waited
    exact absurd (missing.symm.trans finds) nofun
  cases awaits.stopping.symm.trans waited
  have member := run.pool.get?_update id id Generator.abort
  rw [if_pos rfl, finds, Option.map_some] at member
  refine ⟨known, rfl, fun found there => ?_⟩
  cases member.symm.trans there
  exact ⟨generator.abort_isOver, rfl⟩

/-- The caller still waits, or its wait was over at some time and the generator
has been silent since. -/
theorem afterAll (sound : run.IsSound) (awaits : run.Awaits id deadline before)
    (single : before.begun.length ≤ before.returned.length + 1)
    (later : List (GeneratorHappening ω)) :
    let final := run.afterAll (later.map .observed)
    run.returned? (later.map .observed) = none ∧ final.Awaits id deadline before ∨
      ∃ back, run.returned? (later.map .observed) = some back ∧ back.IsStopped id deadline before ∧
        final.IsSilent id (back.output.seen id) := by
  have busy : run.stopping.isNone = false := by rw [awaits.stopping]; rfl
  induction later generalizing run with
  | nil => exact .inl ⟨by rw [List.map_nil, returned?, busy, if_neg Bool.false_ne_true], awaits⟩
  | cons happening later ih =>
      have next : run.returned? ((happening :: later).map .observed) =
          (run.happen happening.observed).returned? (later.map .observed) := by
        rw [List.map_cons, returned?, busy, if_neg Bool.false_ne_true]
      rw [next]
      have soundNext := sound.happen happening
      rcases stopping_happen awaits.stopping happening with returns | waits
      · have free : (run.happen happening.observed).stopping = none := by
          obtain ⟨_, _, -, ⟨-, same⟩ | ⟨_, _, _, -, -, -, same⟩⟩ := step?_caller returns <;>
            rw [same]
        exact .inr ⟨_, returned?_of_free free _, awaits.isStopped sound single returns,
          (awaits.isSilent sound returns).afterAll soundNext later⟩
      · have still := awaits.keep sound waits (happen_befalls sound.numbered id happening)
        exact ih soundNext still (by rw [waits]; rfl)

/-- The wait for a generator that is held, from the request on. -/
theorem begin {patience : Nat} (sound : run.IsSound) (holds : run.held = some id)
    (patient : 0 < patience) :
    (run.happen (.stop patience)).Awaits id (Clock.nanos run.now + patience)
      (run.output.seen id) := by
  obtain ⟨generator, finds, wanted⟩ := sound.held id holds
  have free : run.stopping = none := sound.alone (by rw [holds]; rfl)
  have permitted : run.permits (.stop patience) = true := Option.isNone_iff_eq_none.mpr free
  have asked : run.happen (.stop patience) = { run with
      pool := run.pool.cancel id
      held := none
      stopping := some (id, Clock.nanos run.now + patience) } := by
    rw [GeneratorRun.happen, if_pos permitted]
    change run.askToStop patience = _
    rw [askToStop, holds]
  have member := run.pool.get?_update id id Generator.cancel
  rw [if_pos rfl, finds, Option.map_some] at member
  rw [asked]
  have ahead : Clock.nanos run.now < Clock.nanos run.now + patience :=
    Nat.lt_add_of_pos_right patient
  have inTime : run.now ≤ Clock.ceilMillis (Clock.nanos run.now + patience) :=
    Nat.le_of_lt ((Clock.lt_ceilMillis_iff _ _).mpr ahead)
  refine ⟨rfl, inTime, .refl _ _, generator.cancel, member, rfl, ?_, fun late => ?_⟩
  · exact GeneratorPhase.isAborted_of_isStopped wanted.unstopped
  · exact absurd ahead (Nat.not_lt_of_le late)

/-- At rest the deadline lies ahead, so the wait does not outlast it. -/
theorem nanos_lt_of_rest (awaits : run.Awaits id deadline before)
    (rests : TaskSystem.isAtRest run = true) : Clock.nanos run.now < deadline :=
  nanos_lt_of_callerWaits awaits.stopping
    (TaskSystem.step?_of_isAtRest rests (caller_mem_tasks run))

omit [FrameOutput ω κ] in
theorem windsUp (sound : run.IsSound) (awaits : run.Awaits id deadline before)
    (single : before.begun.length ≤ before.returned.length + 1) :
    before.WindsUp (run.output.seen id) := by
  obtain ⟨generator, finds, winds⟩ := awaits.member
  exact awaits.ebbs.windsUp ((sound.books id generator finds).returned_le winds.unaborted).1 single

end Awaits

/-- A stop of a generator at any time, whatever the output does.  No send is
begun after the request, and at most the one in flight returns.  The caller
waits up to its deadline and no longer; what it finds is told by the sends that
were seen, and nothing is heard of the generator after that. -/
theorem stop_ends_generator (profile : Profile) (output : ω)
    (earlier later : List (GeneratorHappening ω)) (id patience : Nat) (patient : 0 < patience)
    (holds : (watched profile output earlier : GeneratorRun (ObservedOutput ω) κ).held = some id) :
    let run : GeneratorRun (ObservedOutput ω) κ := watched profile output earlier
    let deadline := Clock.nanos run.now + patience
    let asked := run.happen (.stop patience)
    let final := asked.afterAll (later.map .observed)
    (run.output.seen id).WindsUp (final.output.seen id) ∧
      (asked.returned? (later.map .observed) = none →
        final.now ≤ Clock.ceilMillis deadline ∧
          (TaskSystem.isAtRest final = true → Clock.nanos final.now < deadline)) ∧
      ∀ back, asked.returned? (later.map .observed) = some back →
        back.IsStopped id deadline (run.output.seen id) ∧
          final.pool.isActive id = false ∧ final.output.seen id = back.output.seen id := by
  intro run deadline asked final
  have sound : run.IsSound := watched_isSound profile output earlier
  have soundAsked : asked.IsSound := sound.happen (.stop patience)
  have awaits : asked.Awaits id deadline (run.output.seen id) :=
    .begin sound holds patient
  obtain ⟨generator, finds, wanted⟩ := sound.held id holds
  have single : (run.output.seen id).begun.length ≤ (run.output.seen id).returned.length + 1 :=
    ((sound.books id generator finds).returned_le
      (GeneratorPhase.isAborted_of_isStopped wanted.unstopped)).2
  rcases awaits.afterAll soundAsked single later with
    ⟨waiting, still⟩ | ⟨back, found, stopped, silent⟩
  · have soundFinal : final.IsSound := soundAsked.afterAll later
    refine ⟨still.windsUp soundFinal single, fun _ => ⟨still.inTime, still.nanos_lt_of_rest⟩, ?_⟩
    intro back found
    exact absurd (waiting.symm.trans found) nofun
  · refine ⟨?_, fun waiting => absurd (waiting.symm.trans found) nofun, fun other same => ?_⟩
    · rw [silent.seen]
      exact stopped.windsUp
    · cases found.symm.trans same
      exact ⟨stopped, silent.inactive, silent.seen⟩

/-- What happens up to a stop while a send is in flight. -/
def untilStop : List (GeneratorHappening ScriptedOutput) :=
  [.start, .step (.generator 0), .pass 3, .change (fun output => { output with mode := .hold }),
    .step (.generator 0)]

/-- What happens after it: the send returns five milliseconds later. -/
def afterStop : List (GeneratorHappening ScriptedOutput) :=
  [.pass 5, .change (fun output => { output with mode := .take }), .step (.generator 0),
    .step (.generator 0), .step (.generator 0), .step .caller, .pass 1, .start]

theorem stop_ends_generator_inTime :
    let run : GeneratorRun (ObservedOutput ScriptedOutput) (List UInt8) :=
      watched .hermes ⟨.take, #[]⟩ untilStop
    let asked := run.happen (.stop (Clock.nanos 10))
    let final := asked.afterAll (afterStop.map .observed)
    run.held = some 0 ∧ (run.output.seen 0).isInFlight = true ∧
      (run.output.seen 0).WindsUp (final.output.seen 0) ∧ final.now = 9 ∧
      final.outcome = .clean 1 0 := by
  have stopped := stop_ends_generator .hermes (⟨.take, #[]⟩ : ScriptedOutput) untilStop afterStop
    0 (Clock.nanos 10) (by decide) (by decide +kernel)
  exact ⟨by decide +kernel, by decide +kernel, stopped.1, by decide +kernel, by decide +kernel⟩

end GeneratorRun
end VirtualRadio
