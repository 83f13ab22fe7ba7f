import VirtualRadio.Proofs.Transmit.Operations
import VirtualRadio.Proofs.Transmit.Turns
import VirtualRadio.Sink.Scripted

namespace VirtualRadio

/-!
# What a tuner knows of its sink

A tuner only remembers a frequency.  Whether the sink is ready is the sink's
own affair: it may fail in each call, and it may stop being ready at any time.
But if it is *honest*, that is, if it becomes ready for no other reason than
that an initialization succeeds, then between two operations the tuner still
knows all there is to know.  A sink that is ready then runs on the frequency
that the tuner remembers.
-/

namespace SinkMoment

def wasReady : SinkMoment → Bool
  | began _ _ wasReady _ => wasReady
  | ended _ _ wasReady _ => wasReady
  | changed _ wasReady _ => wasReady

def isReady : SinkMoment → Bool
  | began _ _ _ isReady => isReady
  | ended _ _ _ isReady => isReady
  | changed _ _ isReady => isReady

/-- Whether this belongs to an initialization that succeeds. -/
def initializes : SinkMoment → Bool
  | began (.init _) (.ok ()) _ _ => true
  | ended (.init _) (.ok ()) _ _ => true
  | changed (some (.init _, .ok ())) _ _ => true
  | _ => false

/-- Whether the end of a call leaves an honest sink ready, if that is fixed. -/
def leaves? : SinkMoment → Option Bool
  | ended (.init _) (.ok ()) _ _ => some true
  | ended (.init _) (.error _) _ _ => some false
  | ended .deinit (.ok ()) _ _ => some false
  | _ => none

/-- Whether a sink is honest at a moment.  It becomes ready only through an
initialization that succeeds; one that succeeds leaves it ready and one that
fails does not; a release that succeeds leaves it not ready. -/
def isHonest (moment : SinkMoment) : Bool :=
  (!moment.isReady || moment.wasReady || moment.initializes) &&
    moment.leaves?.all (fun ready => moment.isReady == ready)

/-- Whether this is not the beginning of an initialization of a ready sink. -/
def isCareful : SinkMoment → Bool
  | began (.init _) _ wasReady _ => !wasReady
  | _ => true

/-- The frequency of an initialization that succeeds, at its end. -/
def initialized? : SinkMoment → Option UInt32
  | ended (.init hertz) (.ok ()) _ _ => some hertz
  | _ => none

/-- The frequency of the last initialization that succeeded. -/
def lastInitialized? (moments : List SinkMoment) : Option UInt32 :=
  (moments.filterMap initialized?).getLast?

variable {moment : SinkMoment}

theorem wasReady_of_isHonest (honest : moment.isHonest = true)
    (other : moment.initializes = false) (ready : moment.isReady = true) :
    moment.wasReady = true := by
  have becomes := (Bool.and_eq_true_iff.mp honest).1
  rwa [ready, other, Bool.not_true, Bool.false_or, Bool.or_false] at becomes

theorem isReady_of_isHonest (honest : moment.isHonest = true) {ready : Bool}
    (leaves : moment.leaves? = some ready) : moment.isReady = ready := by
  have left := (Bool.and_eq_true_iff.mp honest).2
  rw [leaves] at left
  exact eq_of_beq left

theorem changed_initializes {atWork : Option (SinkCall × Except Fault Unit)}
    (other : ∀ hertz outcome, atWork ≠ some (.init hertz, outcome)) {wasReady isReady : Bool} :
    (changed atWork wasReady isReady).initializes = false := by
  rcases atWork with _ | ⟨hertz | _ | burst, outcome⟩
  · rfl
  · exact absurd rfl (other hertz outcome)
  · rfl
  · rfl

theorem initialized?_eq_none (other : moment.initializes = false) :
    moment.initialized? = none := by
  unfold initialized?
  split
  · exact absurd other.symm Bool.false_ne_true
  · rfl

theorem lastInitialized?_concat (moments : List SinkMoment)
    (other : moment.initializes = false) :
    lastInitialized? (moments ++ [moment]) = lastInitialized? moments := by
  rw [lastInitialized?, List.filterMap_append,
    List.filterMap_cons_none (initialized?_eq_none other), List.filterMap_nil, List.append_nil]
  rfl

theorem lastInitialized?_concat_ended (moments : List SinkMoment) (hertz : UInt32)
    (wasReady isReady : Bool) :
    lastInitialized? (moments ++ [.ended (.init hertz) (.ok ()) wasReady isReady]) =
      some hertz := by
  rw [lastInitialized?, List.filterMap_append]
  exact List.getLast?_concat

end SinkMoment

/-! ## What the tuner knows -/

namespace Tuner

variable {σ : Type} [SinkDevice σ] {tuner after : Tuner (ObservedSink σ)}

/-- A ready sink runs on the frequency that the tuner remembers. -/
def IsTuned (tuner : Tuner (ObservedSink σ)) : Prop :=
  tuner.isReady = true → ∃ hertz, tuner.tuned = some hertz ∧
    SinkMoment.lastInitialized? tuner.sink.moments = some hertz ∧
      isTransmitFrequency hertz = true

theorem IsTuned.of_unready (unready : tuner.isReady = false) : tuner.IsTuned :=
  fun ready => absurd (unready.symm.trans ready) Bool.false_ne_true

/-- Nothing is lost by a moment that does not belong to an initialization. -/
theorem IsTuned.note {moment : SinkMoment} (tuned : tuner.IsTuned)
    (remembered : after.tuned = tuner.tuned)
    (noted : after.sink.moments = tuner.sink.moments ++ [moment])
    (wasReady : moment.wasReady = tuner.isReady) (isReady : moment.isReady = after.isReady)
    (honest : moment.isHonest = true) (other : moment.initializes = false) : after.IsTuned := by
  intro ready
  have before := SinkMoment.wasReady_of_isHonest honest other (isReady.trans ready)
  rcases tuned (wasReady.symm.trans before) with ⟨hertz, remembers, last, within⟩
  refine ⟨hertz, remembered.trans remembers, ?_, within⟩
  rw [noted, SinkMoment.lastInitialized?_concat _ other, last]

/-- Nor is anything lost when a call ends that is not an initialization, or one
that failed. -/
theorem IsTuned.ended {request : SinkCall} {work : SinkWork} (tuned : tuner.IsTuned)
    (begun : tuner.sink.atWork = some (request, work.outcome))
    (other : ∀ wasReady isReady,
      (SinkMoment.ended request work.outcome wasReady isReady).initializes = false)
    (honest : ∀ moment ∈ (tuner.ended work).sink.moments, moment.isHonest = true) :
    (tuner.ended work).IsTuned := by
  have noted := ObservedSink.moments_finish begun work
  exact tuned.note rfl noted rfl rfl (honest _ (noted ▸ List.mem_concat_self)) (other _ _)

/-- What holds while a tuner waits for a call on its sink, and while it does
not.  Only during an initialization nothing is known of a ready sink. -/
def Stands (tuner : Tuner (ObservedSink σ)) :
    Option (TunerCall × TunerTask × SinkWork) → Prop
  | none => tuner.IsTuned ∧ ∀ hertz outcome, tuner.sink.atWork ≠ some (.init hertz, outcome)
  | some (call, .leaveFor hertz, work) =>
    tuner.IsTuned ∧ tuner.sink.atWork = some (.deinit, work.outcome) ∧
      call = .retune (some hertz) ∧ isTransmitFrequency hertz = true
  | some (call, .tuneTo hertz, work) =>
    tuner.sink.atWork = some (.init hertz, work.outcome) ∧
      call = .retune (some hertz) ∧ isTransmitFrequency hertz = true
  | some (call, .release, work) =>
    tuner.IsTuned ∧ tuner.sink.atWork = some (.deinit, work.outcome) ∧ call = .release
  | some (call, .push, work) =>
    tuner.IsTuned ∧ ∃ burst, tuner.sink.atWork = some (.push burst, work.outcome) ∧
      call = .push burst

end Tuner

namespace TunerRun

variable {σ : Type}

/-- Whether all that was seen of the sink is honest. -/
def IsHonest (run : TunerRun (ObservedSink σ)) : Prop :=
  ∀ moment ∈ run.tuner.sink.moments, moment.isHonest = true

/-- Whether the sink was never ready when an initialization began. -/
def IsCareful (run : TunerRun (ObservedSink σ)) : Prop :=
  ∀ moment ∈ run.tuner.sink.moments, moment.isCareful = true

section Notes

variable {run : TunerRun (ObservedSink σ)} {moments : List SinkMoment} {moment : SinkMoment}

theorem IsHonest.last (honest : run.IsHonest)
    (noted : run.tuner.sink.moments = moments ++ [moment]) : moment.isHonest = true :=
  honest moment (noted ▸ List.mem_concat_self)

theorem IsCareful.note (noted : run.tuner.sink.moments = moments ++ [moment])
    (careful : ∀ before ∈ moments, before.isCareful = true) (calm : moment.isCareful = true) :
    run.IsCareful := by
  intro seen member
  rw [noted] at member
  rcases List.mem_append.mp member with before | last
  · exact careful seen before
  · rwa [List.mem_singleton.mp last]

end Notes

variable [SinkDevice σ]

/-- What holds of a tuner whose sink was honest so far. -/
structure IsSound (run : TunerRun (ObservedSink σ)) : Prop where
  careful : run.IsCareful
  stands : run.tuner.Stands run.atWork
  answered : ∀ hertz result, run.answer = some (.retune (some hertz), .ok result) →
    isTransmitFrequency hertz = true →
      run.tuner.isReady = true ∧ run.tuner.tuned = some hertz

variable {tuner : Tuner (ObservedSink σ)}

/-- A call on the sink that is not an initialization begins. -/
theorem isSound_call (careful : ∀ moment ∈ tuner.sink.moments, moment.isCareful = true)
    (tuned : tuner.IsTuned) (call : TunerCall) (task : TunerTask) (request : SinkCall) (now : Nat)
    (other : ∀ outcome wasReady isReady,
      (SinkMoment.began request outcome wasReady isReady).initializes = false ∧
        (SinkMoment.began request outcome wasReady isReady).isCareful = true)
    (honest : (follow call (tuner.call task request now)).IsHonest)
    (stands : ∀ (after : Tuner (ObservedSink σ)) (work : SinkWork), after.IsTuned →
      after.sink.atWork = some (request, work.outcome) → after.Stands (some (call, task, work))) :
    (follow call (tuner.call task request now)).IsSound where
  careful := IsCareful.note rfl careful (other _ _ _).2
  stands := stands _ _ (tuned.note rfl rfl rfl rfl (honest.last rfl) (other _ _ _).1) rfl
  answered := fun _ _ answered => by cases answered

/-- An initialization of a sink that is not ready begins. -/
theorem isSound_init (careful : ∀ moment ∈ tuner.sink.moments, moment.isCareful = true)
    (unready : tuner.isReady = false) {hertz : UInt32} (within : isTransmitFrequency hertz = true)
    (now : Nat) :
    (follow (.retune (some hertz)) (tuner.call (.tuneTo hertz) (.init hertz) now)).IsSound where
  careful := IsCareful.note rfl careful (by
    rw [SinkMoment.isCareful]
    exact (Bool.not_eq_true' _).mpr unready)
  stands := ⟨rfl, rfl, within⟩
  answered := fun _ _ answered => by cases answered

/-- Nothing is asked of the sink, and the tuner forgets or keeps its frequency. -/
theorem isSound_answer {run : TunerRun (ObservedSink σ)} (sound : run.IsSound)
    (idle : run.atWork = none) (after : Tuner (ObservedSink σ)) (sink : after.sink = run.tuner.sink)
    (tuned : after.IsTuned) (call : TunerCall) (result : Except Fault (Option UInt32))
    (answered : ∀ hertz, call = .retune (some hertz) → isTransmitFrequency hertz = true →
      after.isReady = true ∧ after.tuned = some hertz) :
    (follow call (after, .finished result)).IsSound where
  careful := by
    intro moment seen
    exact sound.careful moment (sink ▸ seen)
  stands := by
    have stands := sound.stands
    rw [idle] at stands
    exact ⟨tuned, fun hertz outcome => sink ▸ stands.2 hertz outcome⟩
  answered := by
    intro hertz _ returned within
    exact answered hertz (congrArg Prod.fst (Option.some.inj returned)) within

/-- Something is asked of the tuner. -/
theorem begin_isSound {run : TunerRun (ObservedSink σ)} (sound : run.IsSound)
    (idle : run.atWork = none) (call : TunerCall) (now : Nat)
    (honest : (follow call (run.tuner.begin call now)).IsHonest) :
    (follow call (run.tuner.begin call now)).IsSound := by
  have stands := sound.stands
  rw [idle] at stands
  have tuned := stands.1
  cases call with
  | push burst =>
      exact isSound_call sound.careful tuned (.push burst) .push (.push burst) now
        (fun _ _ _ => ⟨rfl, rfl⟩) honest (fun _ _ tuned begun => ⟨tuned, burst, begun, rfl⟩)
  | release =>
      change (follow .release (run.tuner.release now)).IsSound
      change (follow .release (run.tuner.release now)).IsHonest at honest
      rw [Tuner.release] at honest ⊢
      by_cases ready : run.tuner.isReady = true
      · rw [if_pos ready] at honest ⊢
        exact isSound_call sound.careful tuned .release .release .deinit now
          (fun _ _ _ => ⟨rfl, rfl⟩) honest (fun _ _ tuned begun => ⟨tuned, begun, rfl⟩)
      · rw [if_neg ready]
        have untuned : Tuner.IsTuned ⟨run.tuner.sink, none⟩ :=
          .of_unready (Bool.eq_false_iff.mpr ready)
        exact isSound_answer sound idle ⟨run.tuner.sink, none⟩ rfl untuned .release (.ok none)
          (fun _ other _ => by cases other)
  | retune frequency =>
      change (follow (.retune frequency) (run.tuner.retune frequency now)).IsSound
      change (follow (.retune frequency) (run.tuner.retune frequency now)).IsHonest at honest
      have turn := run.tuner.retune_turn frequency now
      generalize run.tuner.retune frequency now = state at turn honest ⊢
      cases turn with
      | ignores _ unfit =>
          refine isSound_answer sound idle run.tuner rfl tuned (.retune frequency) (.ok none) ?_
          rintro hertz ⟨⟩ within
          exact absurd (within.symm.trans (unfit hertz rfl)) Bool.true_eq_false.mp
      | stays hertz _ ready same =>
          refine isSound_answer sound idle run.tuner rfl tuned (.retune (some hertz)) (.ok none) ?_
          rintro _ ⟨⟩ _
          exact ⟨ready, same⟩
      | leaves hertz within _ _ =>
          exact isSound_call sound.careful tuned (.retune (some hertz)) (.leaveFor hertz) .deinit
            now (fun _ _ _ => ⟨rfl, rfl⟩) honest
            (fun _ _ tuned begun => ⟨tuned, begun, rfl, within⟩)
      | tunes hertz within unready => exact isSound_init sound.careful unready within now

/-- A call on the sink ends, and the operation with it. -/
theorem isSound_ended (careful : ∀ moment ∈ tuner.sink.moments, moment.isCareful = true)
    {request : SinkCall} {work : SinkWork}
    (begun : tuner.sink.atWork = some (request, work.outcome)) (after : Tuner (ObservedSink σ))
    (sink : after.sink = SinkDevice.finish work tuner.sink) (tuned : after.IsTuned)
    (call : TunerCall) (result : Except Fault (Option UInt32))
    (answered : ∀ hertz changed, call = .retune (some hertz) → result = .ok changed →
      after.isReady = true ∧ after.tuned = some hertz) :
    (follow call (after, .finished result)).IsSound where
  careful := by
    have noted := ObservedSink.moments_finish begun work
    rw [← sink] at noted
    exact IsCareful.note noted careful rfl
  stands := ⟨tuned, fun _ _ => by
    rw [follow, sink]
    exact Option.some_ne_none _ ∘ Eq.symm⟩
  answered := by
    intro hertz changed returned _
    have same := Option.some.inj returned
    exact answered hertz changed (congrArg Prod.fst same) (congrArg Prod.snd same)

/-- The call on the sink that a tuner waits for fails. -/
theorem resume_isSound_of_error {run : TunerRun (ObservedSink σ)} (sound : run.IsSound)
    {call : TunerCall} {task : TunerTask} {work : SinkWork}
    (waits : run.atWork = some (call, task, work)) {fault : Fault}
    (failed : work.outcome = .error fault) (now : Nat)
    (honest : (follow call (run.tuner.resume task work now)).IsHonest) :
    (follow call (run.tuner.resume task work now)).IsSound := by
  let ended := run.tuner.ended work
  rw [Tuner.resume_of_error failed] at honest ⊢
  have silent : ∀ (hertz : UInt32) (changed : Option UInt32), call = .retune (some hertz) →
      (.error fault : Except Fault (Option UInt32)) = .ok changed →
        ended.isReady = true ∧ ended.tuned = some hertz :=
    fun _ _ _ other => by cases other
  have stands := sound.stands
  rw [waits] at stands
  cases task with
  | leaveFor hertz =>
      rcases stands with ⟨tuned, begun, -, -⟩
      have kept : ended.IsTuned := tuned.ended begun (fun _ _ => rfl) honest
      exact isSound_ended sound.careful begun ended rfl kept call _ silent
  | tuneTo hertz =>
      rcases stands with ⟨begun, -, -⟩
      have noted := ObservedSink.moments_finish begun work
      rw [failed] at noted
      have unready : ended.isReady = false :=
        SinkMoment.isReady_of_isHonest (honest.last noted) rfl
      exact isSound_ended sound.careful begun ended rfl (.of_unready unready) call _ silent
  | release =>
      rcases stands with ⟨tuned, begun, -⟩
      have kept : ended.IsTuned := tuned.ended begun (fun _ _ => rfl) honest
      exact isSound_ended sound.careful begun ended rfl kept call _ silent
  | push =>
      rcases stands with ⟨tuned, burst, begun, -⟩
      have kept : ended.IsTuned := tuned.ended begun (fun _ _ => rfl) honest
      exact isSound_ended sound.careful begun ended rfl kept call _ silent

/-- The call on the sink that a tuner waits for succeeds. -/
theorem resume_isSound_of_ok {run : TunerRun (ObservedSink σ)} (sound : run.IsSound)
    {call : TunerCall} {task : TunerTask} {work : SinkWork}
    (waits : run.atWork = some (call, task, work)) (succeeded : work.outcome = .ok ()) (now : Nat)
    (honest : (follow call (run.tuner.resume task work now)).IsHonest) :
    (follow call (run.tuner.resume task work now)).IsSound := by
  have stands := sound.stands
  rw [waits] at stands
  let sink := SinkDevice.finish work run.tuner.sink
  rw [Tuner.resume_of_ok succeeded] at honest ⊢
  cases task with
  | leaveFor hertz =>
      rcases stands with ⟨-, begun, rfl, within⟩
      have noted := ObservedSink.moments_finish begun work
      rw [succeeded] at noted
      have last : SinkMoment.ended .deinit (.ok ()) run.tuner.isReady (SinkDevice.isReady sink) ∈
          sink.moments := noted ▸ List.mem_concat_self
      -- The initialization begins at once, so this moment is the last but one.
      have unready : SinkDevice.isReady sink = false :=
        SinkMoment.isReady_of_isHonest (honest _ (List.mem_append_left _ last)) rfl
      have careful : IsCareful ⟨⟨sink, none⟩, none, none⟩ := .note noted sound.careful rfl
      exact isSound_init careful unready within now
  | tuneTo hertz =>
      rcases stands with ⟨begun, rfl, within⟩
      have noted := ObservedSink.moments_finish begun work
      rw [succeeded] at noted
      have ready : SinkDevice.isReady sink = true :=
        SinkMoment.isReady_of_isHonest (honest.last noted) rfl
      have tuned : Tuner.IsTuned ⟨sink, some hertz⟩ := by
        refine fun _ => ⟨hertz, rfl, ?_, within⟩
        change SinkMoment.lastInitialized? sink.moments = some hertz
        rw [noted]
        exact SinkMoment.lastInitialized?_concat_ended _ hertz _ _
      refine isSound_ended sound.careful begun ⟨sink, some hertz⟩ rfl tuned _ _ ?_
      rintro _ _ ⟨⟩ _
      exact ⟨ready, rfl⟩
  | release =>
      rcases stands with ⟨-, begun, rfl⟩
      have noted := ObservedSink.moments_finish begun work
      rw [succeeded] at noted
      have unready : SinkDevice.isReady sink = false :=
        SinkMoment.isReady_of_isHonest (honest.last noted) rfl
      exact isSound_ended sound.careful begun ⟨sink, none⟩ rfl (.of_unready unready) .release _
        (fun _ _ other _ => by cases other)
  | push =>
      rcases stands with ⟨tuned, burst, begun, rfl⟩
      have kept : Tuner.IsTuned ⟨sink, run.tuner.tuned⟩ :=
        tuned.ended begun (fun _ _ => rfl) honest
      exact isSound_ended sound.careful begun ⟨sink, run.tuner.tuned⟩ rfl kept (.push burst) _
        (fun _ _ other _ => by cases other)

/-- The sink changes by itself. -/
theorem change_isSound {run : TunerRun (ObservedSink σ)} (sound : run.IsSound) (change : σ → σ)
    (honest : (run.happen (.change (ObservedSink.change change))).IsHonest) :
    (run.happen (.change (ObservedSink.change change))).IsSound := by
  let after : Tuner (ObservedSink σ) :=
    ⟨ObservedSink.change change run.tuner.sink, run.tuner.tuned⟩
  have kept (other : ∀ hertz outcome, run.tuner.sink.atWork ≠ some (.init hertz, outcome))
      (tuned : run.tuner.IsTuned) : after.IsTuned :=
    tuned.note rfl rfl rfl rfl (honest.last rfl) (SinkMoment.changed_initializes other)
  refine ⟨.note rfl sound.careful rfl, ?_, fun _ _ answered => by cases answered⟩
  have stands := sound.stands
  change after.Stands run.atWork
  rcases waits : run.atWork with _ | ⟨call, task, work⟩ <;> rw [waits] at stands
  · exact ⟨kept stands.2 stands.1, stands.2⟩
  · cases task with
    | leaveFor hertz =>
        rcases stands with ⟨tuned, begun, rest⟩
        exact ⟨kept (fun _ _ => begun ▸ by rintro ⟨⟩) tuned, begun, rest⟩
    | tuneTo hertz => exact stands
    | release =>
        rcases stands with ⟨tuned, begun, rest⟩
        exact ⟨kept (fun _ _ => begun ▸ by rintro ⟨⟩) tuned, begun, rest⟩
    | push =>
        rcases stands with ⟨tuned, burst, begun, rest⟩
        exact ⟨kept (fun _ _ => begun ▸ by rintro ⟨⟩) tuned, burst, begun, rest⟩

/-- Whatever happens to the tuner of a sink that is honest then and was so
before. -/
theorem happen_isSound {run : TunerRun (ObservedSink σ)} (sound : run.IsSound)
    (happening : TunerHappening σ) (honest : (run.happen happening.observed).IsHonest) :
    (run.happen happening.observed).IsSound := by
  cases happening with
  | call call now =>
      simp only [TunerHappening.observed, happen] at honest ⊢
      rcases atWork : run.atWork with _ | waits
      · rw [atWork] at honest
        exact begin_isSound sound atWork call now honest
      · exact sound
  | finish now =>
      simp only [TunerHappening.observed, happen] at honest ⊢
      rcases atWork : run.atWork with _ | ⟨call, task, work⟩
      · exact sound
      · rw [atWork] at honest
        rcases outcome : work.outcome with fault | ⟨⟩
        · exact resume_isSound_of_error sound atWork outcome now honest
        · exact resume_isSound_of_ok sound atWork outcome now honest
  | giveUp =>
      simp only [TunerHappening.observed, happen]
      split
      · next call work atWork =>
          have stands := sound.stands
          rw [atWork] at stands
          rcases stands with ⟨tuned, burst, begun, -⟩
          exact ⟨sound.careful, ⟨tuned, fun _ _ => begun ▸ by rintro ⟨⟩⟩,
            fun _ _ answered => by cases answered⟩
      · exact sound
  | change change => exact change_isSound sound change honest

theorem happen_moments (run : TunerRun (ObservedSink σ)) (happening : TunerHappening σ) :
    run.tuner.sink.moments <+: (run.happen happening.observed).tuner.sink.moments := by
  cases happening with
  | call call now =>
      simp only [TunerHappening.observed, happen]
      split
      · rw [follow_tuner]
        exact run.tuner.begin_moments call now
      · exact List.prefix_rfl
  | finish now =>
      simp only [TunerHappening.observed, happen]
      split
      · rw [follow_tuner]
        exact run.tuner.resume_moments now _ _
      · exact List.prefix_rfl
  | giveUp =>
      simp only [TunerHappening.observed, happen]
      split <;> exact List.prefix_rfl
  | change change => exact List.prefix_append _ _

theorem afterAll_moments (run : TunerRun (ObservedSink σ)) (happenings : List (TunerHappening σ)) :
    run.tuner.sink.moments <+:
      (run.afterAll (happenings.map .observed)).tuner.sink.moments := by
  induction happenings generalizing run with
  | nil => exact List.prefix_rfl
  | cons happening happenings ih => exact (happen_moments run happening).trans (ih _)

theorem afterAll_isSound {run : TunerRun (ObservedSink σ)} (sound : run.IsSound)
    (happenings : List (TunerHappening σ))
    (honest : (run.afterAll (happenings.map .observed)).IsHonest) :
    (run.afterAll (happenings.map .observed)).IsSound := by
  induction happenings generalizing run with
  | nil => exact sound
  | cons happening happenings ih =>
      have sooner : (run.happen happening.observed).IsHonest := fun moment seen =>
        honest moment ((afterAll_moments _ happenings).subset seen)
      exact ih (happen_isSound sound happening sooner) honest

/-- A retune that names no frequency, or none that the sink can transmit on,
touches nothing. -/
theorem happen_retune_of_unfit (run : TunerRun σ) (idle : run.atWork = none)
    {frequency : Option UInt32}
    (unfit : ∀ hertz, frequency = some hertz → isTransmitFrequency hertz = false) (now : Nat) :
    run.happen (.call (.retune frequency) now) =
      { run with answer := some (.retune frequency, .ok none) } := by
  simp only [happen, idle]
  rcases frequency with _ | hertz
  · rfl
  · simp only [Tuner.begin, Tuner.retune, unfit hertz rfl]
    rfl

theorem isTransmitFrequency_iff (hertz : UInt32) :
    isTransmitFrequency hertz = true ↔ 1000000 ≤ hertz ∧ hertz ≤ 500000000 := by
  rw [isTransmitFrequency, Bool.and_eq_true, decide_eq_true_iff, decide_eq_true_iff]

/-- **What a tuner knows of an honest sink.**  The sink is not ready at first
and honest all the time; its calls may fail, and it may stop being ready, at any
time.  Whatever is asked of the tuner then, an initialization never begins while
the sink is ready; between two operations, a sink that is ready runs on the
frequency that the tuner remembers, which is the one of the last successful
initialization and lies within the limits; a retune to a frequency within the
limits that is answered without a fault leaves the sink ready and tuned to it;
and any other retune touches neither the sink nor what the tuner remembers. -/
theorem ready_sink_is_tuned (sink : σ) (unready : SinkDevice.isReady sink = false)
    (happenings : List (TunerHappening σ))
    (honest : ∀ moment ∈ moments sink happenings, moment.isHonest = true) :
    (∀ hertz outcome wasReady isReady,
      .began (.init hertz) outcome wasReady isReady ∈ moments sink happenings →
        wasReady = false) ∧
    (((ofSink sink).afterAll happenings).atWork = none →
      ((ofSink sink).afterAll happenings).tuner.isReady = true →
        ∃ hertz, ((ofSink sink).afterAll happenings).tuner.tuned = some hertz ∧
          SinkMoment.lastInitialized? (moments sink happenings) = some hertz ∧
            1000000 ≤ hertz ∧ hertz ≤ 500000000) ∧
    (∀ hertz result,
      ((ofSink sink).afterAll happenings).answer = some (.retune (some hertz), .ok result) →
        1000000 ≤ hertz → hertz ≤ 500000000 →
          ((ofSink sink).afterAll happenings).tuner.isReady = true ∧
            ((ofSink sink).afterAll happenings).tuner.tuned = some hertz) ∧
    (((ofSink sink).afterAll happenings).atWork = none → ∀ frequency now,
      (∀ hertz, frequency = some hertz → ¬ (1000000 ≤ hertz ∧ hertz ≤ 500000000)) →
        ((ofSink sink).afterAll (happenings ++ [.call (.retune frequency) now])).tuner =
            ((ofSink sink).afterAll happenings).tuner ∧
          moments sink (happenings ++ [.call (.retune frequency) now]) =
            moments sink happenings) := by
  let start : TunerRun (ObservedSink σ) := ofSink (ObservedSink.observe sink)
  let seen := start.afterAll (happenings.map .observed)
  have fresh : start.IsSound :=
    ⟨fun _ member => absurd member List.not_mem_nil, ⟨.of_unready unready, fun _ _ => by rintro ⟨⟩⟩,
      fun _ _ answered => by cases answered⟩
  have sound : seen.IsSound := afterAll_isSound fresh happenings honest
  have same : (ofSink sink).afterAll happenings = seen.unobserved :=
    afterAll_unobserved start happenings
  rw [same]
  refine ⟨?_, ?_, ?_, ?_⟩
  · intro hertz outcome wasReady isReady member
    exact (Bool.not_eq_true' _).mp (sound.careful _ member)
  · intro idle ready
    have stands := sound.stands
    rw [show seen.atWork = none from idle] at stands
    rcases stands.1 ready with ⟨hertz, remembered, last, within⟩
    exact ⟨hertz, remembered, last, (isTransmitFrequency_iff hertz).mp within⟩
  · intro hertz result answered lower upper
    exact sound.answered hertz result answered ((isTransmitFrequency_iff hertz).mpr ⟨lower, upper⟩)
  · intro idle frequency now outside
    have unfit : ∀ hertz, frequency = some hertz → isTransmitFrequency hertz = false :=
      fun hertz named => Bool.eq_false_iff.mpr fun within =>
        outside hertz named ((isTransmitFrequency_iff hertz).mp within)
    have untouched := congrArg TunerRun.tuner
      (happen_retune_of_unfit seen.unobserved idle unfit now)
    have unseen := congrArg TunerRun.tuner (happen_retune_of_unfit seen idle unfit now)
    constructor
    · rw [afterAll_append, same]
      exact untouched
    · rw [moments_append]
      exact congrArg (fun tuner => tuner.sink.moments) unseen

/-- A sink is tuned, given a burst that nobody waits for, and vanishes.  It then
refuses to be initialized once, and is tuned twice more. -/
def rehearsal : List (TunerHappening ScriptedSink) :=
  [.call (.retune (some 7074000)) 0, .finish 0, .call (.push []) 1, .giveUp,
    .change (fun sink => { sink with ready := false }),
    .change (fun sink => { sink with script := { sink.script with refusesInit := true } }),
    .call (.retune (some 7100000)) 2, .finish 2,
    .change (fun sink => { sink with script := .plain }),
    .call (.retune (some 14074000)) 3, .finish 3,
    .call (.retune (some 14200000)) 4, .finish 4, .finish 4]

theorem rehearsed_sink_is_tuned :
    (∀ moment ∈ moments (ScriptedSink.unused .plain false) rehearsal, moment.isHonest = true) ∧
      ∃ hertz, ((ofSink (ScriptedSink.unused .plain false)).afterAll rehearsal).tuner.tuned =
          some hertz ∧
        SinkMoment.lastInitialized? (moments (ScriptedSink.unused .plain false) rehearsal) =
            some hertz ∧
          1000000 ≤ hertz ∧ hertz ≤ 500000000 := by
  let sink := ScriptedSink.unused .plain false
  have honest : ∀ moment ∈ moments sink rehearsal, moment.isHonest = true := by
    decide +kernel
  have idle : ((ofSink sink).afterAll rehearsal).atWork.isNone = true := by decide +kernel
  have ready : ((ofSink sink).afterAll rehearsal).tuner.isReady = true := by decide +kernel
  exact ⟨honest, (ready_sink_is_tuned sink rfl rehearsal honest).2.1
    (Option.isNone_iff_eq_none.mp idle) ready⟩

end TunerRun
end VirtualRadio
