import VirtualRadio.Proofs.Sink.Steady
import VirtualRadio.Proofs.Transmit.Watched
import VirtualRadio.Sink.Scripted

namespace VirtualRadio

/-!
# What requests make of a sink

Requests to retune arrive at any time: while a burst is at work, while the sink
is tuned, while the consumer waits, while it is asked to stop.  Of a steady sink,
the calls depend on nothing but the requests that were taken into the queue, in
their order.
-/

/-- To begin or end the use of the sink is to make one more call. -/
theorem Tuner.tuningCalls_call {σ : Type} [SinkDevice σ] (tuner : Tuner (ObservedSink σ))
    (task : TunerTask) (request : SinkCall) (tunes : request.isTuning = true) (now : Nat) :
    SinkMoment.tuningCalls (tuner.call task request now).1.sink.moments =
      SinkMoment.tuningCalls tuner.sink.moments ++ [request] := by
  have begun : SinkMoment.calls (tuner.call task request now).1.sink.moments =
      SinkMoment.calls tuner.sink.moments ++ [request] :=
    SinkMoment.calls_concat_began _ _ _ _ _
  rw [SinkMoment.tuningCalls, begun, List.filter_append]
  exact congrArg _ (List.filter_cons_of_pos tunes)

theorem Tuner.tuningCalls_push {σ : Type} [SinkDevice σ] (tuner : Tuner (ObservedSink σ))
    (burst : List Sample) (now : Nat) :
    SinkMoment.tuningCalls (tuner.push burst now).1.sink.moments =
      SinkMoment.tuningCalls tuner.sink.moments := by
  have begun : SinkMoment.calls (tuner.push burst now).1.sink.moments =
      SinkMoment.calls tuner.sink.moments ++ [.push burst] :=
    SinkMoment.calls_concat_began _ _ _ _ _
  rw [SinkMoment.tuningCalls, begun, List.filter_append]
  exact List.append_nil _

section Ended

variable {σ : Type} [SinkDevice σ] {tuner : Tuner (ObservedSink σ)} {call : SinkCall}
  {work : SinkWork}

/-- The end of a call is no call. -/
theorem Tuner.tuningCalls_ended (begun : tuner.sink.atWork = some (call, work.outcome)) :
    SinkMoment.tuningCalls (tuner.ended work).sink.moments =
      SinkMoment.tuningCalls tuner.sink.moments := by
  rw [ended, ObservedSink.moments_finish begun work]
  exact SinkMoment.tuningCalls_concat_of_none rfl

theorem Tuner.isBacked_ended (begun : tuner.sink.atWork = some (call, work.outcome))
    (backed : SinkMoment.IsBacked tuner.sink.moments) :
    SinkMoment.IsBacked (tuner.ended work).sink.moments := by
  rw [ended, ObservedSink.moments_finish begun work]
  exact backed.silent rfl

end Ended

/-! ## What the consumer has made of the requests -/

/-- A tuner after the sink was tuned to some frequencies, one after the other. -/
structure Tuner.RunsOn {σ : Type} [SinkDevice σ] (tuner : Tuner (ObservedSink σ))
    (frequencies : List UInt32) : Prop where
  tuned : tuner.tuned = frequencies.getLast?
  ready : tuner.isReady = frequencies.getLast?.isSome
  calls : SinkMoment.tuningCalls tuner.sink.moments = (callsFor frequencies).dropLast

namespace Tuner.RunsOn

variable {σ : Type} [SinkDevice σ] {tuner after : Tuner (ObservedSink σ)}
  {frequencies : List UInt32}

theorem eq_nil (runs : tuner.RunsOn frequencies) (unready : tuner.isReady = false) :
    frequencies = [] := by
  have none := runs.ready.symm.trans unready
  rwa [Option.isSome_eq_false_iff, Option.isNone_iff_eq_none, List.getLast?_eq_none_iff] at none

theorem exists_concat (runs : tuner.RunsOn frequencies) (ready : tuner.isReady = true) :
    ∃ sooner hertz, frequencies = sooner ++ [hertz] := by
  rcases List.eq_nil_or_concat frequencies with rfl | ⟨sooner, hertz, rfl⟩
  · exact absurd (runs.ready.symm.trans ready) Bool.false_ne_true
  · exact ⟨sooner, hertz, List.concat_eq_append⟩

/-- With one more release, the calls are complete. -/
theorem calls_release (runs : tuner.RunsOn frequencies) (ready : tuner.isReady = true) :
    SinkMoment.tuningCalls tuner.sink.moments ++ [.deinit] = callsFor frequencies := by
  obtain ⟨sooner, hertz, rfl⟩ := runs.exists_concat ready
  rw [runs.calls, dropLast_callsFor_concat, callsFor_concat, List.append_assoc]
  rfl

theorem getLast?_calls (runs : tuner.RunsOn frequencies) (ready : tuner.isReady = true) :
    ∃ hertz, (SinkMoment.tuningCalls tuner.sink.moments).getLast? = some (.init hertz) := by
  obtain ⟨sooner, hertz, rfl⟩ := runs.exists_concat ready
  rw [runs.calls, dropLast_callsFor_concat]
  exact ⟨hertz, List.getLast?_concat⟩

end Tuner.RunsOn

namespace Consumer

variable {σ : Type} [SinkDevice σ]

/-- How far the sink has come with the requests that were taken from the queue.
`told` are the frequencies that it was reported to be tuned to. -/
def Serves (consumer : Consumer (ObservedSink σ)) (served : List (Option UInt32))
    (told : List UInt32) : Prop :=
  match consumer.phase with
  | .turning | .draining | .idling _ | .backingOff _ | .pushing _ =>
    told = tunings served ∧ consumer.tuner.RunsOn told
  | .tuning (.leaveFor hertz) _ _ =>
    tunings served = told ++ [hertz] ∧
      SinkMoment.tuningCalls consumer.tuner.sink.moments = callsFor told
  | .tuning (.tuneTo hertz) _ _ =>
    tunings served = told ++ [hertz] ∧
      SinkMoment.tuningCalls consumer.tuner.sink.moments = callsFor told ++ [.init hertz]
  | .tuning _ _ _ | .releasing _ _ | .ended =>
    told = tunings served ∧
      SinkMoment.tuningCalls consumer.tuner.sink.moments = callsFor told
  | .aborted => True

/-- The consumer has served some requests, and handed bursts only to a sink that
was tuned. -/
structure Follows (consumer : Consumer (ObservedSink σ)) (served : List (Option UInt32))
    (told : List UInt32) : Prop where
  serves : consumer.Serves served told
  backed : SinkMoment.IsBacked consumer.tuner.sink.moments

variable {consumer after : Consumer (ObservedSink σ)} {served : List (Option UInt32)}
  {told : List UInt32}

theorem serves_of_isPlain (plain : consumer.phase.isPlain = true) :
    consumer.Serves served told ↔ told = tunings served ∧ consumer.tuner.RunsOn told := by
  unfold Serves
  generalize consumer.phase = phase at plain ⊢
  cases phase with
  | turning | draining | idling | backingOff => exact Iff.rfl
  | tuning | pushing | releasing | ended | aborted => cases plain

/-- A consumer leaves its loop between two calls, or during a burst. -/
theorem leave_follows (backed : SinkMoment.IsBacked consumer.tuner.sink.moments)
    (heard : told = tunings served) (runs : consumer.tuner.RunsOn told) (now : Nat) :
    (consumer.leave now).Follows served told := by
  rcases ready : consumer.tuner.isReady with _ | _
  · rw [leave_of_unready ready]
    have nothing := runs.eq_nil ready
    exact ⟨⟨heard, runs.calls.trans (by rw [nothing]; rfl)⟩, backed⟩
  · rw [leave_of_ready ready]
    exact ⟨⟨heard, (consumer.tuner.tuningCalls_call .release .deinit rfl now).trans
      (runs.calls_release ready)⟩, backed.began (.inl rfl)⟩

theorem tune_finished_follows (tuner : Tuner (ObservedSink σ))
    (backed : SinkMoment.IsBacked tuner.sink.moments) (heard : told = tunings served)
    (runs : tuner.RunsOn told) (result : Except Fault (Option UInt32)) (wasIdle : Bool) :
    (consumer.tune (tuner, .finished result) wasIdle).1.Follows served told := by
  cases wasIdle <;> exact ⟨⟨heard, runs⟩, backed⟩

/-- A request is taken from the queue. -/
theorem takes_follows (plain : consumer.phase.isPlain = true)
    (follows : consumer.Follows served told) (frequency : Option UInt32)
    (rest : List (Option UInt32)) (wasIdle : Bool) (now : Nat) :
    ({ consumer with queue := rest }.tune (consumer.tuner.retune frequency now)
      wasIdle).1.Follows (served ++ [frequency])
        (told ++ ({ consumer with queue := rest }.tune (consumer.tuner.retune frequency now)
          wasIdle).2.toList) := by
  obtain ⟨heard, runs⟩ := (serves_of_isPlain plain).mp follows.serves
  have turn := consumer.tuner.retune_turn frequency now
  generalize consumer.tuner.retune frequency now = state at turn ⊢
  cases turn with
  | ignores _ unfit =>
      have same : told ++ [] = tunings (served ++ [frequency]) := by
        rw [List.append_nil, tunings_concat_of_unfit unfit, heard]
      exact tune_finished_follows consumer.tuner follows.backed same
        ((List.append_nil told).symm ▸ runs) _ wasIdle
  | stays hertz within ready same =>
      have last : (tunings served).getLast? = some hertz := by
        rw [← heard, ← runs.tuned, same]
      have unchanged : told ++ [] = tunings (served ++ [some hertz]) := by
        rw [List.append_nil, tunings_concat within, if_pos last, heard]
      exact tune_finished_follows consumer.tuner follows.backed unchanged
        ((List.append_nil told).symm ▸ runs) _ wasIdle
  | leaves hertz within ready other =>
      have differs : (tunings served).getLast? ≠ some hertz := by
        rw [← heard, ← runs.tuned]
        exact other
      have wanted : tunings (served ++ [some hertz]) = (told ++ []) ++ [hertz] := by
        rw [List.append_nil, tunings_concat within, if_neg differs, heard]
      have calls := (consumer.tuner.tuningCalls_call (.leaveFor hertz) .deinit rfl now).trans
        (runs.calls_release ready)
      exact ⟨⟨wanted, calls.trans (congrArg callsFor (List.append_nil told).symm)⟩,
        follows.backed.began (.inl rfl)⟩
  | tunes hertz within unready =>
      have nothing := runs.eq_nil unready
      have differs : (tunings served).getLast? ≠ some hertz := by
        rw [← heard, nothing]
        exact (Option.some_ne_none hertz).symm
      have wanted : tunings (served ++ [some hertz]) = (told ++ []) ++ [hertz] := by
        rw [List.append_nil, tunings_concat within, if_neg differs, heard]
      have calls : SinkMoment.tuningCalls
          (consumer.tuner.call (.tuneTo hertz) (.init hertz) now).1.sink.moments =
            callsFor (told ++ []) ++ [.init hertz] := by
        rw [consumer.tuner.tuningCalls_call (.tuneTo hertz) (.init hertz) rfl now, runs.calls,
          nothing]
        rfl
      exact ⟨⟨wanted, calls⟩, follows.backed.began (.inl rfl)⟩

variable {backoff now : Nat} {ring rest : Ring} {tuned : Option UInt32}

/-- A call that tunes the sink ends. -/
theorem tunes_follows {task : TunerTask} {work : SinkWork} {wasIdle : Bool}
    (before : consumer.phase = .tuning task work wasIdle) (stands : consumer.Stands)
    (follows : consumer.Follows served told)
    (steady : (consumer.tuner.resume task work now).1.sink.IsSteady) :
    (consumer.tune (consumer.tuner.resume task work now) wasIdle).1.Follows served
      (told ++ (consumer.tune (consumer.tuner.resume task work now) wasIdle).2.toList) := by
  have serves := follows.serves
  rw [Serves, before] at serves
  rw [Stands, before] at stands
  have ended := steady.sooner (consumer.tuner.finish_moments now task work)
  have kept : told ++ [] = told := List.append_nil told
  cases task with
  | leaveFor hertz =>
      have succeeded := SinkMoment.outcome_of_isSteady
        (ended.last (ObservedSink.moments_finish stands work))
      rw [Tuner.resume_of_ok succeeded]
      obtain ⟨wanted, calls⟩ := serves
      let left : Tuner (ObservedSink σ) := { consumer.tuner.ended work with tuned := none }
      have released : SinkMoment.tuningCalls left.sink.moments = callsFor told :=
        (Tuner.tuningCalls_ended stands).trans calls
      have begun : SinkMoment.tuningCalls
          (left.call (.tuneTo hertz) (.init hertz) now).1.sink.moments =
            callsFor (told ++ []) ++ [.init hertz] := by
        rw [left.tuningCalls_call (.tuneTo hertz) (.init hertz) rfl now, released, kept]
      have backed : SinkMoment.IsBacked left.sink.moments :=
        Tuner.isBacked_ended stands follows.backed
      exact ⟨⟨wanted.trans (congrArg (· ++ [hertz]) kept.symm), begun⟩, backed.began (.inl rfl)⟩
  | tuneTo hertz =>
      have noted := ObservedSink.moments_finish stands work
      have last := ended.last noted
      have succeeded := SinkMoment.outcome_of_isSteady last
      rw [Tuner.resume_of_ok succeeded]
      obtain ⟨wanted, calls⟩ := serves
      have tuning : SinkMoment.tuningCalls (consumer.tuner.ended work).sink.moments =
          callsFor told ++ [.init hertz] :=
        (Tuner.tuningCalls_ended stands).trans calls
      have backed := Tuner.isBacked_ended stands follows.backed
      let tuned : Tuner (ObservedSink σ) := { consumer.tuner.ended work with tuned := some hertz }
      have runs : tuned.RunsOn (told ++ [hertz]) :=
        ⟨List.getLast?_concat.symm,
          (SinkMoment.isReady_of_init_isSteady last).trans (by rw [List.getLast?_concat]; rfl),
          tuning.trans (dropLast_callsFor_concat told hertz).symm⟩
      exact tune_finished_follows tuned backed wanted.symm runs _ wasIdle
  | release => exact stands.elim
  | push => exact stands.elim

/-- A burst is handed to a sink that is ready. -/
theorem hands_follows (before : consumer.phase.isPlain = true)
    (follows : consumer.Follows served told) (ready : consumer.tuner.isReady = true)
    (burst : List Sample) (work : SinkWork)
    (steady : (consumer.tuner.push burst now).1.sink.IsSteady) :
    ({ consumer with
      tuner := (consumer.tuner.push burst now).1
      phase := .pushing work } : Consumer (ObservedSink σ)).Follows served told := by
  obtain ⟨heard, runs⟩ := (serves_of_isPlain before).mp follows.serves
  have same := SinkMoment.isReady_of_push_isSteady (steady.last rfl)
  exact ⟨⟨heard, runs.tuned, same.trans runs.ready,
    (consumer.tuner.tuningCalls_push burst now).trans runs.calls⟩,
    follows.backed.began (.inr (runs.getLast?_calls ready))⟩

/-- A burst is over. -/
theorem finishPush_follows {work : SinkWork} (before : consumer.phase = .pushing work)
    (stands : consumer.Stands) (follows : consumer.Follows served told)
    (steady : (consumer.tuner.resume .push work now).1.sink.IsSteady) :
    (consumer.finishPush work backoff now).Follows served told := by
  have serves := follows.serves
  rw [Serves, before] at serves
  rw [Stands, before] at stands
  obtain ⟨burst, atWork⟩ := stands
  have noted := ObservedSink.moments_finish atWork work
  have last := (steady.sooner (consumer.tuner.finish_moments now .push work)).last noted
  have succeeded := SinkMoment.outcome_of_isSteady last
  have same := SinkMoment.isReady_of_pushed_isSteady last
  obtain ⟨heard, runs⟩ := serves
  have calls := (Tuner.tuningCalls_ended atWork).trans runs.calls
  have backed := Tuner.isBacked_ended atWork follows.backed
  unfold finishPush
  rw [Tuner.resume_of_ok succeeded, succeeded]
  exact ⟨⟨heard, runs.tuned, same.trans runs.ready, calls⟩, backed⟩

/-- The sink is released in the end. -/
theorem releases_follows {task : TunerTask} {work : SinkWork}
    (before : consumer.phase = .releasing task work) (stands : consumer.Stands)
    (follows : consumer.Follows served told) :
    ({ consumer with
      tuner := (consumer.tuner.resume task work now).1
      phase := .ended } : Consumer (ObservedSink σ)).Follows served told := by
  have serves := follows.serves
  rw [Serves, before] at serves
  rw [Stands, before] at stands
  cases task with
  | release =>
      have sink : (consumer.tuner.resume .release work now).1.sink =
          (consumer.tuner.ended work).sink := by
        unfold Tuner.resume
        split <;> rfl
      refine ⟨⟨serves.1, ?_⟩, ?_⟩
      · rw [sink, Tuner.tuningCalls_ended stands, serves.2]
      · rw [sink]
        exact Tuner.isBacked_ended stands follows.backed
  | leaveFor hertz => exact stands.elim
  | tuneTo hertz => exact stands.elim
  | push => exact stands.elim

/-- What becomes of the requests in one step. -/
theorem Turn.follows (turn : Turn consumer backoff ring now after rest tuned)
    (stands : consumer.Stands) (follows : consumer.Follows served told)
    (steady : after.tuner.sink.IsSteady) :
    ∃ taken, consumer.queue = taken ++ after.queue ∧
      after.Follows (served ++ taken) (told ++ tuned.toList) := by
  have silent : ∀ {other : Consumer (ObservedSink σ)}, other.queue = consumer.queue →
      other.Follows served told → ∃ taken, consumer.queue = taken ++ other.queue ∧
        other.Follows (served ++ taken) (told ++ (none : Option UInt32).toList) :=
    fun queue follows =>
      ⟨[], queue.symm, (List.append_nil served).symm ▸ (List.append_nil told).symm ▸ follows⟩
  cases turn with
  | goesOn phase before plain =>
      obtain ⟨heard, runs⟩ := (serves_of_isPlain before).mp follows.serves
      exact silent rfl ⟨(serves_of_isPlain plain).mpr ⟨heard, runs⟩, follows.backed⟩
  | takes frequency rest wasIdle before queue =>
      refine ⟨[frequency], ?_, takes_follows before follows frequency rest wasIdle now⟩
      rw [queue, tune_queue]
      rfl
  | tunes task work wasIdle before =>
      rw [tune_tuner] at steady
      refine ⟨[], (tune_queue _ _ wasIdle).symm, ?_⟩
      rw [List.append_nil]
      exact tunes_follows before stands follows steady
  | hands before ready work =>
      exact silent rfl (hands_follows before follows ready _ work steady)
  | drops before =>
      obtain ⟨heard, runs⟩ := (serves_of_isPlain before).mp follows.serves
      exact silent (consumer.leave_queue now) (leave_follows follows.backed heard runs now)
  | finishes work before =>
      rw [finishPush_tuner] at steady
      exact silent (consumer.finishPush_queue work backoff now)
        (finishPush_follows before stands follows steady)
  | abandons work before =>
      have serves := follows.serves
      rw [Serves, before] at serves
      exact silent (consumer.leave_queue now) (leave_follows follows.backed serves.1 serves.2 now)
  | leaves before =>
      obtain ⟨heard, runs⟩ := (serves_of_isPlain before).mp follows.serves
      exact silent (consumer.leave_queue now) (leave_follows follows.backed heard runs now)
  | releases task work before => exact silent rfl (releases_follows before stands follows)

/-- The sink changes by itself. -/
theorem change_follows (stands : consumer.Stands) (follows : consumer.Follows served told)
    (change : σ → σ) (steady : (ObservedSink.change change consumer.tuner.sink).IsSteady) :
    ({ consumer with tuner := { consumer.tuner with
        sink := ObservedSink.change change consumer.tuner.sink } } :
      Consumer (ObservedSink σ)).Follows served told := by
  let changed := ObservedSink.change change consumer.tuner.sink
  have calls : SinkMoment.tuningCalls changed.moments =
      SinkMoment.tuningCalls consumer.tuner.sink.moments :=
    SinkMoment.tuningCalls_concat_of_none rfl
  have kept (other : ∀ call outcome, consumer.tuner.sink.atWork = some (call, outcome) →
      call.isTuning = false) (runs : consumer.tuner.RunsOn told) :
      Tuner.RunsOn { consumer.tuner with sink := changed } told :=
    ⟨runs.tuned, (SinkMoment.isReady_of_changed_isSteady (steady.last rfl) other).trans runs.ready,
      calls.trans runs.calls⟩
  refine ⟨?_, follows.backed.silent rfl⟩
  have serves := follows.serves
  unfold Serves at serves ⊢
  unfold Stands at stands
  cases phase : consumer.phase with
  | turning | draining | idling | backingOff =>
      rw [phase] at serves stands
      exact ⟨serves.1, kept (fun _ _ begun => by cases stands.symm.trans begun) serves.2⟩
  | pushing work =>
      rw [phase] at serves stands
      obtain ⟨burst, atWork⟩ := stands
      exact ⟨serves.1, kept (fun _ _ begun => by cases atWork.symm.trans begun; rfl) serves.2⟩
  | tuning task work wasIdle =>
      rw [phase] at serves stands
      cases task with
      | leaveFor hertz => exact ⟨serves.1, calls.trans serves.2⟩
      | tuneTo hertz => exact ⟨serves.1, calls.trans serves.2⟩
      | release => exact stands.elim
      | push => exact stands.elim
  | releasing | ended =>
      rw [phase] at serves
      exact ⟨serves.1, calls.trans serves.2⟩
  | aborted => trivial

end Consumer

namespace TransmitRun

variable {σ : Type} [SinkDevice σ] {run : TransmitRun (ObservedSink σ)}

/-- The consumer has served a part of the requests that the queue has taken in,
and those that it has not served are in the queue. -/
structure Answers (run : TransmitRun (ObservedSink σ)) (accepted : List (Option UInt32)) :
    Prop where
  stands : run.path.consumer.Stands
  follows : ∃ served, accepted = served ++ run.path.consumer.queue ∧
    run.path.consumer.Follows served run.tuned.toList

theorem happen_answers {accepted : List (Option UInt32)} (answers : run.Answers accepted)
    (happening : TransmitHappening σ)
    (steady : (run.happen happening.observed).path.sink.IsSteady) :
    (run.happen happening.observed).Answers (accepted ++ run.accepts happening.observed) := by
  refine ⟨happen_stands answers.stands happening, ?_⟩
  obtain ⟨served, rfl, follows⟩ := answers.follows
  cases happening with
  | step task =>
      simp only [TransmitHappening.observed, accepts, List.append_nil] at steady ⊢
      cases task with
      | caller =>
          rcases run.happen_caller with same | ⟨phase, joined, rfl | rfl, same⟩ <;> rw [same]
          · exact ⟨served, rfl, follows⟩
          · exact ⟨served, rfl, follows.serves, follows.backed⟩
          · exact ⟨served, rfl, trivial, follows.backed⟩
      | consumer =>
          rcases run.happen_consumer with same | ⟨consumer, ring, tuned, turn, same⟩ <;>
            rw [same] at steady ⊢
          · exact ⟨served, rfl, follows⟩
          · obtain ⟨taken, queue, later⟩ := turn.follows answers.stands follows steady
            refine ⟨served ++ taken, ?_, ?_⟩
            · rw [queue, List.append_assoc]
            · rw [Array.toList_append, Option.toList_toArray]
              exact later
  | wait millis => exact ⟨served, List.append_nil _, follows⟩
  | write samples => exact ⟨served, List.append_nil _, follows⟩
  | retune frequency =>
      simp only [TransmitHappening.observed, happen, accepts, TransmitPath.retune, Consumer.retune]
      by_cases held : run.held = true
      · by_cases room : run.path.consumer.queue.length < Consumer.queueSize
        · simp only [held, room, decide_true, Bool.and_true, if_true]
          exact ⟨served, List.append_assoc _ _ _, follows.serves, follows.backed⟩
        · simp only [held, room, decide_false, Bool.and_false, Bool.false_eq_true, if_true,
            if_false, List.append_nil]
          exact ⟨served, rfl, follows⟩
      · simp only [held, Bool.false_and, Bool.false_eq_true, if_false, List.append_nil]
        exact ⟨served, rfl, follows⟩
  | change change =>
      have later := Consumer.change_follows answers.stands follows change steady
      exact ⟨served, List.append_nil _, later⟩
  | shutdown millis =>
      simp only [TransmitHappening.observed, happen, accepts]
      split <;> exact ⟨served, List.append_nil _, follows.serves, follows.backed⟩
  | drop => exact ⟨served, List.append_nil _, follows.serves, follows.backed⟩

theorem afterAll_answers {accepted : List (Option UInt32)} (answers : run.Answers accepted)
    (happenings : List (TransmitHappening σ))
    (steady : (run.afterAll (happenings.map .observed)).path.sink.IsSteady) :
    (run.afterAll (happenings.map .observed)).Answers
      (accepted ++ run.accepted (happenings.map .observed)) := by
  induction happenings generalizing run accepted with
  | nil =>
      change run.Answers (accepted ++ [])
      rwa [List.append_nil]
  | cons happening happenings ih =>
      have sooner := steady.sooner (afterAll_moments (run.happen happening.observed) happenings)
      have next := ih (happen_answers answers happening sooner) steady
      rw [List.append_assoc] at next
      exact next

/-! ## When nothing is left -/

section Done

variable {run : TransmitRun σ}

/-- No request waits, and none can be made. -/
def IsDone (run : TransmitRun σ) : Prop :=
  run.held = false ∧ run.path.consumer.queue = []

theorem happen_isDone (done : run.IsDone) (happening : TransmitHappening σ) :
    (run.happen happening).IsDone := by
  obtain ⟨held, queue⟩ := done
  cases happening with
  | step task =>
      cases task with
      | caller =>
          rcases run.happen_caller with same | ⟨phase, joined, -, same⟩ <;> rw [same]
          · exact ⟨held, queue⟩
          · exact ⟨held, queue⟩
      | consumer =>
          rcases run.happen_consumer with same | ⟨consumer, ring, tuned, turn, same⟩ <;> rw [same]
          · exact ⟨held, queue⟩
          · rcases turn.queue with kept | ⟨frequency, taken⟩
            · exact ⟨held, kept.trans queue⟩
            · exact absurd (queue.symm.trans taken) (List.cons_ne_nil _ _).symm
  | wait millis => exact ⟨held, queue⟩
  | write samples => exact ⟨held, queue⟩
  | retune frequency =>
      rw [happen, if_neg (by rw [held]; exact Bool.false_ne_true)]
      exact ⟨held, queue⟩
  | change change => exact ⟨held, queue⟩
  | shutdown millis =>
      rw [happen, if_neg (by rw [held]; exact Bool.false_ne_true)]
      exact ⟨held, queue⟩
  | drop => exact ⟨rfl, queue⟩

theorem afterAll_isDone (done : run.IsDone) (happenings : List (TransmitHappening σ)) :
    (run.afterAll happenings).IsDone := by
  induction happenings generalizing run with
  | nil => exact done
  | cons happening happenings ih => exact ih (happen_isDone done happening)

theorem shutdown_isDone (queue : run.path.consumer.queue = []) (millis : Nat) :
    (run.happen (.shutdown millis)).IsDone := by
  rw [happen]
  split
  · exact ⟨rfl, queue⟩
  · next unheld => exact ⟨Bool.eq_false_iff.mpr unheld, queue⟩

end Done

/-- **The sink's calls depend on the accepted requests alone.**  Whenever
requests, samples and the shutdown come, and however long the calls of a steady
sink take: once the consumer has ended by itself, it has served the first of the
requests that its queue took in, and all of them if none waited at the shutdown.
The sink was then initialized at the frequencies that these requests ask for, one
after the other and without repeating itself, and released after each; these
frequencies were reported; and each burst was handed over between an
initialization and the next release. -/
theorem requests_determine_calls (ring : Ring) (sink : σ)
    (unready : SinkDevice.isReady sink = false) (backoff : Nat)
    (happenings : List (TransmitHappening σ))
    (steady : ∀ moment ∈ moments ring sink backoff happenings, moment.isSteady = true)
    (ended : ((spawn ring sink backoff).afterAll happenings).path.consumer.phase = .ended) :
    ∃ served, served <+: (spawn ring sink backoff).accepted happenings ∧
      (∀ before millis later, happenings = before ++ .shutdown millis :: later →
        ((spawn ring sink backoff).afterAll before).path.consumer.queue = [] →
          served = (spawn ring sink backoff).accepted happenings) ∧
      SinkMoment.tuningCalls (moments ring sink backoff happenings) =
        callsFor (tunings served) ∧
      ((spawn ring sink backoff).afterAll happenings).tuned.toList = tunings served ∧
      SinkMoment.IsBacked (moments ring sink backoff happenings) := by
  have backed : SinkMoment.IsBacked [] := fun before burst later split =>
    absurd split.symm (List.append_ne_nil_of_right_ne_nil before (List.cons_ne_nil _ later))
  have fresh : (spawn ring (ObservedSink.observe sink) backoff).Answers [] :=
    ⟨rfl, [], rfl, ⟨rfl, rfl, unready, rfl⟩, backed⟩
  obtain ⟨served, accepted, follows⟩ := (afterAll_answers fresh happenings steady).follows
  rw [List.nil_append, ← spawn_accepted] at accepted
  have same := spawn_afterAll ring sink backoff happenings
  have finished : (watched ring sink backoff happenings).path.consumer.phase = .ended :=
    (congrArg (fun run : TransmitRun σ => run.path.consumer.phase) same).symm.trans ended
  have serves := follows.serves
  change Consumer.Serves (watched ring sink backoff happenings).path.consumer served
    (watched ring sink backoff happenings).tuned.toList at serves
  rw [Consumer.Serves, finished] at serves
  refine ⟨served, ⟨_, accepted.symm⟩, ?_, ?_, ?_, follows.backed⟩
  · intro before millis later split queue
    have nothing := (afterAll_isDone (shutdown_isDone queue millis) later).2
    have whole : (spawn ring sink backoff).afterAll happenings =
        (((spawn ring sink backoff).afterAll before).happen (.shutdown millis)).afterAll later := by
      rw [split, afterAll_append]
      rfl
    rw [← whole, same] at nothing
    change (watched ring sink backoff happenings).path.consumer.queue = [] at nothing
    change _ = served ++ (watched ring sink backoff happenings).path.consumer.queue at accepted
    rw [accepted, nothing, List.append_nil]
  · exact serves.1 ▸ serves.2
  · rw [same]
    exact serves.1

/-- Four requests, of which one names no frequency and one repeats the one
before, and a shutdown during the first burst. -/
def fourRequests : List (TransmitHappening ScriptedSink) :=
  [.retune (some 7074000), .retune none, .retune (some 7074000), .retune (some 14074000)] ++
    List.replicate 10 (.step .consumer) ++ [.shutdown 1000] ++ List.replicate 3 (.step .consumer)

theorem four_requests_determine_calls :
    (∀ moment ∈ moments (Ring.empty 2 1) (ScriptedSink.unused .plain false) 1000000 fourRequests,
      moment.isSteady = true) ∧
    ∃ served,
      served <+: (spawn (Ring.empty 2 1) (ScriptedSink.unused .plain false) 1000000).accepted
        fourRequests ∧
      SinkMoment.tuningCalls
          (moments (Ring.empty 2 1) (ScriptedSink.unused .plain false) 1000000 fourRequests) =
        callsFor (tunings served) := by
  have steady : ∀ moment ∈
      moments (Ring.empty 2 1) (ScriptedSink.unused .plain false) 1000000 fourRequests,
        moment.isSteady = true := by decide +kernel
  have unready : SinkDevice.isReady (ScriptedSink.unused .plain false) = false := rfl
  have ended : ((spawn (Ring.empty 2 1) (ScriptedSink.unused .plain false) 1000000).afterAll
      fourRequests).path.consumer.phase = .ended := rfl
  obtain ⟨served, first, -, calls, -⟩ := requests_determine_calls (Ring.empty 2 1)
    (ScriptedSink.unused .plain false) unready 1000000 fourRequests steady ended
  exact ⟨steady, served, first, calls⟩

end TransmitRun
end VirtualRadio
