import VirtualRadio.Proofs.Transmit.Watched

namespace VirtualRadio

/-!
# What the consumer does with bursts

A burst is drained from the ring, handed to the sink, and taken or refused by
it.  These are the marks that the consumer leaves, and one more when it leaves
its loop.  None of them is noted by the consumer: whether a burst was drained is
seen from the ring, and what becomes of it from the sink.
-/

/-- What may be seen of the consumer and its bursts. -/
inductive BurstMark where
  /-- A burst is drained from the ring, while the sink is ready or not. -/
  | drained (burst : List Sample) (isReady : Bool)
  /-- A burst is handed to the sink. -/
  | handed (burst : List Sample)
  /-- The sink has taken or refused a burst. -/
  | finished
  /-- The consumer leaves its loop, asked to stop or not. -/
  | left (asked : Bool)

namespace BurstMark

def drained? : BurstMark → Option (List Sample)
  | drained burst _ => some burst
  | _ => none

def handed? : BurstMark → Option (List Sample)
  | handed burst => some burst
  | _ => none

def isLeft : BurstMark → Bool
  | left _ => true
  | _ => false

/-- Whether a burst is at hand after a mark. -/
def follow (isAtHand : Bool) : BurstMark → Bool
  | drained _ _ => true
  | finished => false
  | handed _ | left _ => isAtHand

/-- The bursts that were drained, in order. -/
def drainedBursts (marks : List BurstMark) : List (List Sample) :=
  marks.filterMap drained?

/-- The bursts that were handed to the sink, in order. -/
def handedBursts (marks : List BurstMark) : List (List Sample) :=
  marks.filterMap handed?

/-- Whether a burst was drained that the sink has neither taken nor refused. -/
def isAtHand (marks : List BurstMark) : Bool :=
  marks.foldl follow false

/-- Whether a burst was at hand when the consumer left its loop. -/
def isCutShort (marks : List BurstMark) : Bool :=
  isAtHand (marks.takeWhile (fun mark => !mark.isLeft))

variable {marks news : List BurstMark}

theorem drainedBursts_append (marks news : List BurstMark) :
    drainedBursts (marks ++ news) = drainedBursts marks ++ drainedBursts news :=
  List.filterMap_append

theorem handedBursts_append (marks news : List BurstMark) :
    handedBursts (marks ++ news) = handedBursts marks ++ handedBursts news :=
  List.filterMap_append

theorem isAtHand_append (marks news : List BurstMark) :
    isAtHand (marks ++ news) = news.foldl follow (isAtHand marks) :=
  List.foldl_append

/-- In the loop, what is at hand is what would be cut short. -/
theorem isCutShort_append (inside : ∀ mark ∈ marks, mark.isLeft = false)
    (news : List BurstMark) :
    isCutShort (marks ++ news) =
      (news.takeWhile (fun mark => !mark.isLeft)).foldl follow (isAtHand marks) := by
  have within : ∀ mark ∈ marks, (!mark.isLeft) = true := fun mark member =>
    (Bool.not_eq_true' _).mpr (inside mark member)
  rw [isCutShort, List.takeWhile_append_of_pos within, isAtHand_append]

theorem isCutShort_eq (inside : ∀ mark ∈ marks, mark.isLeft = false) :
    isCutShort marks = isAtHand marks := by
  have same := isCutShort_append inside []
  rwa [List.append_nil] at same

end BurstMark

/-- What a moment of the sink says of a burst. -/
def SinkMoment.burstMark? : SinkMoment → Option BurstMark
  | began (.push burst) _ _ _ => some (.handed burst)
  | ended (.push _) _ _ _ => some .finished
  | _ => none

namespace ConsumerPhase

/-- Whether the consumer has not left its loop. -/
def isInLoop : ConsumerPhase → Bool
  | turning | draining | tuning _ _ _ | idling _ | pushing _ | backingOff _ => true
  | releasing _ _ | ended | aborted => false

def isPushing : ConsumerPhase → Bool
  | pushing _ => true
  | _ => false

theorem isInLoop_of_isPlain {phase : ConsumerPhase} (plain : phase.isPlain = true) :
    phase.isInLoop = true ∧ phase.isPushing = false := by
  cases phase with
  | turning | draining | idling | backingOff => exact ⟨rfl, rfl⟩
  | tuning | pushing | releasing | ended | aborted => cases plain

end ConsumerPhase

/-! ## What is seen of a tuner at work -/

namespace Tuner

variable {σ : Type} [SinkDevice σ] (tuner : Tuner (ObservedSink σ))

/-- To retune is not to hand over a burst. -/
theorem retune_news (frequency : Option UInt32) (now : Nat) :
    ∃ news, (tuner.retune frequency now).1.sink.moments = tuner.sink.moments ++ news ∧
      news.filterMap SinkMoment.burstMark? = [] := by
  have turn := tuner.retune_turn frequency now
  generalize tuner.retune frequency now = state at turn ⊢
  cases turn with
  | ignores => exact ⟨[], (List.append_nil _).symm, rfl⟩
  | stays => exact ⟨[], (List.append_nil _).symm, rfl⟩
  | leaves => exact ⟨[_], rfl, rfl⟩
  | tunes => exact ⟨[_], rfl, rfl⟩

theorem resume_news_of_tuning {task : TunerTask} {work : SinkWork} {wasIdle : Bool}
    (stands : (ConsumerPhase.tuning task work wasIdle).awaits tuner.sink.atWork) (now : Nat) :
    ∃ news, (tuner.resume task work now).1.sink.moments = tuner.sink.moments ++ news ∧
      news.filterMap SinkMoment.burstMark? = [] := by
  cases task with
  | leaveFor hertz =>
      have noted := ObservedSink.moments_finish stands work
      rcases outcome : work.outcome with fault | ⟨⟩
      · rw [resume_of_error outcome]
        exact ⟨_, noted, rfl⟩
      · rw [resume_of_ok outcome]
        refine ⟨_, (congrArg (· ++ [_]) noted).trans (List.append_assoc _ _ _), rfl⟩
  | tuneTo hertz =>
      have noted := ObservedSink.moments_finish stands work
      rcases outcome : work.outcome with fault | ⟨⟩
      · rw [resume_of_error outcome]
        exact ⟨_, noted, rfl⟩
      · rw [resume_of_ok outcome]
        exact ⟨_, noted, rfl⟩
  | release => exact stands.elim
  | push => exact stands.elim

theorem push_news (burst : List Sample) (now : Nat) :
    ∃ news, (tuner.push burst now).1.sink.moments = tuner.sink.moments ++ news ∧
      news.filterMap SinkMoment.burstMark? = [.handed burst] :=
  ⟨[_], rfl, rfl⟩

theorem resume_push_news {work : SinkWork}
    (stands : (ConsumerPhase.pushing work).awaits tuner.sink.atWork) (now : Nat) :
    ∃ news, (tuner.resume .push work now).1.sink.moments = tuner.sink.moments ++ news ∧
      news.filterMap SinkMoment.burstMark? = [.finished] := by
  obtain ⟨burst, atWork⟩ := stands
  have noted := ObservedSink.moments_finish atWork work
  rcases outcome : work.outcome with fault | ⟨⟩
  · rw [resume_of_error outcome]
    exact ⟨_, noted, rfl⟩
  · rw [resume_of_ok outcome]
    exact ⟨_, noted, rfl⟩

theorem resume_release_news {work : SinkWork}
    (stands : (ConsumerPhase.releasing .release work).awaits tuner.sink.atWork) (now : Nat) :
    ∃ news, (tuner.resume .release work now).1.sink.moments = tuner.sink.moments ++ news ∧
      news.filterMap SinkMoment.burstMark? = [] := by
  have noted := ObservedSink.moments_finish stands work
  rcases outcome : work.outcome with fault | ⟨⟩
  · rw [resume_of_error outcome]
    exact ⟨_, noted, rfl⟩
  · rw [resume_of_ok outcome]
    exact ⟨_, noted, rfl⟩

end Tuner

/-! ## The marks of one step -/

namespace Consumer

variable {σ : Type} {consumer after : Consumer (ObservedSink σ)}

theorem tune_after (consumer : Consumer (ObservedSink σ))
    (state : Tuner (ObservedSink σ) × TunerProgress) (wasIdle : Bool) :
    (consumer.tune state wasIdle).1.phase.isInLoop = true ∧
      (consumer.tune state wasIdle).1.phase.isPushing = false ∧
      (consumer.tune state wasIdle).1.pushed + (consumer.tune state wasIdle).1.refused =
        consumer.pushed + consumer.refused := by
  rcases state with ⟨tuner, result | ⟨task, work⟩⟩ <;> cases wasIdle <;> exact ⟨rfl, rfl, rfl⟩

theorem ne_aborted_of_isInLoop (loop : consumer.phase.isInLoop = true) :
    consumer.phase ≠ .aborted := by
  intro aborted
  rw [aborted] at loop
  cases loop

variable [SinkDevice σ] {backoff now : Nat} {ring rest : Ring} {tuned : Option UInt32}

/-- The marks of a step of the consumer, as they are seen from before and after
it: a burst was drained if the ring is not the same. -/
def marksSince (consumer after : Consumer (ObservedSink σ)) (ring rest : Ring) :
    List BurstMark :=
  (if rest = ring then [] else [.drained ring.read.1 consumer.tuner.isReady]) ++
    (after.tuner.sink.moments.drop consumer.tuner.sink.moments.length).filterMap
      SinkMoment.burstMark? ++
    if consumer.phase.isInLoop && !after.phase.isInLoop then [.left consumer.cancelled] else []

/-- What a step of the consumer may be to bursts, and its marks. -/
inductive Deal (consumer : Consumer (ObservedSink σ)) (ring : Ring)
    (after : Consumer (ObservedSink σ)) : Ring → List BurstMark → Prop where
  /-- Nothing is done with bursts. -/
  | rests (alive : consumer.phase ≠ .aborted) (before : consumer.phase.isPushing = false)
      (phase : after.phase.isPushing = false)
      (loop : after.phase.isInLoop = consumer.phase.isInLoop)
      (count : after.pushed + after.refused = consumer.pushed + consumer.refused) :
      Deal consumer ring after ring []
  /-- A burst is drained and handed over. -/
  | hands (before : consumer.phase.isInLoop = true ∧ consumer.phase.isPushing = false)
      (phase : after.phase.isInLoop = true ∧ after.phase.isPushing = true)
      (count : after.pushed + after.refused = consumer.pushed + consumer.refused) :
      Deal consumer ring after ring.read.2 [.drained ring.read.1 true, .handed ring.read.1]
  /-- A burst is drained, and the loop is left. -/
  | drops (before : consumer.phase.isInLoop = true ∧ consumer.phase.isPushing = false)
      (phase : after.phase.isInLoop = false)
      (count : after.pushed + after.refused = consumer.pushed + consumer.refused) :
      Deal consumer ring after ring.read.2 [.drained ring.read.1 true, .left true]
  /-- The sink has taken or refused the burst. -/
  | finishes (before : consumer.phase.isInLoop = true ∧ consumer.phase.isPushing = true)
      (phase : after.phase.isInLoop = true ∧ after.phase.isPushing = false)
      (count : after.pushed + after.refused = consumer.pushed + consumer.refused + 1) :
      Deal consumer ring after ring [.finished]
  /-- The loop is left.  If it is in the middle of a burst, the consumer was
  asked to. -/
  | leaves (before : consumer.phase.isInLoop = true)
      (asked : consumer.phase.isPushing = true → consumer.cancelled = true)
      (phase : after.phase.isInLoop = false)
      (count : after.pushed + after.refused = consumer.pushed + consumer.refused) :
      Deal consumer ring after ring [.left consumer.cancelled]

theorem marksSince_eq {news : List SinkMoment}
    (noted : after.tuner.sink.moments = consumer.tuner.sink.moments ++ news) :
    consumer.marksSince after ring rest =
      (if rest = ring then [] else [.drained ring.read.1 consumer.tuner.isReady]) ++
        news.filterMap SinkMoment.burstMark? ++
        if consumer.phase.isInLoop && !after.phase.isInLoop then [.left consumer.cancelled]
        else [] := by
  rw [marksSince, noted, List.drop_left]

/-- A step in which no burst is seen. -/
theorem deal_of_silent (alive : consumer.phase ≠ .aborted)
    (before : consumer.phase.isPushing = false) (phase : after.phase.isPushing = false)
    (loop : after.phase.isInLoop = consumer.phase.isInLoop)
    (count : after.pushed + after.refused = consumer.pushed + consumer.refused)
    (silent : ∃ news, after.tuner.sink.moments = consumer.tuner.sink.moments ++ news ∧
      news.filterMap SinkMoment.burstMark? = []) :
    consumer.Deal ring after ring (consumer.marksSince after ring ring) := by
  obtain ⟨news, noted, nothing⟩ := silent
  rw [marksSince_eq noted, nothing, if_pos rfl, loop, Bool.and_not_self]
  exact .rests alive before phase loop count

theorem finishPush_after (consumer : Consumer (ObservedSink σ)) (work : SinkWork)
    (backoff now : Nat) :
    ((consumer.finishPush work backoff now).phase.isInLoop = true ∧
      (consumer.finishPush work backoff now).phase.isPushing = false) ∧
      (consumer.finishPush work backoff now).pushed +
          (consumer.finishPush work backoff now).refused =
        consumer.pushed + consumer.refused + 1 := by
  unfold finishPush
  rcases work.outcome with fault | ⟨⟩
  · exact ⟨⟨rfl, rfl⟩, rfl⟩
  · exact ⟨⟨rfl, rfl⟩, Nat.add_right_comm _ _ _⟩

/-- Where nothing is done, nothing is seen. -/
theorem marksSince_self : consumer.marksSince consumer ring ring = [] := by
  rw [marksSince_eq (List.append_nil _).symm, if_pos rfl, Bool.and_not_self]
  rfl

theorem leave_after (consumer : Consumer (ObservedSink σ)) (now : Nat) :
    (consumer.leave now).phase.isInLoop = false ∧
      (consumer.leave now).pushed + (consumer.leave now).refused =
        consumer.pushed + consumer.refused ∧
      ∃ news, (consumer.leave now).tuner.sink.moments = consumer.tuner.sink.moments ++ news ∧
        news.filterMap SinkMoment.burstMark? = [] := by
  rcases ready : consumer.tuner.isReady with _ | _
  · rw [leave_of_unready ready]
    exact ⟨rfl, rfl, [], (List.append_nil _).symm, rfl⟩
  · rw [leave_of_ready ready]
    exact ⟨rfl, rfl, [_], rfl, rfl⟩

/-- To leave the loop shows in one mark, after those of a burst that was
drained. -/
theorem leave_marks (loop : consumer.phase.isInLoop = true) (now : Nat) (ring rest : Ring) :
    consumer.marksSince (consumer.leave now) ring rest =
      (if rest = ring then [] else [.drained ring.read.1 consumer.tuner.isReady]) ++
        [.left consumer.cancelled] := by
  obtain ⟨left, -, news, noted, nothing⟩ := consumer.leave_after now
  rw [marksSince_eq noted, nothing, loop, left, List.append_nil]
  rfl

theorem Turn.deal (turn : Turn consumer backoff ring now after rest tuned)
    (stands : consumer.Stands) (moves : ring.read.2 ≠ ring) :
    consumer.Deal ring after rest (consumer.marksSince after ring rest) := by
  cases turn with
  | goesOn phase before plain =>
      obtain ⟨loop, push⟩ := ConsumerPhase.isInLoop_of_isPlain before
      obtain ⟨stays, waits⟩ := ConsumerPhase.isInLoop_of_isPlain plain
      exact deal_of_silent (ne_aborted_of_isInLoop loop) push waits (stays.trans loop.symm) rfl
        ⟨[], (List.append_nil _).symm, rfl⟩
  | takes frequency rest wasIdle before =>
      obtain ⟨loop, push⟩ := ConsumerPhase.isInLoop_of_isPlain before
      obtain ⟨stays, waits, count⟩ := tune_after { consumer with queue := rest }
        (consumer.tuner.retune frequency now) wasIdle
      have silent := consumer.tuner.retune_news frequency now
      rw [← tune_tuner { consumer with queue := rest } _ wasIdle] at silent
      exact deal_of_silent (ne_aborted_of_isInLoop loop) push waits (stays.trans loop.symm) count
        silent
  | tunes task work wasIdle before =>
      have loop : consumer.phase.isInLoop = true := by rw [before]; rfl
      have push : consumer.phase.isPushing = false := by rw [before]; rfl
      rw [Stands, before] at stands
      obtain ⟨stays, waits, count⟩ := tune_after consumer
        (consumer.tuner.resume task work now) wasIdle
      have silent := consumer.tuner.resume_news_of_tuning stands now
      rw [← tune_tuner consumer _ wasIdle] at silent
      exact deal_of_silent (ne_aborted_of_isInLoop loop) push waits (stays.trans loop.symm) count
        silent
  | hands before ready work begun =>
      obtain ⟨loop, push⟩ := ConsumerPhase.isInLoop_of_isPlain before
      obtain ⟨news, noted, handed⟩ := consumer.tuner.push_news ring.read.1 now
      rw [marksSince_eq noted, handed, if_neg moves, ready, loop]
      exact .hands ⟨loop, push⟩ ⟨rfl, rfl⟩ rfl
  | drops before ready asked =>
      obtain ⟨loop, push⟩ := ConsumerPhase.isInLoop_of_isPlain before
      obtain ⟨left, count, -⟩ := consumer.leave_after now
      rw [leave_marks loop, if_neg moves, ready, asked]
      exact .drops ⟨loop, push⟩ left count
  | finishes work before =>
      have loop : consumer.phase.isInLoop = true := by rw [before]; rfl
      have push : consumer.phase.isPushing = true := by rw [before]; rfl
      rw [Stands, before] at stands
      obtain ⟨news, noted, finished⟩ := consumer.tuner.resume_push_news stands now
      rw [← consumer.finishPush_tuner work backoff now] at noted
      obtain ⟨stays, count⟩ := consumer.finishPush_after work backoff now
      rw [marksSince_eq noted, finished, if_pos rfl, loop, stays.1]
      exact .finishes ⟨loop, push⟩ stays count
  | abandons work before asked =>
      have loop : consumer.phase.isInLoop = true := by rw [before]; rfl
      obtain ⟨left, count, -⟩ := consumer.leave_after now
      rw [leave_marks loop, if_pos rfl]
      exact .leaves loop (fun _ => asked) left count
  | leaves before =>
      obtain ⟨loop, push⟩ := ConsumerPhase.isInLoop_of_isPlain before
      obtain ⟨left, count, -⟩ := consumer.leave_after now
      rw [leave_marks loop, if_pos rfl]
      exact .leaves loop (fun pushing => absurd (push.symm.trans pushing) Bool.false_ne_true)
        left count
  | releases task work before =>
      have alive : consumer.phase ≠ .aborted := by rw [before]; exact ConsumerPhase.noConfusion
      have push : consumer.phase.isPushing = false := by rw [before]; rfl
      have left : consumer.phase.isInLoop = false := by rw [before]; rfl
      rw [Stands, before] at stands
      cases task with
      | release =>
          exact deal_of_silent alive push rfl left.symm rfl
            (consumer.tuner.resume_release_news stands now)
      | leaveFor hertz => exact stands.elim
      | tuneTo hertz => exact stands.elim
      | push => exact stands.elim

end Consumer

/-! ## The marks of a run -/

namespace TransmitRun

variable {σ : Type} [SinkDevice σ]

/-- The marks that the consumer leaves when something happens. -/
def marksOf (run : TransmitRun (ObservedSink σ)) :
    TransmitHappening (ObservedSink σ) → List BurstMark
  | .step .consumer =>
    run.path.consumer.marksSince (run.happen (.step .consumer)).path.consumer run.path.ring
      (run.happen (.step .consumer)).path.ring
  | _ => []

/-- The marks that the consumer leaves in a run, in order. -/
def marks (run : TransmitRun (ObservedSink σ)) :
    List (TransmitHappening (ObservedSink σ)) → List BurstMark
  | [] => []
  | happening :: later => run.marksOf happening ++ (run.happen happening).marks later

end TransmitRun
end VirtualRadio
