import VirtualRadio.Proofs.Ring.Reads
import VirtualRadio.Proofs.Transmit.Marks
import VirtualRadio.Sink.Scripted

namespace VirtualRadio

/-!
# Every burst is accounted for

The consumer counts the bursts that the sink took and those that it refused, and
the ring counts what was consumed, what was lost to the writer, and the reads
that found nothing.  The two accounts agree up to one burst, the one that was at
hand when the consumer was asked to stop.
-/

open BurstMark

namespace Consumer

variable {σ : Type} {consumer : Consumer (ObservedSink σ)} {marks : List BurstMark}

/-- The consumer's counters agree with the marks that it has left. -/
structure Balances (consumer : Consumer (ObservedSink σ)) (marks : List BurstMark) : Prop where
  ready : ∀ burst isReady, .drained burst isReady ∈ marks → isReady = true
  count : consumer.pushed + consumer.refused + (isCutShort marks).toNat =
    (drainedBursts marks).length
  bursts : drainedBursts marks = handedBursts marks ∨
    isCutShort marks = true ∧ ∃ last, drainedBursts marks = handedBursts marks ++ [last]
  loop : consumer.phase.isInLoop = true → (∀ mark ∈ marks, mark.isLeft = false) ∧
    drainedBursts marks = handedBursts marks ∧ isAtHand marks = consumer.phase.isPushing
  asked : consumer.phase.isInLoop = false → consumer.phase ≠ .aborted →
    isCutShort marks = true → .left true ∈ marks

/-- In the loop, what is at hand is what the sink has to take. -/
theorem Balances.isCutShort_eq (balances : consumer.Balances marks)
    (inside : consumer.phase.isInLoop = true) :
    isCutShort marks = consumer.phase.isPushing :=
  (BurstMark.isCutShort_eq (balances.loop inside).1).trans (balances.loop inside).2.2

/-- Nothing is drained while the sink is not ready. -/
theorem Balances.ready_append (balances : consumer.Balances marks) {news : List BurstMark}
    (ready : ∀ burst isReady, .drained burst isReady ∈ news → isReady = true) :
    ∀ burst isReady, .drained burst isReady ∈ marks ++ news → isReady = true := by
  intro burst isReady member
  rcases List.mem_append.mp member with sooner | last
  · exact balances.ready burst isReady sooner
  · exact ready burst isReady last

/-- The accounts of a consumer in its loop. -/
theorem balances_of_isInLoop (inside : consumer.phase.isInLoop = true)
    (ready : ∀ burst isReady, .drained burst isReady ∈ marks → isReady = true)
    (unleft : ∀ mark ∈ marks, mark.isLeft = false)
    (same : drainedBursts marks = handedBursts marks)
    (atHand : isAtHand marks = consumer.phase.isPushing)
    (count : consumer.pushed + consumer.refused + consumer.phase.isPushing.toNat =
      (drainedBursts marks).length) : consumer.Balances marks where
  ready := ready
  count := by rw [BurstMark.isCutShort_eq unleft, atHand, count]
  bursts := .inl same
  loop := fun _ => ⟨unleft, same, atHand⟩
  asked := fun outside => absurd (outside.symm.trans inside) Bool.false_ne_true

/-- What is drained together with one more mark was drained from a ready sink. -/
theorem ready_of_drained {first : List Sample} {second : BurstMark}
    (other : second.drained? = none) (burst : List Sample) (isReady : Bool)
    (member : .drained burst isReady ∈ [.drained first true, second]) : isReady = true := by
  rcases List.mem_cons.mp member with same | last
  · cases same
    rfl
  · rw [← List.mem_singleton.mp last] at other
    cases other

variable {after : Consumer (ObservedSink σ)} {ring rest : Ring} {news : List BurstMark}

theorem Deal.balances (deal : consumer.Deal ring after rest news)
    (balances : consumer.Balances marks) : after.Balances (marks ++ news) := by
  cases deal with
  | rests alive before phase loop count =>
      rw [List.append_nil]
      refine ⟨balances.ready, count ▸ balances.count, balances.bursts, ?_, ?_⟩
      · intro inside
        obtain ⟨unleft, same, atHand⟩ := balances.loop (loop.symm.trans inside)
        exact ⟨unleft, same, atHand.trans (before.trans phase.symm)⟩
      · intro outside _
        exact balances.asked (loop.symm.trans outside) alive
  | hands before phase count =>
      obtain ⟨unleft, same, -⟩ := balances.loop before.1
      have counted := balances.count
      rw [balances.isCutShort_eq before.1, before.2] at counted
      refine balances_of_isInLoop phase.1 (balances.ready_append (ready_of_drained rfl)) ?_ ?_ ?_ ?_
      · exact List.forall_mem_append.mpr
          ⟨unleft, List.forall_mem_cons.mpr ⟨rfl, List.forall_mem_singleton.mpr rfl⟩⟩
      · rw [drainedBursts_append, handedBursts_append, same]
        rfl
      · rw [isAtHand_append, phase.2]
        rfl
      · rw [phase.2, drainedBursts_append, List.length_append, ← counted, count]
        rfl
  | drops before phase count =>
      obtain ⟨unleft, same, -⟩ := balances.loop before.1
      have counted := balances.count
      rw [balances.isCutShort_eq before.1, before.2] at counted
      have cut : isCutShort (marks ++ [.drained ring.read.1 true, .left true]) = true := by
        rw [isCutShort_append unleft]
        rfl
      refine ⟨balances.ready_append (ready_of_drained rfl), ?_, .inr ⟨cut, ring.read.1, ?_⟩, ?_, ?_⟩
      · rw [cut, drainedBursts_append, List.length_append, ← counted, count]
        rfl
      · rw [drainedBursts_append, handedBursts_append, same, List.append_assoc]
        rfl
      · exact fun inside => absurd (phase.symm.trans inside) Bool.false_ne_true
      · exact fun _ _ _ => List.mem_append_right marks (List.mem_cons_of_mem _ List.mem_cons_self)
  | finishes before phase count =>
      obtain ⟨unleft, same, -⟩ := balances.loop before.1
      have counted := balances.count
      rw [balances.isCutShort_eq before.1, before.2] at counted
      refine balances_of_isInLoop phase.1 (balances.ready_append ?_) ?_ ?_ ?_ ?_
      · intro burst isReady member
        cases List.mem_singleton.mp member
      · exact List.forall_mem_append.mpr ⟨unleft, List.forall_mem_singleton.mpr rfl⟩
      · rw [drainedBursts_append, handedBursts_append, same]
        rfl
      · rw [isAtHand_append, phase.2]
        rfl
      · rw [phase.2, drainedBursts_append, List.length_append, ← counted, count]
        rfl
  | leaves before asked phase count =>
      obtain ⟨unleft, same, -⟩ := balances.loop before
      have cut : isCutShort (marks ++ [.left consumer.cancelled]) = isCutShort marks := by
        rw [isCutShort_append unleft, BurstMark.isCutShort_eq unleft]
        rfl
      refine ⟨balances.ready_append ?_, ?_, .inl ?_, ?_, ?_⟩
      · intro burst isReady member
        cases List.mem_singleton.mp member
      · rw [cut, drainedBursts_append, List.length_append, ← balances.count, count]
        rfl
      · rw [drainedBursts_append, handedBursts_append, same]
        rfl
      · exact fun inside => absurd (phase.symm.trans inside) Bool.false_ne_true
      · intro _ _ short
        rw [cut, balances.isCutShort_eq before] at short
        rw [asked short]
        exact List.mem_append_right marks List.mem_cons_self

/-- The ring is read once for each burst that is drained. -/
theorem Deal.tallies (deal : consumer.Deal ring after rest news) {places length reads : Nat}
    (tallies : Ring.Tallies places length ring reads) :
    Ring.Tallies places length rest (reads + (drainedBursts news).length) := by
  cases deal with
  | rests => exact tallies
  | hands => exact tallies.read
  | drops => exact tallies.read
  | finishes => exact tallies
  | leaves => exact tallies

theorem Balances.congr (balances : consumer.Balances marks)
    (phase : after.phase = consumer.phase) (pushed : after.pushed = consumer.pushed)
    (refused : after.refused = consumer.refused) : after.Balances marks where
  ready := balances.ready
  count := by rw [pushed, refused, balances.count]
  bursts := balances.bursts
  loop := phase ▸ balances.loop
  asked := phase ▸ balances.asked

/-- To abort the consumer changes nothing in its accounts. -/
theorem Balances.abort (balances : consumer.Balances marks)
    (phase : after.phase = .aborted) (pushed : after.pushed = consumer.pushed)
    (refused : after.refused = consumer.refused) : after.Balances marks where
  ready := balances.ready
  count := by rw [pushed, refused, balances.count]
  bursts := balances.bursts
  loop := by
    intro inside
    rw [phase] at inside
    cases inside
  asked := fun _ alive => absurd phase alive

end Consumer

namespace TransmitRun

variable {σ : Type} [SinkDevice σ]

/-- The counters of the consumer and of the ring agree with the marks. -/
structure Accounts (places length : Nat) (run : TransmitRun (ObservedSink σ))
    (marks : List BurstMark) : Prop where
  stands : run.path.consumer.Stands
  balances : run.path.consumer.Balances marks
  tallies : Ring.Tallies places length run.path.ring (drainedBursts marks).length

variable {places length : Nat} {run : TransmitRun (ObservedSink σ)} {marks : List BurstMark}

theorem happen_accounts (accounts : Accounts places length run marks)
    (happening : TransmitHappening σ) :
    Accounts places length (run.happen happening.observed)
      (marks ++ run.marksOf happening.observed) := by
  have stands := happen_stands accounts.stands happening
  have balances := accounts.balances
  have unmarked : ∀ {after : TransmitRun (ObservedSink σ)}, Accounts places length after marks →
      Accounts places length after (marks ++ []) :=
    fun accounts => (List.append_nil marks).symm ▸ accounts
  cases happening with
  | step task =>
      simp only [TransmitHappening.observed] at stands ⊢
      cases task with
      | caller =>
          refine unmarked ?_
          rcases run.happen_caller with same | ⟨phase, joined, rfl | rfl, same⟩ <;>
            rw [same] at stands ⊢
          · exact accounts
          · exact ⟨stands, balances.congr rfl rfl rfl, accounts.tallies⟩
          · exact ⟨stands, balances.abort rfl rfl rfl, accounts.tallies⟩
      | consumer =>
          rw [marksOf]
          rcases run.happen_consumer with same | ⟨consumer, ring, tuned, turn, same⟩ <;>
            rw [same] at stands ⊢
          · rw [Consumer.marksSince_self]
            exact unmarked accounts
          · have deal := turn.deal accounts.stands accounts.tallies.read_ne
            refine ⟨stands, deal.balances balances, ?_⟩
            rw [drainedBursts_append, List.length_append]
            exact deal.tallies accounts.tallies
  | wait millis => exact unmarked ⟨stands, balances, accounts.tallies⟩
  | write samples => exact unmarked ⟨stands, balances, accounts.tallies.write samples⟩
  | retune frequency =>
      refine unmarked ⟨stands, ?_, ?_⟩ <;>
        simp only [TransmitHappening.observed, happen, TransmitPath.retune, Consumer.retune]
      · repeat' split
        all_goals exact balances.congr rfl rfl rfl
      · split <;> exact accounts.tallies
  | change change => exact unmarked ⟨stands, balances.congr rfl rfl rfl, accounts.tallies⟩
  | shutdown millis =>
      refine unmarked ⟨stands, ?_, ?_⟩ <;> simp only [TransmitHappening.observed, happen]
      · split <;> exact balances.congr rfl rfl rfl
      · split <;> exact accounts.tallies
  | drop => exact unmarked ⟨stands, balances.congr rfl rfl rfl, accounts.tallies⟩

theorem afterAll_accounts (accounts : Accounts places length run marks)
    (happenings : List (TransmitHappening σ)) :
    Accounts places length (run.afterAll (happenings.map .observed))
      (marks ++ run.marks (happenings.map .observed)) := by
  induction happenings generalizing run marks with
  | nil =>
      rw [List.map_nil, TransmitRun.marks, List.append_nil]
      exact accounts
  | cons happening happenings ih =>
      have next := ih (happen_accounts accounts happening)
      rw [List.append_assoc] at next
      exact next

/-- The marks of a run of a path whose sink is watched. -/
def burstMarks (ring : Ring) (sink : σ) (backoff : Nat)
    (happenings : List (TransmitHappening σ)) : List BurstMark :=
  (spawn ring (ObservedSink.observe sink) backoff).marks (happenings.map .observed)

/-- **Every burst is accounted for.**  Whatever the sink does, and whenever
samples, requests and the shutdown come: once the consumer has ended by itself,
each burst was drained while the sink was ready; the bursts that were handed to
the sink are those that were drained, in their order, without at most the last
one if the consumer was stopped with a burst at hand; and the bursts that the
sink took and refused, with the burst at hand, are the bursts that the ring
counts as consumed and were not lost, and the reads that found none. -/
theorem bursts_are_accounted_for {places length : Nat} (two_le : 2 ≤ places)
    (length_pos : 0 < length) (sink : σ) (backoff : Nat)
    (happenings : List (TransmitHappening σ))
    (ended : ((spawn (.empty places length) sink backoff).afterAll
      happenings).path.consumer.phase = .ended) :
    let path := ((spawn (.empty places length) sink backoff).afterAll happenings).path
    let marks := burstMarks (.empty places length) sink backoff happenings
    (∀ burst isReady, .drained burst isReady ∈ marks → isReady = true) ∧
    (drainedBursts marks = handedBursts marks ∨
      isCutShort marks = true ∧ ∃ last, drainedBursts marks = handedBursts marks ++ [last]) ∧
    (isCutShort marks = true → .left true ∈ marks) ∧
    path.ring.overruns ≤ path.ring.consumed ∧
    path.consumer.pushed + path.consumer.refused + (isCutShort marks).toNat =
      (path.ring.consumed - path.ring.overruns) + path.ring.underruns := by
  intro path marks
  let start : TransmitRun (ObservedSink σ) :=
    spawn (.empty places length) (ObservedSink.observe sink) backoff
  have fresh : Accounts places length start [] :=
    ⟨rfl, Consumer.balances_of_isInLoop rfl (fun _ _ member => absurd member List.not_mem_nil)
      (fun _ member => absurd member List.not_mem_nil) rfl rfl rfl,
      Ring.Tallies.empty two_le length_pos⟩
  let final := watched (.empty places length) sink backoff happenings
  have accounts : Accounts places length final marks := afterAll_accounts fresh happenings
  have same := spawn_afterAll (.empty places length) sink backoff happenings
  have finished : final.path.consumer.phase = .ended := by
    rw [same] at ended
    exact ended
  have left : final.path.consumer.phase.isInLoop = false := by
    rw [finished]
    rfl
  have alive : final.path.consumer.phase ≠ .aborted := by
    rw [finished]
    exact ConsumerPhase.noConfusion
  have reached : path = final.unobserved.path := congrArg TransmitRun.path same
  rw [reached]
  have count : final.path.consumer.pushed + final.path.consumer.refused +
      (isCutShort marks).toNat =
        (final.path.ring.consumed - final.path.ring.overruns) + final.path.ring.underruns := by
    have balanced := accounts.balances.count
    have total := accounts.tallies.total
    have lost := accounts.tallies.lost
    omega
  exact ⟨accounts.balances.ready, accounts.balances.bursts, accounts.balances.asked left alive,
    accounts.tallies.lost, count⟩

/-- Three samples, a retune, a burst that the sink takes and one at which the
consumer is asked to stop. -/
def stoppedDuringBurst : List (TransmitHappening ScriptedSink) :=
  [.write [.silence, .silence, .silence], .retune (some 7074000)] ++
    List.replicate 6 (.step .consumer) ++ [.wait 1] ++ List.replicate 3 (.step .consumer) ++
    [.shutdown 1000] ++ List.replicate 2 (.step .consumer)

theorem stopped_burst_is_accounted_for :
    let path := ((spawn (Ring.empty 2 1) (ScriptedSink.unused .plain false) 1000000).afterAll
      stoppedDuringBurst).path
    let marks := burstMarks (Ring.empty 2 1) (ScriptedSink.unused .plain false) 1000000
      stoppedDuringBurst
    path.consumer.phase = .ended ∧ isCutShort marks = true ∧
      path.consumer.pushed + path.consumer.refused + (isCutShort marks).toNat =
        (path.ring.consumed - path.ring.overruns) + path.ring.underruns := by
  have ended : ((spawn (Ring.empty 2 1) (ScriptedSink.unused .plain false) 1000000).afterAll
      stoppedDuringBurst).path.consumer.phase = .ended := rfl
  have short : isCutShort (burstMarks (Ring.empty 2 1) (ScriptedSink.unused .plain false) 1000000
      stoppedDuringBurst) = true := by decide +kernel
  have accounted := bursts_are_accounted_for (Nat.le_refl 2) Nat.one_pos
    (ScriptedSink.unused .plain false) 1000000 stoppedDuringBurst ended
  exact ⟨ended, short, accounted.2.2.2.2⟩

end TransmitRun
end VirtualRadio
