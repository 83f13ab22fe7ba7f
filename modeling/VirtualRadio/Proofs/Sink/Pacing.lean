import VirtualRadio.Sink.Bundled

namespace VirtualRadio

/-!
# The pace of bursts back to back

A burst that is handed over when the one before it returned comes too late: the
wait for the one before ended at a whole millisecond, which is not before its
end.  So the schedule of a sink always lies in the past, every burst begins when
it comes, and its own wait is rounded up once more.

The roundings add up.  The bursts return later than they would on one schedule
by all whole milliseconds in the sum of their roundings.
-/

namespace Clock

/-- What rounding a wait of some length up to whole milliseconds adds to it. -/
def rounding (span : Nat) : Nat :=
  nanos (ceilMillis span) - span

theorem nanos_ceilMillis_eq (span : Nat) : nanos (ceilMillis span) = span + rounding span :=
  (Nat.add_sub_cancel' (le_nanos_ceilMillis span)).symm

theorem ceilMillis_nanos_add (millis span : Nat) :
    ceilMillis (nanos millis + span) = millis + ceilMillis span := by
  simp only [ceilMillis, nanos, nanosPerMilli]
  omega

end Clock

namespace Pace

/-- The time that bursts span one after the other. -/
def spans (sampleRate : UInt32) : List (List Sample) → Nat
  | [] => 0
  | burst :: bursts => span sampleRate burst.length + spans sampleRate bursts

/-- The waits for bursts one after the other, in milliseconds. -/
def waits (sampleRate : UInt32) : List (List Sample) → Nat
  | [] => 0
  | burst :: bursts => Clock.ceilMillis (span sampleRate burst.length) + waits sampleRate bursts

/-- What rounding adds to the waits for bursts one after the other. -/
def roundings (sampleRate : UInt32) : List (List Sample) → Nat
  | [] => 0
  | burst :: bursts => Clock.rounding (span sampleRate burst.length) + roundings sampleRate bursts

/-- When the last of some bursts ends on a schedule that begins at `start`: at the
first millisecond that is not before all their spans. -/
def scheduledEnd (sampleRate : UInt32) (start : Nat) (bursts : List (List Sample)) : Nat :=
  Clock.ceilMillis (Clock.nanos start + spans sampleRate bursts)

theorem nanos_waits (sampleRate : UInt32) (bursts : List (List Sample)) :
    Clock.nanos (waits sampleRate bursts) =
      spans sampleRate bursts + roundings sampleRate bursts := by
  induction bursts with
  | nil => exact Nat.zero_mul _
  | cons burst bursts ih =>
      rw [waits, spans, roundings, Clock.nanos_add, ih, Clock.nanos_ceilMillis_eq]
      omega

/-- Every whole millisecond of rounding is one that the bursts end behind their
schedule. -/
theorem add_waits_eq (sampleRate : UInt32) (start : Nat) (bursts : List (List Sample)) :
    start + waits sampleRate bursts =
      scheduledEnd sampleRate start bursts + roundings sampleRate bursts / Clock.nanosPerMilli := by
  have rounded := nanos_waits sampleRate bursts
  simp only [scheduledEnd, Clock.ceilMillis, Clock.nanos, Clock.nanosPerMilli] at rounded ⊢
  omega

variable (sampleRate : UInt32) (number : Nat) (burst : List Sample)

theorem spans_replicate :
    spans sampleRate (List.replicate number burst) = number * span sampleRate burst.length := by
  induction number with
  | zero => exact (Nat.zero_mul _).symm
  | succ number ih => rw [List.replicate_succ, spans, ih, Nat.succ_mul, Nat.add_comm]

theorem waits_replicate :
    waits sampleRate (List.replicate number burst) =
      number * Clock.ceilMillis (span sampleRate burst.length) := by
  induction number with
  | zero => exact (Nat.zero_mul _).symm
  | succ number ih => rw [List.replicate_succ, waits, ih, Nat.succ_mul, Nat.add_comm]

/-- On a schedule that has passed a burst begins when it comes. -/
theorem burstEnd_of_past {pace : Pace} {now : Nat}
    (past : ∀ last, pace.next = some last → last ≤ Clock.nanos now) (samples : Nat) :
    pace.burstEnd samples now = Clock.nanos now + span pace.sampleRate samples := by
  have late : pace.next.getD 0 ≤ Clock.nanos now := by
    cases next : pace.next with
    | none => exact Nat.zero_le _
    | some last => exact past last next
  rw [burstEnd, Nat.max_eq_right late]

end Pace

/-- Hand bursts over back to back, each at the time at which the one before it
returned: the sink after them, and how and when each returned. -/
def SinkDevice.pushAll {σ : Type} [SinkDevice σ] (now : Nat) (sink : σ) :
    List (List Sample) → σ × List (Except Fault Unit × Nat)
  | [] => (sink, [])
  | burst :: bursts =>
    let (sink, outcome, returned) := perform (.push burst) now sink
    let (sink, later) := pushAll returned sink bursts
    (sink, (outcome, returned) :: later)

namespace BundledSink

/-- The schedule of a sink. -/
def pace : BundledSink → Pace
  | discard sink => sink.pace
  | file sink => sink.pace

/-- A sink that takes bursts and whose schedule lies in the past. -/
structure IsFree (sampleRate : UInt32) (now : Nat) (sink : BundledSink) : Prop where
  ready : SinkDevice.isReady sink = true
  rate : sink.pace.sampleRate = sampleRate
  past : ∀ last, sink.pace.next = some last → last ≤ Clock.nanos now

variable {sink : BundledSink} {sampleRate : UInt32} {now : Nat}

/-- A sink that was initialized has no schedule yet. -/
theorem isFree_of_init {hertz : UInt32} {earlier : Nat}
    (initialized : (SinkDevice.perform (.init hertz) earlier sink).2.1.isOk = true) (now : Nat) :
    (SinkDevice.perform (.init hertz) earlier sink).1.IsFree sink.pace.sampleRate now := by
  cases sink with
  | discard sink => exact ⟨rfl, rfl, fun _ next => by cases next⟩
  | file sink =>
      cases opened : sink.disk.openAppend sink.path with
      | error fault =>
          simp only [SinkDevice.perform, SinkDevice.start, start, FileSink.start, opened]
            at initialized
          contradiction
      | ok file =>
          simp only [SinkDevice.perform, SinkDevice.start, start, FileSink.start, opened]
          exact ⟨rfl, rfl, fun _ next => by cases next⟩

/-- A burst returns at the end of its own wait, and the schedule lies in the past
again then. -/
theorem IsFree.push (free : sink.IsFree sampleRate now) (burst : List Sample) :
    ∃ after, SinkDevice.perform (.push burst) now sink =
      (after, .ok (), now + Clock.ceilMillis (Pace.span sampleRate burst.length)) ∧
      after.IsFree sampleRate (now + Clock.ceilMillis (Pace.span sampleRate burst.length)) := by
  have due := Pace.burstEnd_of_past free.past burst.length
  rw [free.rate] at due
  have returned : max now (Clock.ceilMillis (sink.pace.burstEnd burst.length now)) =
      now + Clock.ceilMillis (Pace.span sampleRate burst.length) := by
    rw [due, Clock.ceilMillis_nanos_add]
    exact Nat.max_eq_right (Nat.le_add_right _ _)
  have past : sink.pace.burstEnd burst.length now ≤
      Clock.nanos (now + Clock.ceilMillis (Pace.span sampleRate burst.length)) := by
    rw [due, Clock.nanos_add]
    exact Nat.add_le_add_left (Clock.le_nanos_ceilMillis _) _
  rw [← returned] at past ⊢
  have ready := free.ready
  cases sink with
  | discard sink =>
      rcases sink with ⟨pace, _ | hertz⟩
      · contradiction
      · exact ⟨_, rfl, rfl, free.rate, fun _ next => by cases next; exact past⟩
  | file sink =>
      rcases sink with ⟨path, pace, disk, _ | writer⟩
      · contradiction
      · exact ⟨_, rfl, rfl, free.rate, fun _ next => by cases next; exact past⟩

/-- The returns of bursts back to back, each with the bursts up to it. -/
theorem IsFree.pushAll (free : sink.IsFree sampleRate now) (bursts : List (List Sample)) :
    (SinkDevice.pushAll now sink bursts).2.length = bursts.length ∧
      ∀ number < bursts.length, (SinkDevice.pushAll now sink bursts).2[number]? =
        some (.ok (), now + Pace.waits sampleRate (bursts.take (number + 1))) := by
  induction bursts generalizing sink now with
  | nil => exact ⟨rfl, fun _ none => absurd none (Nat.not_lt_zero _)⟩
  | cons burst bursts ih =>
      obtain ⟨after, pushed, again⟩ := free.push burst
      obtain ⟨size, returns⟩ := ih again
      simp only [SinkDevice.pushAll, pushed]
      refine ⟨congrArg Nat.succ size, ?_⟩
      intro number bounded
      cases number with
      | zero =>
          rw [List.getElem?_cons_zero, List.take_succ_cons, List.take_zero, Pace.waits,
            Pace.waits, Nat.add_zero]
      | succ number =>
          rw [List.getElem?_cons_succ, returns number (Nat.lt_of_succ_lt_succ bounded),
            List.take_succ_cons, Pace.waits, Nat.add_assoc]

/-- **The roundings of waits back to back add up.**  Bursts that are handed over
to an initialized sink, the first at any time and each later one when the one
before it returned, are all taken.  Each returns behind the schedule that begins
with the first of them, by all whole milliseconds in the sum of the roundings of
the waits up to its own: at its time on the schedule exactly as long as this sum
is less than a millisecond. -/
theorem bursts_return_behind_schedule (sink : BundledSink) (hertz : UInt32) (earlier : Nat)
    (initialized : (SinkDevice.perform (.init hertz) earlier sink).2.1.isOk = true)
    (start : Nat) (bursts : List (List Sample)) :
    let ready := (SinkDevice.perform (.init hertz) earlier sink).1
    let sampleRate := sink.pace.sampleRate
    let returns := (SinkDevice.pushAll start ready bursts).2
    returns.length = bursts.length ∧
    ∀ number < bursts.length, ∃ time,
      let pushed := bursts.take (number + 1)
      let scheduled := Pace.scheduledEnd sampleRate start pushed
      let roundings := Pace.roundings sampleRate pushed
      returns[number]? = some (.ok (), time) ∧
      time = start + Pace.waits sampleRate pushed ∧
      time = scheduled + roundings / Clock.nanosPerMilli ∧
      (time = scheduled ↔ roundings < Clock.nanosPerMilli) := by
  intro ready sampleRate returns
  have free : ready.IsFree sampleRate start := isFree_of_init initialized start
  obtain ⟨size, each⟩ := free.pushAll bursts
  refine ⟨size, ?_⟩
  intro number bounded
  have behind := Pace.add_waits_eq sampleRate start (bursts.take (number + 1))
  refine ⟨_, each number bounded, rfl, behind, ?_⟩
  rw [behind, Nat.add_eq_left, Nat.div_eq_zero_iff_lt (by decide)]

/-- At 48 kHz 126 samples span 2.625 milliseconds. -/
theorem span_short : Pace.span 48000 126 = 2625000 := by decide +kernel

/-- Bursts of 2.625 milliseconds take three each: the third returns a millisecond
late. -/
theorem third_burst_returns_late :
    let bursts := List.replicate 3 (List.replicate 126 Sample.silence)
    let ready := (SinkDevice.perform (.init 7074000) 0 (discard (.idle 48000))).1
    (SinkDevice.pushAll 0 ready bursts).2[2]? = some (.ok (), 9) ∧
      Pace.scheduledEnd 48000 0 bursts = 8 := by
  intro bursts ready
  have initialized :
      (SinkDevice.perform (.init 7074000) 0 (discard (.idle 48000))).2.1.isOk = true := rfl
  have free : ready.IsFree 48000 0 := isFree_of_init initialized 0
  have third := (free.pushAll bursts).2 2 (by decide)
  have whole : bursts.take (2 + 1) = bursts := by rw [List.take_replicate]; rfl
  rw [whole, Pace.waits_replicate, List.length_replicate, span_short] at third
  refine ⟨third, ?_⟩
  rw [Pace.scheduledEnd, Pace.spans_replicate, List.length_replicate, span_short]
  decide

theorem bursts_return_behind_schedule_file :
    let bursts := List.replicate 3 (List.replicate 126 Sample.silence)
    let sink := file (.closed "tx.cf32" 48000 .empty)
    (SinkDevice.perform (.init 7074000) 5 sink).2.1.isOk = true ∧
    ∃ time,
      (SinkDevice.pushAll 7 (SinkDevice.perform (.init 7074000) 5 sink).1 bursts).2[2]? =
        some (.ok (), time) ∧
      time = 16 ∧ Pace.scheduledEnd 48000 7 bursts = 15 := by
  intro bursts sink
  have initialized : (SinkDevice.perform (.init 7074000) 5 sink).2.1.isOk = true := rfl
  obtain ⟨time, returned, waited, -⟩ :=
    (bursts_return_behind_schedule sink 7074000 5 initialized 7 bursts).2 2 (by decide)
  refine ⟨initialized, time, returned, waited.trans ?_, ?_⟩
  · have whole : bursts.take (2 + 1) = bursts := by rw [List.take_replicate]; rfl
    have rate : sink.pace.sampleRate = 48000 := rfl
    rw [whole, rate, Pace.waits_replicate, List.length_replicate, span_short]
    decide
  · rw [Pace.scheduledEnd, Pace.spans_replicate, List.length_replicate, span_short]
    decide

end BundledSink
end VirtualRadio
