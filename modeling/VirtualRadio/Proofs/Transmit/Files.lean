import VirtualRadio.Proofs.Sink.Files
import VirtualRadio.Proofs.Transmit.Operations

namespace VirtualRadio

/-!
# A tuner over a file

A tuner closes the file before it opens it once more, and a release closes it.
So whatever the order of retunes, bursts and releases is, the file ends up with
what was in it before and with every sample that was taken, in order and bit for
bit.
-/

namespace TunerCall

/-- Whether a call tunes the sink to a frequency at which it can transmit. -/
def tunes : TunerCall → Bool
  | retune frequency => frequency.any isTransmitFrequency
  | _ => false

/-- Whether the sink takes bursts after a call. -/
def leaves (ready : Bool) : TunerCall → Bool
  | retune frequency => ready || (retune frequency).tunes
  | push _ => ready
  | release => false

/-- The samples that the sink takes in a call. -/
def taken (ready : Bool) : TunerCall → List Sample
  | push burst => if ready then burst else []
  | _ => []

/-- Whether a call ends well.  Only a burst that is not taken is refused. -/
def succeeds (ready : Bool) : TunerCall → Bool
  | push _ => ready
  | _ => true

/-- The samples that the sink takes in calls one after the other. -/
def takenSamples (ready : Bool) : List TunerCall → List Sample
  | [] => []
  | call :: calls => call.taken ready ++ takenSamples (call.leaves ready) calls

/-- Which of some calls one after the other end well. -/
def successes (ready : Bool) : List TunerCall → List Bool
  | [] => []
  | call :: calls => call.succeeds ready :: successes (call.leaves ready) calls

end TunerCall

namespace Tuner

variable {σ : Type} [SinkDevice σ]

/-- Ask something of a tuner and wait for the end. -/
def perform (tuner : Tuner σ) (call : TunerCall) (now : Nat) :
    Tuner σ × Except Fault (Option UInt32) × Nat :=
  complete (tuner.begin call now) now

/-- Ask one thing after the other, each at some time. -/
def performAll (tuner : Tuner σ) :
    List (TunerCall × Nat) → Tuner σ × List (Except Fault (Option UInt32))
  | [] => (tuner, [])
  | (call, now) :: calls =>
    let (tuner, result, _) := tuner.perform call now
    let (tuner, results) := performAll tuner calls
    (tuner, result :: results)

theorem completeWithin_call_ok {tuner : Tuner σ} {request : SinkCall} {now : Nat}
    (ended : (SinkDevice.perform request now tuner.sink).2.1 = .ok ()) (task : TunerTask)
    (calls : Nat) :
    completeWithin (calls + 1) (tuner.call task request now) now =
      let (sink, _, time) := SinkDevice.perform request now tuner.sink
      match task with
      | .leaveFor hertz =>
        completeWithin calls (call ⟨sink, none⟩ (.tuneTo hertz) (.init hertz) time) time
      | .tuneTo hertz => (⟨sink, some hertz⟩, .ok (some hertz), time)
      | .release => (⟨sink, none⟩, .ok none, time)
      | .push => (⟨sink, tuner.tuned⟩, .ok none, time) := by
  have outcome : (SinkDevice.start request now tuner.sink).2.outcome = .ok () := ended
  simp only [completeWithin, call, resume, outcome]
  cases task with
  | leaveFor hertz => rfl
  | tuneTo hertz => cases calls <;> rfl
  | release => cases calls <;> rfl
  | push => cases calls <;> rfl

theorem completeWithin_call_error {tuner : Tuner σ} {request : SinkCall} {now : Nat}
    {fault : Fault} (ended : (SinkDevice.perform request now tuner.sink).2.1 = .error fault)
    (task : TunerTask) (calls : Nat) :
    completeWithin (calls + 1) (tuner.call task request now) now =
      let (sink, _, time) := SinkDevice.perform request now tuner.sink
      (⟨sink, tuner.tuned⟩, .error fault, time) := by
  have outcome : (SinkDevice.start request now tuner.sink).2.outcome = .error fault := ended
  simp only [completeWithin, call, resume, outcome]
  cases calls <;> rfl

variable {disk opened : Disk} {path : String} {name : List String} {made ready : Bool}
  {stored : List UInt8} {tuner : Tuner FileSink}

/-- What a call makes of a sink that has stored something: it ends well or is
refused, and the bytes of what is taken come to the end. -/
structure Stores (disk : Disk) (path : String) (name : List String) (stored : List UInt8)
    (made ready succeeds : Bool)
    (ended : Tuner FileSink × Except Fault (Option UInt32) × Nat) : Prop where
  stores : FileSink.Stores disk path name stored ended.1.sink made ready
  result : ended.2.1.isOk = succeeds

theorem tune_stores (opens : disk.openAppend path = .ok (name, opened))
    (stores : FileSink.Stores disk path name stored tuner.sink made false) (hertz : UInt32)
    (calls now : Nat) : Stores disk path name stored true true true
      (completeWithin (calls + 1) (tuner.call (.tuneTo hertz) (.init hertz) now) now) := by
  obtain ⟨ended, file⟩ := stores.init opens hertz now
  rw [completeWithin_call_ok ended]
  exact ⟨file, rfl⟩

theorem retune_stores (opens : disk.openAppend path = .ok (name, opened))
    (stores : FileSink.Stores disk path name stored tuner.sink made ready)
    (frequency : Option UInt32) (now : Nat) :
    Stores disk path name stored (made || frequency.any isTransmitFrequency)
      (ready || frequency.any isTransmitFrequency) true
      (tuner.perform (.retune frequency) now) := by
  have isReady : tuner.isReady = ready := stores.isReady
  cases frequency with
  | none =>
      rw [Option.any_none, Bool.or_false, Bool.or_false]
      exact ⟨stores, rfl⟩
  | some hertz =>
      rw [Option.any_some, perform, begin, retune, isReady]
      by_cases fits : isTransmitFrequency hertz = true
      · rw [if_pos fits, fits, Bool.or_true, Bool.or_true]
        cases ready with
        | false => exact tune_stores opens stores hertz 1 now
        | true =>
            rw [if_pos rfl]
            by_cases same : tuner.tuned = some hertz
            · rw [if_pos same]
              obtain rfl := stores.made_of_ready
              exact ⟨stores, rfl⟩
            · obtain ⟨ended, left⟩ := stores.deinit now
              rw [if_neg same, complete, completeWithin_call_ok ended]
              exact tune_stores opens left hertz 0 _
      · rw [if_neg fits, Bool.eq_false_iff.mpr fits, Bool.or_false, Bool.or_false]
        exact ⟨stores, rfl⟩

theorem release_stores (stores : FileSink.Stores disk path name stored tuner.sink made ready)
    (now : Nat) :
    Stores disk path name stored made false true (tuner.perform .release now) := by
  have isReady : tuner.isReady = ready := stores.isReady
  rw [perform, begin, release, isReady]
  cases ready with
  | false => exact ⟨stores, rfl⟩
  | true =>
      obtain ⟨ended, left⟩ := stores.deinit now
      obtain rfl := stores.made_of_ready
      rw [if_pos rfl, complete, completeWithin_call_ok ended]
      exact ⟨left, rfl⟩

theorem push_stores (stores : FileSink.Stores disk path name stored tuner.sink made ready)
    (burst : List Sample) (now : Nat) :
    Stores disk path name
      (stored ++ FileSink.burstBytes ((TunerCall.push burst).taken ready)) made ready ready
      (tuner.perform (.push burst) now) := by
  rw [perform, begin, push, complete]
  cases ready with
  | false =>
      obtain ⟨ended, kept⟩ := stores.push_refused burst now
      have nothing : stored ++ FileSink.burstBytes ((TunerCall.push burst).taken false) = stored :=
        List.append_nil stored
      rw [completeWithin_call_error ended, nothing]
      exact ⟨kept, rfl⟩
  | true =>
      obtain ⟨ended, more⟩ := stores.push burst now
      obtain rfl := stores.made_of_ready
      rw [completeWithin_call_ok ended]
      exact ⟨more, rfl⟩

/-- One call: the bytes of what is taken come to the end of what is stored. -/
theorem perform_stores (opens : disk.openAppend path = .ok (name, opened))
    (stores : FileSink.Stores disk path name stored tuner.sink made ready) (call : TunerCall)
    (now : Nat) :
    Stores disk path name (stored ++ FileSink.burstBytes (call.taken ready))
      (made || call.tunes) (call.leaves ready) (call.succeeds ready)
      (tuner.perform call now) := by
  have nothing : stored ++ FileSink.burstBytes [] = stored := List.append_nil stored
  cases call with
  | retune frequency => exact nothing.symm ▸ retune_stores opens stores frequency now
  | push burst => exact (Bool.or_false made).symm ▸ push_stores stores burst now
  | release => exact nothing.symm ▸ (Bool.or_false made).symm ▸ release_stores stores now

/-- Calls one after the other. -/
theorem performAll_stores (opens : disk.openAppend path = .ok (name, opened))
    (stores : FileSink.Stores disk path name stored tuner.sink made ready)
    (calls : List (TunerCall × Nat)) :
    let asked := calls.map Prod.fst
    FileSink.Stores disk path name
        (stored ++ FileSink.burstBytes (TunerCall.takenSamples ready asked))
        (tuner.performAll calls).1.sink (made || asked.any TunerCall.tunes)
        (asked.foldl TunerCall.leaves ready) ∧
      (tuner.performAll calls).2.map Except.isOk = TunerCall.successes ready asked := by
  induction calls generalizing tuner stored made ready with
  | nil =>
      have nothing : stored ++ FileSink.burstBytes [] = stored := List.append_nil stored
      exact ⟨nothing.symm ▸ (Bool.or_false made).symm ▸ stores, rfl⟩
  | cons call calls ih =>
      rcases call with ⟨call, now⟩
      have first := perform_stores opens stores call now
      obtain ⟨rest, results⟩ := ih first.stores
      rw [List.append_assoc, ← FileSink.burstBytes_append, Bool.or_assoc] at rest
      exact ⟨rest, congrArg₂ List.cons first.result results⟩

/-- **A file keeps every sample that is taken.**  Whatever a tuner over a file that
can be opened is asked for, one call after the other and the last a release, each
call ends well, but a burst that comes while the sink is not ready is refused.
The file ends up with what was in it before and the bytes of all other samples, in
order, and is left alone if the sink was never tuned.  All the time it holds a
part of that from the beginning on, and what was there before.  What comes after
that is read back as the same samples, bit for bit, and so is the whole file if it
consisted of samples before. -/
theorem file_keeps_taken_samples (disk : Disk) (path : String) (sampleRate : UInt32)
    {name : List String} {opened : Disk} (opens : disk.openAppend path = .ok (name, opened))
    (calls : List (TunerCall × Nat)) (last : Nat) :
    let asked := calls.map Prod.fst
    let run := (ofSink (FileSink.closed path sampleRate disk)).performAll calls
    let ended := run.1.perform .release last
    let before := disk.contents path
    let samples := TunerCall.takenSamples false asked
    let after := before ++ samples.flatMap Sample.fileBytes
    (run.2.map Except.isOk = TunerCall.successes false asked ∧ ended.2.1.isOk = true ∧
      run.1.isReady = asked.foldl TunerCall.leaves false) ∧
    (if asked.any TunerCall.tunes then ended.1.sink.disk.read path = .ok after
      else ended.1.sink.disk = disk ∧ samples = []) ∧
    (before <+: run.1.sink.disk.contents path ∧ run.1.sink.disk.contents path <+: after) ∧
    Sample.ofFileBytes (after.drop before.length) = samples ∧
    (8 ∣ before.length →
      Sample.ofFileBytes after = Sample.ofFileBytes before ++ samples) := by
  intro asked run ended before samples after
  have begins : FileSink.Stores disk path name before
      (ofSink (FileSink.closed path sampleRate disk)).sink false false :=
    .untouched rfl rfl rfl rfl
  obtain ⟨stores, results⟩ := performAll_stores opens begins calls
  have released := release_stores stores last
  have bytes : Sample.ofFileBytes (samples.flatMap Sample.fileBytes) = samples :=
    Sample.ofFileBytes_flatMap samples
  refine ⟨⟨results, released.result, stores.isReady⟩, ?_, stores.between, ?_, ?_⟩
  · have closed := released.stores.of_shut
    rw [Bool.false_or] at closed
    split at closed
    · next tuned => exact (if_pos tuned).mpr closed
    · next untuned =>
        refine (if_neg untuned).mpr ⟨closed.1, ?_⟩
        have none : samples.flatMap Sample.fileBytes = [] := List.self_eq_append_right.mp closed.2
        rw [← bytes, none]
        rfl
  · rw [List.drop_left, bytes]
  · rintro ⟨groups, whole⟩
    rw [Sample.ofFileBytes_append groups whole, bytes]

/-- A file is gone on with, at another frequency too; the last burst comes too
late. -/
theorem file_keeps_taken_samples_appended :
    let disk : Disk := ⟨[(["tx.cf32"], .file [1, 2, 3])]⟩
    let calls : List (TunerCall × Nat) :=
      [(.retune (some 7074000), 0), (.push [⟨⟨0x3F000000⟩, ⟨0xBE800000⟩⟩], 0),
        (.retune (some 14074000), 5), (.push [⟨⟨0x7FC00001⟩, .zero⟩], 9), (.release, 12),
        (.push [.silence], 13)]
    let run := (ofSink (FileSink.closed "tx.cf32" 48000 disk)).performAll calls
    disk.openAppend "tx.cf32" = .ok (["tx.cf32"], disk) ∧
      run.2.map Except.isOk = [true, true, true, true, true, false] ∧
      (run.1.perform .release 20).1.sink.disk.read "tx.cf32" = .ok
        [1, 2, 3, 0, 0, 0, 0x3F, 0, 0, 0x80, 0xBE, 1, 0, 0xC0, 0x7F, 0, 0, 0, 0] := by
  intro disk calls run
  have opens : disk.openAppend "tx.cf32" = .ok (["tx.cf32"], disk) := rfl
  have tuned : (calls.map Prod.fst).any TunerCall.tunes = true := by decide
  obtain ⟨⟨answers, -⟩, file, -⟩ :=
    file_keeps_taken_samples disk "tx.cf32" 48000 opens calls 20
  have stored : disk.contents "tx.cf32" ++
      (TunerCall.takenSamples false (calls.map Prod.fst)).flatMap Sample.fileBytes =
        [1, 2, 3, 0, 0, 0, 0x3F, 0, 0, 0x80, 0xBE, 1, 0, 0xC0, 0x7F, 0, 0, 0, 0] := by
    decide +kernel
  have runs : (ofSink (FileSink.closed "tx.cf32" 48000 disk)).performAll calls = run := rfl
  rw [if_pos tuned, stored, runs] at file
  exact ⟨opens, answers.trans (by decide), file⟩

end Tuner
end VirtualRadio
