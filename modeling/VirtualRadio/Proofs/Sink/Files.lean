import VirtualRadio.Proofs.Disk
import VirtualRadio.Proofs.Wire.Words
import VirtualRadio.Sink.File

namespace VirtualRadio

/-!
# What the file sink stores

The bytes in the file and those that wait for it make one run of bytes.  A burst
goes to its end, whichever part of it has to wait, and a release sends off all
that waits.  So a file that is opened once more goes on where it ended.
-/

namespace Sample

/-- The samples in the bytes of a file. -/
def ofFileBytes : List UInt8 → List Sample
  | i0 :: i1 :: i2 :: i3 :: q0 :: q1 :: q2 :: q3 :: rest =>
    ⟨⟨Word.ofBytes32 i3 i2 i1 i0⟩, ⟨Word.ofBytes32 q3 q2 q1 q0⟩⟩ :: ofFileBytes rest
  | _ => []

theorem ofFileBytes_fileBytes_append (sample : Sample) (rest : List UInt8) :
    ofFileBytes (sample.fileBytes ++ rest) = sample :: ofFileBytes rest := by
  have unfolded : ofFileBytes (sample.fileBytes ++ rest) =
      ⟨⟨Word.ofBytes32 (sample.i.bits >>> 24).toUInt8 (sample.i.bits >>> 16).toUInt8
        (sample.i.bits >>> 8).toUInt8 sample.i.bits.toUInt8⟩,
      ⟨Word.ofBytes32 (sample.q.bits >>> 24).toUInt8 (sample.q.bits >>> 16).toUInt8
        (sample.q.bits >>> 8).toUInt8 sample.q.bits.toUInt8⟩⟩ :: ofFileBytes rest := rfl
  rw [unfolded, Word.ofBytes32_bytes, Word.ofBytes32_bytes]

/-- Samples come out of a file bit for bit as they went in. -/
theorem ofFileBytes_flatMap (samples : List Sample) :
    ofFileBytes (samples.flatMap fileBytes) = samples := by
  induction samples with
  | nil => rfl
  | cons sample samples ih => rw [List.flatMap_cons, ofFileBytes_fileBytes_append, ih]

/-- Whole samples that were there before are read as they were. -/
theorem ofFileBytes_append (groups : Nat) {earlier : List UInt8}
    (whole : earlier.length = 8 * groups) (later : List UInt8) :
    ofFileBytes (earlier ++ later) = ofFileBytes earlier ++ ofFileBytes later := by
  induction groups generalizing earlier with
  | zero =>
      rw [List.eq_nil_of_length_eq_zero whole]
      rfl
  | succ groups ih =>
      match earlier, whole with
      | _ :: _ :: _ :: _ :: _ :: _ :: _ :: _ :: earlier, whole =>
          have shorter : earlier.length = 8 * groups := by
            simp only [List.length_cons] at whole
            omega
          simp only [List.cons_append, ofFileBytes, ih shorter]

end Sample

namespace Appender

theorem write_name (appender : Appender) (bytes : List UInt8) (disk : Disk) :
    (appender.write bytes disk).1.name = appender.name := by
  unfold write
  dsimp only
  split <;> rfl

/-- A write sends off or keeps back, but neither loses nor reorders. -/
theorem write_holds {disk : Disk} {path : String} {appender : Appender} {held : List UInt8}
    (holds : disk.Holds path appender.name held) (bytes : List UInt8) :
    ∃ after, (appender.write bytes disk).2.Holds path appender.name after ∧
      held <+: after ∧
      after ++ (appender.write bytes disk).1.pending = held ++ appender.pending ++ bytes := by
  have sent := holds.append appender.pending
  unfold write
  by_cases overflows : appender.pending.length + bytes.length > bufferSize
  · by_cases large : bytes.length ≥ bufferSize
    · simp only [overflows, large, decide_true, if_true]
      exact ⟨_, sent.append bytes, ⟨_, (List.append_assoc ..).symm⟩, List.append_nil _⟩
    · simp only [overflows, large, decide_true, if_true, if_false]
      exact ⟨_, sent, ⟨_, rfl⟩, by rw [List.nil_append]⟩
  · by_cases large : bytes.length ≥ bufferSize
    · -- A burst that fills the buffer by itself fits only where nothing waits.
      have empty : appender.pending = [] := List.eq_nil_of_length_eq_zero (by omega)
      simp only [overflows, large, decide_false, Bool.false_eq_true, if_true, if_false]
      rw [empty, List.append_nil]
      exact ⟨_, holds.append bytes, ⟨_, rfl⟩, List.append_nil _⟩
    · simp only [overflows, large, decide_false, Bool.false_eq_true, if_false]
      exact ⟨_, holds, List.prefix_rfl, (List.append_assoc ..).symm⟩

end Appender

namespace FileSink

theorem burstBytes_append (burst later : List Sample) :
    burstBytes (burst ++ later) = burstBytes burst ++ burstBytes later :=
  List.flatMap_append

/-- What a sink has stored, with the disk as it was at first.  The flags tell
whether the file was opened at all, and whether it is open. -/
inductive Stores (disk : Disk) (path : String) (name : List String) (stored : List UInt8)
    (sink : FileSink) : Bool → Bool → Prop where
  /-- Nothing was opened. -/
  | untouched (located : sink.path = path) (shut : sink.writer = none) (same : sink.disk = disk)
      (before : disk.contents path = stored) : Stores disk path name stored sink false false
  /-- All is in the file. -/
  | closed (located : sink.path = path) (shut : sink.writer = none)
      (holds : sink.disk.Holds path name stored) (grown : disk.contents path <+: stored) :
      Stores disk path name stored sink true false
  /-- What is not in the file waits for it. -/
  | opened (writer : Appender) (held : List UInt8) (located : sink.path = path)
      (opens : sink.writer = some writer) (named : writer.name = name)
      (holds : sink.disk.Holds path name held) (grown : disk.contents path <+: held)
      (all : held ++ writer.pending = stored) :
      Stores disk path name stored sink true true

variable {disk opened : Disk} {path : String} {name : List String} {made ready : Bool}
  {stored : List UInt8} {sink : FileSink}

namespace Stores

theorem located (stores : Stores disk path name stored sink made ready) : sink.path = path := by
  cases stores <;> assumption

theorem made_of_ready (stores : Stores disk path name stored sink made true) : made = true := by
  cases stores
  rfl

theorem shut (stores : Stores disk path name stored sink made false) : sink.writer = none := by
  cases stores <;> assumption

theorem isReady (stores : Stores disk path name stored sink made ready) :
    SinkDevice.isReady sink = ready := by
  cases stores with
  | untouched _ shut => exact congrArg Option.isSome shut
  | closed _ shut => exact congrArg Option.isSome shut
  | opened _ _ _ opens => exact congrArg Option.isSome opens

/-- What was in the file before is the beginning of all that is stored. -/
theorem grown (stores : Stores disk path name stored sink made ready) :
    disk.contents path <+: stored := by
  cases stores with
  | untouched _ _ _ before => exact before ▸ List.prefix_rfl
  | closed _ _ _ grown => exact grown
  | opened _ _ _ _ _ _ grown all => exact grown.trans ⟨_, all⟩

/-- The file itself lies between what was in it before and all that is stored. -/
theorem between (stores : Stores disk path name stored sink made ready) :
    disk.contents path <+: sink.disk.contents path ∧ sink.disk.contents path <+: stored := by
  cases stores with
  | untouched _ _ same before =>
      rw [same, before]
      exact ⟨List.prefix_rfl, List.prefix_rfl⟩
  | closed _ _ holds grown =>
      rw [holds.contents]
      exact ⟨grown, List.prefix_rfl⟩
  | opened _ _ _ _ _ holds grown all =>
      rw [holds.contents]
      exact ⟨grown, ⟨_, all⟩⟩

/-- A file that is not open can be opened, and then holds all that is stored. -/
theorem openAppend (opens : disk.openAppend path = .ok (name, opened))
    (stores : Stores disk path name stored sink made false) :
    ∃ file, sink.disk.openAppend sink.path = .ok (name, file) ∧
      file.Holds path name stored := by
  rw [stores.located]
  cases stores with
  | untouched _ _ same before =>
      rw [same, ← before]
      exact ⟨opened, opens, Disk.holds_of_openAppend opens⟩
  | closed _ _ holds _ => exact ⟨sink.disk, holds.openAppend, holds⟩

/-- A sink that is closed again has all in the file; one that never was open has
left the disk alone. -/
theorem of_shut (stores : Stores disk path name stored sink made false) :
    if made then sink.disk.read path = .ok stored
    else sink.disk = disk ∧ disk.contents path = stored := by
  cases stores with
  | untouched _ _ same before => exact ⟨same, before⟩
  | closed _ _ holds _ => exact holds.read

/-- An initialization opens the file at its end. -/
theorem init (opens : disk.openAppend path = .ok (name, opened))
    (stores : Stores disk path name stored sink made false) (hertz : UInt32) (now : Nat) :
    (SinkDevice.perform (.init hertz) now sink).2.1 = .ok () ∧
      Stores disk path name stored (SinkDevice.perform (.init hertz) now sink).1 true true := by
  rcases stores.openAppend opens with ⟨file, reopened, holds⟩
  simp only [SinkDevice.perform, SinkDevice.start, start, reopened]
  exact ⟨rfl, .opened ⟨name, []⟩ stored stores.located rfl rfl holds stores.grown
    (List.append_nil _)⟩

/-- A release sends off all that waits, and closes the file. -/
theorem deinit (stores : Stores disk path name stored sink made true) (now : Nat) :
    (SinkDevice.perform .deinit now sink).2.1 = .ok () ∧
      Stores disk path name stored (SinkDevice.perform .deinit now sink).1 true false := by
  cases stores with
  | opened writer held located opens named holds grown all =>
      have flushed := holds.append writer.pending
      rw [all, ← named] at flushed
      simp only [SinkDevice.perform, SinkDevice.start, start, opens]
      exact ⟨rfl, .closed located rfl (named ▸ flushed) (grown.trans ⟨_, all⟩)⟩

/-- A burst goes to the end of what is stored. -/
theorem push (stores : Stores disk path name stored sink made true) (burst : List Sample)
    (now : Nat) :
    (SinkDevice.perform (.push burst) now sink).2.1 = .ok () ∧
      Stores disk path name (stored ++ burstBytes burst)
        (SinkDevice.perform (.push burst) now sink).1 true true := by
  cases stores with
  | opened writer held located opens named holds grown all =>
      subst named
      obtain ⟨after, kept, longer, rest⟩ := Appender.write_holds holds (burstBytes burst)
      rw [all] at rest
      simp only [SinkDevice.perform, SinkDevice.start, start, opens]
      exact ⟨trivial, .opened _ after located rfl (writer.write_name _ _) kept (grown.trans longer)
        rest⟩

/-- A sink that is not ready refuses bursts. -/
theorem push_refused (stores : Stores disk path name stored sink made false)
    (burst : List Sample) (now : Nat) :
    (SinkDevice.perform (.push burst) now sink).2.1 = .error .sinkNotReady ∧
      Stores disk path name stored (SinkDevice.perform (.push burst) now sink).1 made false := by
  simp only [SinkDevice.perform, SinkDevice.start, start, stores.shut]
  exact ⟨rfl, stores⟩

end Stores
end FileSink
end VirtualRadio
