import Mathlib.Logic.Function.Basic
import VirtualRadio.Control.Radio

namespace VirtualRadio

/-!
# Writing registers

A bank that is written register by register holds the last value written to
each.  The changes it reports on the way are a record of what happened to it:
whoever knew the bank before, and notes them down one after the other, finds
every old value as he has it and ends with the values of the bank.
-/

/-- What an observer has noted of the registers. -/
abbrev Notebook := Register → Option Int

namespace Notebook

/-- Note a change, if its old value is the one that was noted. -/
def note? (notebook : Notebook) (change : RegisterChange) : Option Notebook :=
  if notebook change.register = change.old then
    some (Function.update notebook change.register (some change.new))
  else
    none

/-- Note changes one after the other. -/
def replay? (notebook : Notebook) (changes : List RegisterChange) : Option Notebook :=
  changes.foldlM note? notebook

variable {notebook middle after : Notebook} {changes later : List RegisterChange}

theorem replay?_append (first : notebook.replay? changes = some middle) :
    notebook.replay? (changes ++ later) = middle.replay? later := by
  unfold replay? at first ⊢
  rw [List.foldlM_append, first]
  rfl

/-- Registers that no change is about are as they were. -/
theorem eq_of_replay? (replayed : notebook.replay? changes = some after) {register : Register}
    (unnamed : register ∉ changes.map RegisterChange.register) :
    after register = notebook register := by
  induction changes generalizing notebook with
  | nil =>
      cases replayed
      rfl
  | cons change changes ih =>
      rw [List.map_cons, List.mem_cons, not_or] at unnamed
      rw [replay?, List.foldlM_cons, note?] at replayed
      split at replayed
      · rw [ih replayed unnamed.2, Function.update_of_ne unnamed.1]
      · contradiction

end Notebook

namespace RegisterBank

variable {register : Register}

/-- A write to a register that is stored is an update of what the bank holds. -/
theorem get?_set (bank : RegisterBank) (stored : register.slot?.isSome = true) (value : Int) :
    (bank.set register value).1.get? = Function.update bank.get? register (some value) := by
  funext other
  by_cases same : other = register
  · subst same
    rw [get?_set_self bank stored, Function.update_self]
  · rw [get?_set_of_ne bank same, Function.update_of_ne same]

/-- What becomes of a bank, and a faithful record of it: noting the changes down
leads from the old values to the new ones, and each of them is one. -/
structure Recorded (before : RegisterBank) (changes : List RegisterChange)
    (after : RegisterBank) : Prop where
  replayed : Notebook.replay? before.get? changes = some after.get?
  changed : ∀ change ∈ changes, change.old ≠ some change.new

theorem Recorded.refl (bank : RegisterBank) : Recorded bank [] bank :=
  ⟨rfl, fun _ member => absurd member List.not_mem_nil⟩

theorem Recorded.append {before middle after : RegisterBank}
    {changes later : List RegisterChange} (first : Recorded before changes middle)
    (second : Recorded middle later after) : Recorded before (changes ++ later) after := by
  constructor
  · rw [Notebook.replay?_append first.replayed]
    exact second.replayed
  · intro change member
    rcases List.mem_append.mp member with early | late
    · exact first.changed change early
    · exact second.changed change late

/-- The change that a write reports, if any, is a record of it. -/
theorem set_recorded (bank : RegisterBank) (register : Register) (value : Int) :
    Recorded bank (bank.set register value).2.toList (bank.set register value).1 := by
  rcases owns : register.slot? with _ | slot
  · rw [set_of_slotless bank owns]
    exact .refl bank
  · by_cases same : bank.get? register = some value
    · rw [set_of_slot? bank owns, if_pos same]
      exact .refl bank
    · have stored : register.slot?.isSome = true := by rw [owns]; rfl
      rw [set_change?, if_pos ⟨stored, same⟩]
      constructor
      · rw [get?_set bank stored]
        simp [Notebook.replay?, Notebook.note?]
      · intro change member
        cases List.mem_singleton.mp member
        exact same

end RegisterBank

/-- The value that is written to a register last. -/
def lastWritten? (register : Register) : List (Register × Int) → Option Int
  | [] => none
  | (written, value) :: writes =>
    (lastWritten? register writes).or (if written = register then some value else none)

theorem lastWritten?_append (register : Register) (writes later : List (Register × Int)) :
    lastWritten? register (writes ++ later) =
      (lastWritten? register later).or (lastWritten? register writes) := by
  induction writes with
  | nil => simp [lastWritten?]
  | cons write writes ih => simp [lastWritten?, ih, Option.or_assoc]

theorem lastWritten?_eq_none_iff {register : Register} {writes : List (Register × Int)} :
    lastWritten? register writes = none ↔ register ∉ writes.map Prod.fst := by
  induction writes with
  | nil => simp [lastWritten?]
  | cons write writes ih =>
      rw [lastWritten?, Option.or_eq_none_iff, ih, List.map_cons, List.mem_cons, not_or]
      simp [eq_comm, and_comm]

namespace Decoder

theorem get?_writeAll {register : Register} (stored : register.slot?.isSome = true)
    (bank : RegisterBank) (writes : List (Register × Int)) :
    (writeAll bank writes).1.get? register =
      (lastWritten? register writes).or (bank.get? register) := by
  induction writes generalizing bank with
  | nil => rfl
  | cons write writes ih =>
      rw [writeAll, lastWritten?]
      simp only [ih, Option.or_assoc]
      congr 1
      by_cases same : write.1 = register
      · rw [if_pos same, same, RegisterBank.get?_set_self bank stored]
        rfl
      · rw [if_neg same, RegisterBank.get?_set_of_ne bank (Ne.symm same)]
        rfl

/-- The changes of several writes are a record of all of them. -/
theorem writeAll_recorded (bank : RegisterBank) (writes : List (Register × Int)) :
    RegisterBank.Recorded bank (writeAll bank writes).2 (writeAll bank writes).1 := by
  induction writes generalizing bank with
  | nil => exact .refl bank
  | cons write writes ih =>
      rw [writeAll]
      exact (bank.set_recorded write.1 write.2).append (ih _)

/-- Only registers that are written are reported. -/
theorem mem_of_writeAll {bank : RegisterBank} {writes : List (Register × Int)}
    {change : RegisterChange} (reported : change ∈ (writeAll bank writes).2) :
    change.register ∈ writes.map Prod.fst := by
  induction writes generalizing bank with
  | nil => contradiction
  | cons write writes ih =>
      rw [writeAll] at reported
      rcases List.mem_append.mp reported with now | later
      · simp only [RegisterBank.set_change?] at now
        split at now
        · cases List.mem_singleton.mp now
          exact List.mem_cons_self
        · contradiction
      · exact List.mem_cons_of_mem _ (ih later)

theorem decodeBlock_recorded (decoder : Decoder) (radio : Radio) (block : ControlBlock) :
    RegisterBank.Recorded radio.bank (decoder.decodeBlock radio block).2
      (decoder.decodeBlock radio block).1.bank :=
  writeAll_recorded radio.bank (decoder.writes block)

/-- A frame of full length is never refused: its two blocks are decoded one after
the other. -/
theorem decodeFrame_eq_ok (decoder : Decoder) (radio : Radio) {frame : List UInt8}
    (whole : frame.length = Packet.frameLength) :
    let first := decoder.decodeBlock radio (ControlFrame.blockAt frame 11)
    let second := decoder.decodeBlock first.1 (ControlFrame.blockAt frame 523)
    decoder.decodeFrame radio frame = .ok (second.1, first.2 ++ second.2) := by
  simp only [decodeFrame, ControlFrame.blocks, ControlFrame.requireLength, if_pos whole]
  rfl

theorem decodeFrame_recorded {decoder : Decoder} {radio after : Radio} {frame : List UInt8}
    {changes : List RegisterChange} (whole : frame.length = Packet.frameLength)
    (decoded : decoder.decodeFrame radio frame = .ok (after, changes)) :
    RegisterBank.Recorded radio.bank changes after.bank := by
  rw [decodeFrame_eq_ok decoder radio whole] at decoded
  cases decoded
  exact (decoder.decodeBlock_recorded radio _).append (decoder.decodeBlock_recorded _ _)

end Decoder
end VirtualRadio
