import Mathlib.Data.List.Destutter
import VirtualRadio.Proofs.Control.Readings
import VirtualRadio.Proofs.Control.Reports
import VirtualRadio.Proofs.Wire.Words

namespace VirtualRadio

/-!
# The changes of one register over many blocks

Blocks that are decoded one after the other give a register its values in order.
What they report of it are these values without the ones that it held already,
so for a new radio: the values without repeats.

The transmit frequency is the word on page 1.  Nothing else writes it, and a
word is neither cut nor changed on its way through the register.
-/

namespace Register

variable {register : Register}

theorem changes_append (register : Register) (held : Option Int) (values later : List Int) :
    register.changes held (values ++ later) =
      register.changes held values ++ register.changes (values.getLast?.or held) later := by
  induction values generalizing held with
  | nil => rfl
  | cons value values ih =>
      rw [List.cons_append, changes, changes, ih, List.append_assoc, List.getLast?_cons,
        Option.or_some, Option.some_or]

theorem destutter'_eq (register : Register) (held : Int) (values : List Int) :
    values.destutter' (· ≠ ·) held =
      held :: (register.changes (some held) values).map RegisterChange.new := by
  induction values generalizing held with
  | nil => rfl
  | cons value values ih =>
      by_cases same : held = value
      · subst same
        rw [List.destutter'_cons_neg _ (not_not.mpr rfl), ih, changes, if_pos rfl]
        rfl
      · have other : some held ≠ some value := fun held => same (Option.some.inj held)
        rw [List.destutter'_cons_pos _ same, ih, changes, if_neg other]
        rfl

/-- A register without a value reports its new values, without repeats. -/
theorem new_changes (register : Register) (values : List Int) :
    (register.changes none values).map RegisterChange.new = values.destutter (· ≠ ·) := by
  cases values with
  | nil => rfl
  | cons value values =>
      rw [List.destutter_cons', register.destutter'_eq]
      rfl

end Register

/-- The transmit frequency that a block carries: the word on page 1. -/
def ControlBlock.transmitFrequency? (block : ControlBlock) : Option UInt32 :=
  if block.page = 1 then
    some (Word.ofBytes32 block.c1 block.c2 block.c3 block.c4)
  else
    none

namespace Decoder

/-- Decode blocks one after the other, and report all changes in order. -/
def decodeAll (decoder : Decoder) (radio : Radio) :
    List ControlBlock → Radio × List RegisterChange
  | [] => (radio, [])
  | block :: blocks =>
    let (radio, changes) := decoder.decodeBlock radio block
    let (radio, later) := decodeAll decoder radio blocks
    (radio, changes ++ later)

/-- The values that a block gives to a register, in order. -/
def blockValues (decoder : Decoder) (register : Register) (block : ControlBlock) : List Int :=
  (fieldValue? register block).toList ++ (decoder.wired? register block).toList

theorem decodeAll_append (decoder : Decoder) (radio : Radio)
    (blocks later : List ControlBlock) : decoder.decodeAll radio (blocks ++ later) =
      let first := decoder.decodeAll radio blocks
      let second := decoder.decodeAll first.1 later
      (second.1, first.2 ++ second.2) := by
  induction blocks generalizing radio with
  | nil => rfl
  | cons block blocks ih =>
      simp only [List.cons_append, decodeAll, ih, List.append_assoc]

/-- A frame is its two blocks, one after the other. -/
theorem decodeFrame_eq_decodeAll (decoder : Decoder) (radio : Radio) {frame : List UInt8}
    (whole : frame.length = Packet.frameLength) :
    decoder.decodeFrame radio frame =
      .ok (decoder.decodeAll radio (ControlFrame.blockList frame)) := by
  rw [decodeFrame_eq_ok decoder radio whole]
  simp only [ControlFrame.blockList, decodeAll, List.append_nil]

/-- The last of the values that a block gives to a register stays. -/
theorem carried?_eq_getLast? (decoder : Decoder) (register : Register) (block : ControlBlock) :
    decoder.carried? register block = (decoder.blockValues register block).getLast? := by
  rw [carried?, ← fieldValue?, blockValues, List.getLast?_append]
  cases decoder.wired? register block <;> cases fieldValue? register block <;> rfl

theorem changesOf_decodeAll (decoder : Decoder) (radio : Radio) (blocks : List ControlBlock)
    (register : Register) : changesOf register (decoder.decodeAll radio blocks).2 =
      register.changes (radio.bank.get? register)
        (blocks.flatMap (decoder.blockValues register)) := by
  induction blocks generalizing radio with
  | nil => rfl
  | cons block blocks ih =>
      rw [decodeAll, changesOf, List.filter_append, ← changesOf, ← changesOf, ih,
        changesOf_decodeBlock, ← blockValues, get?_decodeBlock, carried?_eq_getLast?,
        List.flatMap_cons, Register.changes_append]

/-! ## The transmit frequency -/

theorem fieldValue?_txFrequency (block : ControlBlock) :
    fieldValue? .txFrequency block =
      block.transmitFrequency?.map (fun frequency => (frequency.toNat : Int)) := by
  unfold ControlBlock.transmitFrequency?
  split
  · next first =>
      have fields : Layout.blockFields block = [Layout.keying, .word .txFrequency] := by
        rw [Layout.blockFields, first]
        rfl
      rw [fieldValue?, fields, Option.map_some, Word.toNat_ofBytes32]
      rfl
  · next other =>
      rw [fieldValue?, Option.map_none, Option.map_eq_none_iff, List.find?_eq_none]
      intro field member named
      have carried : Register.txFrequency ∈ Layout.blockRegisters block :=
        List.mem_map.mpr ⟨field, member, of_decide_eq_true named⟩
      rcases Layout.mem_blockRegisters_iff.mp carried with keying | paged
      · contradiction
      · exact other (Option.some.inj paged.1).symm

theorem blockValues_txFrequency (decoder : Decoder) (block : ControlBlock) :
    decoder.blockValues .txFrequency block =
      (block.transmitFrequency?.map (fun frequency => (frequency.toNat : Int))).toList := by
  have unwired : decoder.wired? .txFrequency block = none := by
    unfold wired?
    split <;> rfl
  rw [blockValues, fieldValue?_txFrequency, unwired]
  exact List.append_nil _

theorem flatMap_blockValues_txFrequency (decoder : Decoder) (blocks : List ControlBlock) :
    blocks.flatMap (decoder.blockValues .txFrequency) =
      (blocks.filterMap ControlBlock.transmitFrequency?).map
        (fun frequency => (frequency.toNat : Int)) := by
  induction blocks with
  | nil => rfl
  | cons block blocks ih =>
      rw [List.flatMap_cons, ih, blockValues_txFrequency, List.filterMap_cons]
      cases block.transmitFrequency? <;> rfl

/-- A word comes out of the register as it went in. -/
theorem ofInt_toNat_word (word : UInt32) : UInt32.ofInt (word.toNat : Int) = word := by
  have bound := word.toNat_lt
  apply UInt32.toNat_inj.mp
  apply Int.natCast_inj.mp
  exact RegisterBank.toNat_ofInt_word (Int.natCast_nonneg _) (by omega)

/-- The transmit frequencies that a new radio reports: those on the blocks, without
repeats. -/
theorem reported_frequencies (decoder : Decoder) (blocks : List ControlBlock) :
    (changesOf .txFrequency (decoder.decodeAll .initial blocks).2).map
        (fun change => UInt32.ofInt change.new) =
      (blocks.filterMap ControlBlock.transmitFrequency?).destutter (· ≠ ·) := by
  let asInt : UInt32 → Int := fun frequency => frequency.toNat
  have injective : Function.Injective asInt :=
    fun _ _ same => UInt32.toNat_inj.mp (Int.natCast_inj.mp same)
  have begins : Radio.initial.bank.get? .txFrequency = none := RegisterBank.get?_empty _
  have news := Register.new_changes .txFrequency
    ((blocks.filterMap ControlBlock.transmitFrequency?).map asInt)
  rw [← List.map_destutter_ne _ injective] at news
  have cut : UInt32.ofInt ∘ asInt = id := funext ofInt_toNat_word
  rw [changesOf_decodeAll, flatMap_blockValues_txFrequency, begins]
  change List.map (UInt32.ofInt ∘ RegisterChange.new) _ = _
  rw [← List.map_map, news, List.map_map, cut, List.map_id]

end Decoder
end VirtualRadio
