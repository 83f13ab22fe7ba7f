import VirtualRadio.Proofs.Control.Writes

namespace VirtualRadio

/-!
# The bank as a map

A bank is a flat table, and a register finds its place there through the base of
its row and its index.  Seen from outside it is a map: every register that the
radio has holds the value written to it last, whatever was written elsewhere.
Registers with an index that the radio does not have hold nothing.

What makes it one is that the registers in range and the slots of the table
correspond one to one.
-/

namespace Register

/-- Whether the radio has the receiver or the converter that a register is about. -/
def isInRange : Register → Bool
  | rxFrequency receiver => receiver < 7
  | adcPreamp converter => converter < 4
  | rxAttenuator receiver => receiver < 2
  | rxAdc receiver => receiver < 7
  | _ => true

theorem isSome_rowSlot {first count index : Nat} (fits : first + count ≤ slotCount) :
    (rowSlot first count index fits).isSome = decide (index < count) := by
  unfold rowSlot
  split
  · next inRow => exact (decide_eq_true inRow).symm
  · next beyond => exact (decide_eq_false beyond).symm

/-- The registers that own a slot are those in range. -/
theorem isSome_slot? (register : Register) : register.slot?.isSome = register.isInRange := by
  cases register with
  | rxFrequency receiver => exact isSome_rowSlot (by decide)
  | adcPreamp converter => exact isSome_rowSlot (by decide)
  | rxAttenuator receiver => exact isSome_rowSlot (by decide)
  | rxAdc receiver => exact isSome_rowSlot (by decide)
  | _ => rfl

theorem slot?_of_not_isInRange {register : Register} (beyond : register.isInRange = false) :
    register.slot? = none := by
  apply Option.not_isSome_iff_eq_none.mp
  rw [isSome_slot?, beyond]
  exact Bool.false_ne_true

/-- Every slot has exactly one owner. -/
theorem existsUnique_owner (slot : Fin slotCount) :
    ∃! register : Register, register.slot? = some slot := by
  have listed : (inSlotOrder.map slot?)[slot.val]? = some (some slot) := by
    rw [slots_inSlotOrder]
    simp
  rw [List.getElem?_map] at listed
  obtain ⟨register, -, owns⟩ := Option.map_eq_some_iff.mp listed
  exact ⟨register, owns, fun other too => eq_of_slot? too owns⟩

end Register

/-- The value written to a register last is that of the last write to it. -/
theorem lastWritten?_eq_getLast? (register : Register) (writes : List (Register × Int)) :
    lastWritten? register writes =
      ((writes.filter (fun write => write.1 = register)).getLast?).map Prod.snd := by
  induction writes with
  | nil => rfl
  | cons write writes ih =>
      rw [lastWritten?, ih, List.filter_cons]
      by_cases same : write.1 = register
      · rw [if_pos same, if_pos (decide_eq_true same), List.getLast?_cons]
        cases (writes.filter (fun write => write.1 = register)).getLast? <;> rfl
      · rw [if_neg same, if_neg (by simpa using same), Option.or_none]

namespace RegisterBank

/-- After any writes to a new bank, a register in range holds the value of the last
write to it, and any other register holds nothing.  The next write to a register in
range reports the value held and the new one if they differ; to any other register
it does nothing.  The registers in range have one slot each, and the slots lie
inside the table and are shared by no two registers. -/
theorem holds_last_writes (writes : List (Register × Int)) :
    let bank := (Decoder.writeAll .empty writes).1
    (∀ register, bank.get? register =
      if register.isInRange then
        ((writes.filter (fun write => write.1 = register)).getLast?).map Prod.snd
      else none) ∧
    (∀ register value, register.isInRange = true → (bank.set register value).2 =
      if bank.get? register = some value then none
      else some ⟨register, bank.get? register, value⟩) ∧
    (∀ register value, register.isInRange = false → bank.set register value = (bank, none)) ∧
    (∀ register : Register, register.slot?.isSome = register.isInRange) ∧
    ∀ slot : Fin Register.slotCount, slot.val < bank.slots.toArray.size ∧
      ∃! register : Register, register.slot? = some slot := by
  intro bank
  refine ⟨?_, ?_, ?_, Register.isSome_slot?, ?_⟩
  · intro register
    cases inRange : register.isInRange with
    | false => exact get?_of_slotless bank (Register.slot?_of_not_isInRange inRange)
    | true =>
        have stored : register.slot?.isSome = true := by
          rw [Register.isSome_slot?, inRange]
        calc bank.get? register
            = (lastWritten? register writes).or (empty.get? register) :=
              Decoder.get?_writeAll stored empty writes
          _ = lastWritten? register writes := by rw [get?_empty, Option.or_none]
          _ = _ := lastWritten?_eq_getLast? register writes
  · intro register value inRange
    rw [set_change?, Register.isSome_slot?, inRange]
    by_cases same : bank.get? register = some value <;> simp [same]
  · intro register value beyond
    exact set_of_slotless bank (Register.slot?_of_not_isInRange beyond) value
  · intro slot
    refine ⟨?_, Register.existsUnique_owner slot⟩
    rw [Vector.size_toArray]
    exact slot.isLt

end RegisterBank
end VirtualRadio
