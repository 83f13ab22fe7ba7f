import VirtualRadio.Control.Layout

namespace VirtualRadio

/-!
# Which page carries which register

The keying bit is on every block.  Every other register that is stored has one
page, and a block on that page carries it once.  So blocks on different pages
never write the same register.  Page 10 leaves out the enabling of the first
receiver's attenuator if it carries the combined gain.
-/

namespace Register

/-- The page that carries a register.  The keying bit, which is on every block,
has none. -/
def page? : Register → Option Nat
  | ptt => none
  | sampleRate | ref10Mhz | src122Mhz | pmConfig | micSource | txClassE | openCollector
  | alexAttenuator | preamp | dither | random | alexRxAntenna | alexRxOut | alexTxRelay | duplex
  | receivers | micTimestamp | commonMercuryFreq => some 0
  | txFrequency => some 1
  | rxFrequency receiver => if receiver < 7 then some (receiver + 2) else none
  | txDrive | hermesConfig | alexManualFilters | vnaMode | alexHpf | alexBypass | lna6m
  | alexTrDisable | alexLpf => some 9
  | adcPreamp converter => if converter < 4 then some 10 else none
  | tipRing | micBias | micPtt | lineGain | mercuryTxAtt0 | pureSignal | penelopeSelect | metisDb9
  | mercuryTxAtt1 | rx1AttEnable => some 10
  | rxAttenuator receiver => if receiver < 2 then some (receiver + 10) else none
  | cwReversed | cwSpeed | cwMode | cwWeight | cwSpacing => some 11
  | c25ExtBoardData => some 12
  | rxAdc receiver => if receiver < 7 then some 14 else none
  | txAttenuator => some 14
  | cwInternal | sidetoneVolume | cwDelay => some 15
  | cwHangTime | sidetoneFreq => some 16

theorem mem_inSlotOrder {register : Register} (stored : register.slot?.isSome = true) :
    register ∈ inSlotOrder := by
  rcases Option.isSome_iff_exists.mp stored with ⟨slot, owns⟩
  exact List.mem_of_getElem? (getElem?_inSlotOrder owns)

theorem isSome_slot?_of_page? {register : Register} {page : Nat}
    (paged : register.page? = some page) : register.slot?.isSome = true := by
  cases register <;> simp_all [page?, slot?, rowSlot]

end Register

namespace Layout

/-- The registers that a block carries, in order. -/
def blockRegisters (block : ControlBlock) : List Register :=
  (blockFields block).map Field.register

theorem blockRegisters_eq (block : ControlBlock) :
    blockRegisters block = .ptt :: ((pageFields block.page block).1.map Field.register ++
      (pageFields block.page block).2.map Field.register) := by
  rw [blockRegisters, blockFields, List.map_cons, List.map_append]
  rfl

variable {page : Nat} {block : ControlBlock} {register : Register}

theorem page?_of_mem_pageFields
    (carried : register ∈ (pageFields page block).1.map Field.register ++
      (pageFields page block).2.map Field.register) : register.page? = some page := by
  revert register
  unfold pageFields
  split
  case h_11 => split <;> decide
  case h_17 => exact fun carried => absurd carried List.not_mem_nil
  all_goals decide

theorem nodup_pageFields (page : Nat) (block : ControlBlock) :
    ((pageFields page block).1.map Field.register ++
      (pageFields page block).2.map Field.register).Nodup := by
  unfold pageFields
  split
  case h_11 => split <;> decide
  all_goals decide

theorem page?_lt (paged : register.page? = some page) : page < 17 ∧ page ≠ 13 := by
  have known : ∀ other ∈ Register.inSlotOrder, ∀ place ∈ other.page?, place < 17 ∧ place ≠ 13 := by
    decide
  exact known register (Register.mem_inSlotOrder (Register.isSome_slot?_of_page? paged)) page paged

theorem mem_pageFields_of_page? (paged : register.page? = some page)
    (given : register = .rx1AttEnable → hasCombinedGain block = false) :
    register ∈ (pageFields page block).1.map Field.register ++
      (pageFields page block).2.map Field.register := by
  have listed := Register.mem_inSlotOrder (Register.isSome_slot?_of_page? paged)
  have known := page?_lt paged
  unfold pageFields
  split
  case h_11 =>
    split
    · next combined =>
        have left : register ≠ .rx1AttEnable := by
          intro same
          rw [given same] at combined
          contradiction
        clear given
        revert register
        decide
    · clear given
      revert register
      decide
  case h_17 => grind
  all_goals
    clear given
    revert register
    decide

/-- A register is on every block or on those that address its page; the enabling
of the first receiver's attenuator gives way to the combined gain. -/
theorem mem_blockRegisters_iff : register ∈ blockRegisters block ↔
    register = .ptt ∨ (register.page? = some block.page ∧
      (register = .rx1AttEnable → hasCombinedGain block = false)) := by
  rw [blockRegisters_eq, List.mem_cons]
  apply or_congr_right
  constructor
  · intro carried
    refine ⟨page?_of_mem_pageFields carried, ?_⟩
    rintro rfl
    have tenth : block.page = 10 := (Option.some.inj (page?_of_mem_pageFields carried)).symm
    cases combined : hasCombinedGain block with
    | false => rfl
    | true =>
        simp only [tenth, pageFields, combined, if_true] at carried
        revert carried
        decide
  · intro paged
    exact mem_pageFields_of_page? paged.1 paged.2

theorem nodup_blockRegisters (block : ControlBlock) : (blockRegisters block).Nodup := by
  rw [blockRegisters_eq, List.nodup_cons]
  refine ⟨?_, nodup_pageFields block.page block⟩
  intro carried
  have paged := page?_of_mem_pageFields carried
  contradiction

theorem isSome_slot?_of_mem (carried : register ∈ blockRegisters block) :
    register.slot?.isSome = true := by
  rcases mem_blockRegisters_iff.mp carried with rfl | ⟨paged, _⟩
  · rfl
  · exact Register.isSome_slot?_of_page? paged

end Layout
end VirtualRadio
