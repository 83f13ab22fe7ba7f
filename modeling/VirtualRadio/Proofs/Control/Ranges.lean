import VirtualRadio.Proofs.Control.Registers

namespace VirtualRadio

/-!
# What a field can express

A field is a few bits of a block, so its values lie in a range that its rule
tells.  Every value that blocks leave in a bank lies in the range of a field of
its register; the wired converters of a C25 board do so too.  So each register
has a range, which is tabled here.
-/

namespace Extraction

/-- The least value that a rule can read. -/
def least : Extraction → Int
  | bits _ _ _ offset => offset
  | inverted _ mask base => base - mask.toNat
  | word => 0
  | joined _ _ _ _ => 0

/-- The greatest value that a rule can read. -/
def greatest : Extraction → Int
  | bits _ mask shift offset => (mask.toNat >>> shift : Nat) + offset
  | inverted _ _ base => base
  | word => 4294967295
  | joined _ highShift _ _ => (256 <<< highShift : Nat) - 1

/-- Whether the high byte of a rule that joins two stays within a signed word. -/
def Fits : Extraction → Prop
  | joined _ highShift _ _ => highShift < 55
  | _ => True

instance : DecidablePred Fits := by
  intro rule
  cases rule <;> unfold Fits <;> infer_instance

theorem and_toNat_le (byte mask : UInt8) : (byte &&& mask).toNat ≤ mask.toNat := by
  rw [UInt8.toNat_and]
  exact Nat.and_le_right

theorem joined_lt (high low mask : UInt8) (highShift : Nat) :
    (high.toNat <<< highShift) ||| (low &&& mask).toNat < 256 <<< highShift := by
  have top : high.toNat <<< highShift < 256 <<< highShift := by
    rw [Nat.shiftLeft_eq, Nat.shiftLeft_eq]
    exact Nat.mul_lt_mul_of_pos_right high.toNat_lt (Nat.two_pow_pos highShift)
  have bottom : (low &&& mask).toNat < 256 <<< highShift := by
    rw [Nat.shiftLeft_eq]
    exact Nat.lt_of_lt_of_le (low &&& mask).toNat_lt
      (Nat.le_mul_of_pos_right 256 (Nat.two_pow_pos highShift))
  have power : 256 <<< highShift = 1 <<< (8 + highShift) := by
    rw [Nat.shiftLeft_add]
    rfl
  rw [power, Nat.one_shiftLeft] at top bottom ⊢
  exact Nat.or_lt_two_pow top bottom

theorem apply_bounds {rule : Extraction} (fits : rule.Fits) (block : ControlBlock) :
    rule.least ≤ rule.apply block ∧ rule.apply block ≤ rule.greatest := by
  cases rule with
  | bits byte mask shift offset =>
      have low : (block.byte byte &&& mask).toNat >>> shift ≤ mask.toNat >>> shift := by
        rw [Nat.shiftRight_eq_div_pow, Nat.shiftRight_eq_div_pow]
        exact Nat.div_le_div_right (and_toNat_le _ _)
      unfold least greatest apply
      simp only
      generalize (block.byte byte &&& mask).toNat >>> shift = read at low ⊢
      generalize mask.toNat >>> shift = full at low ⊢
      omega
  | inverted byte mask base =>
      have low := and_toNat_le (block.byte byte) mask
      unfold least greatest apply
      simp only
      omega
  | word =>
      have first := block.c1.toNat_lt
      have second := block.c2.toNat_lt
      have third := block.c3.toNat_lt
      have fourth := block.c4.toNat_lt
      unfold least greatest apply
      simp only
      omega
  | joined high highShift low lowMask =>
      have small := joined_lt (block.byte high) (block.byte low) lowMask highShift
      have room : 256 <<< highShift ≤ 256 <<< 54 := by
        rw [Nat.shiftLeft_eq, Nat.shiftLeft_eq]
        exact Nat.mul_le_mul_left 256 (Nat.pow_le_pow_right Nat.two_pos (Nat.le_of_lt_succ fits))
      have wide : (256 <<< 54 : Nat) = 4611686018427387904 := rfl
      have signed : UInt64.size = 18446744073709551616 := rfl
      unfold least greatest apply
      simp only
      generalize 256 <<< highShift = bound at small room ⊢
      rw [Int.bmod_eq_of_le] <;> omega

end Extraction

namespace Layout

/-- Every field of every page, in both forms of page 10. -/
def fields : List Field :=
  [keying] ++ general ++ [.word .txFrequency]
    ++ (List.range 7).map (fun receiver => .word (.rxFrequency receiver))
    ++ driveAndFilters ++ preampsAndMicrophone ++ combinedGain ++ plainAttenuator
    ++ attenuatorAndKeyer ++ extensionBoard ++ converters ++ keyingTimes ++ hangTimeAndSidetone

theorem mem_fields_of_mem_blockFields {block : ControlBlock} {field : Field}
    (carried : field ∈ blockFields block) : field ∈ fields := by
  rw [blockFields] at carried
  rcases List.mem_cons.mp carried with rfl | paged
  · decide
  · clear carried
    revert field
    unfold pageFields
    split
    case h_11 => split <;> decide
    case h_17 => exact fun paged => absurd paged List.not_mem_nil
    all_goals decide

end Layout

/-- Whether a field of a register can express a value. -/
def Register.Admits (register : Register) (value : Int) : Prop :=
  ∃ field ∈ Layout.fields, field.register = register ∧
    field.extraction.least ≤ value ∧ value ≤ field.extraction.greatest

/-- The least and the greatest value that control blocks can give to a register. -/
def Register.range : Register → Int × Int
  | ptt | src122Mhz | micSource | txClassE | preamp | dither | random | alexRxOut | duplex
  | micTimestamp | commonMercuryFreq | alexManualFilters | vnaMode | alexBypass | lna6m
  | alexTrDisable | adcPreamp _ | tipRing | micBias | micPtt | mercuryTxAtt0 | pureSignal
  | penelopeSelect | mercuryTxAtt1 | rx1AttEnable | cwReversed | cwSpacing | cwInternal => (0, 1)
  | sampleRate | ref10Mhz | pmConfig | alexAttenuator | alexRxAntenna | alexTxRelay | cwMode
  | rxAdc _ => (0, 3)
  | receivers => (1, 8)
  | metisDb9 => (0, 15)
  | alexHpf | lineGain | txAttenuator => (0, 31)
  | hermesConfig | cwSpeed => (0, 63)
  | openCollector | cwWeight => (0, 127)
  | txDrive | alexLpf | sidetoneVolume | cwDelay => (0, 255)
  | cwHangTime => (0, 1023)
  | sidetoneFreq => (0, 4095)
  | c25ExtBoardData => (0, 65535)
  | txFrequency | rxFrequency _ => (0, 4294967295)
  | rxAttenuator 0 => (-26, 37)
  | rxAttenuator _ => (0, 31)

namespace Register

/-- Every field of a register lies in its range. -/
theorem range_covers : ∀ field ∈ Layout.fields,
    field.register.range.1 ≤ field.extraction.least ∧
      field.extraction.greatest ≤ field.register.range.2 := by
  decide

/-- What a field of a register can express lies in the range of the register. -/
theorem Admits.range {register : Register} {value : Int} (admits : register.Admits value) :
    register.range.1 ≤ value ∧ value ≤ register.range.2 := by
  rcases admits with ⟨field, member, rfl, low, high⟩
  have within := range_covers field member
  exact ⟨Int.le_trans within.1 low, Int.le_trans high within.2⟩

end Register

/-- Whether every value in a bank is one that a field of its register can
express. -/
def RegisterBank.InRange (bank : RegisterBank) : Prop :=
  ∀ register value, bank.get? register = some value → register.Admits value

namespace RegisterBank

theorem inRange_empty : empty.InRange := by
  intro register value found
  rw [get?_empty] at found
  contradiction

/-- A register that has a default in its range is read in its range. -/
theorem InRange.getD {bank : RegisterBank} (inRange : bank.InRange) (register : Register)
    (fallback : Int) (fits : register.range.1 ≤ fallback ∧ fallback ≤ register.range.2) :
    register.range.1 ≤ bank.getD register fallback ∧
      bank.getD register fallback ≤ register.range.2 := by
  rw [RegisterBank.getD]
  rcases held : bank.get? register with _ | value
  · exact fits
  · exact (inRange register value held).range

end RegisterBank

namespace Decoder

variable {decoder : Decoder} {register : Register} {block : ControlBlock} {radio : Radio}

theorem admits_of_carried? {value : Int}
    (carried : decoder.carried? register block = some value) : register.Admits value := by
  rw [carried?, Option.or_eq_some_iff] at carried
  rcases carried with wired | ⟨_, read⟩
  · unfold wired? at wired
    split at wired
    · split at wired
      all_goals cases wired
      all_goals
        unfold Register.Admits
        decide
    · contradiction
  · rcases Option.map_eq_some_iff.mp read with ⟨field, found, rfl⟩
    have member := Layout.mem_fields_of_mem_blockFields (List.mem_of_find?_eq_some found)
    have same : field.register = register := by simpa using List.find?_some found
    have fits : ∀ other ∈ Layout.fields, other.extraction.Fits := by decide
    exact ⟨field, member, same, Extraction.apply_bounds (fits field member) block⟩

theorem inRange_decodeBlock (decoder : Decoder) (block : ControlBlock)
    (inRange : radio.bank.InRange) : (decoder.decodeBlock radio block).1.bank.InRange := by
  intro register value found
  rw [get?_decodeBlock, Option.or_eq_some_iff] at found
  rcases found with carried | ⟨_, kept⟩
  · exact admits_of_carried? carried
  · exact inRange register value kept

end Decoder
end VirtualRadio
