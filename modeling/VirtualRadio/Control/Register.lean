namespace VirtualRadio

/-!
# Control registers

A register is one setting of the radio that a host writes through control
blocks.  Registers that exist once per receiver or per converter carry a
zero-based index.  A register whose index is in range owns a storage slot;
no two registers share one, so a bank of values can be a flat table.
-/

/-- One setting of the radio. -/
inductive Register where
  | ptt
  | sampleRate
  | ref10Mhz
  | src122Mhz
  | pmConfig
  | micSource
  | txClassE
  | openCollector
  | alexAttenuator
  | preamp
  | dither
  | random
  | alexRxAntenna
  | alexRxOut
  | alexTxRelay
  | duplex
  | receivers
  | micTimestamp
  | commonMercuryFreq
  | txFrequency
  | rxFrequency (receiver : Nat)
  | txDrive
  | hermesConfig
  | alexManualFilters
  | vnaMode
  | alexHpf
  | alexBypass
  | lna6m
  | alexTrDisable
  | alexLpf
  | adcPreamp (converter : Nat)
  | tipRing
  | micBias
  | micPtt
  | lineGain
  | mercuryTxAtt0
  | pureSignal
  | penelopeSelect
  | metisDb9
  | mercuryTxAtt1
  | rxAttenuator (receiver : Nat)
  | rx1AttEnable
  | cwReversed
  | cwSpeed
  | cwMode
  | cwWeight
  | cwSpacing
  | c25ExtBoardData
  | rxAdc (receiver : Nat)
  | txAttenuator
  | cwInternal
  | sidetoneVolume
  | cwDelay
  | cwHangTime
  | sidetoneFreq
  deriving DecidableEq, Repr, Inhabited

namespace Register

/-- The slots of a bank. -/
abbrev slotCount : Nat := 71

/-- The slot of entry `index` in a row of `count` slots that starts at `first`.
An index beyond the row has no slot. -/
def rowSlot (first count index : Nat) (fits : first + count ≤ slotCount) :
    Option (Fin slotCount) :=
  if inRow : index < count then some ⟨first + index, by omega⟩ else none

/-- The storage slot of a register, if its index is in range. -/
def slot? : Register → Option (Fin slotCount)
  | ptt => some 0
  | sampleRate => some 1
  | ref10Mhz => some 2
  | src122Mhz => some 3
  | pmConfig => some 4
  | micSource => some 5
  | txClassE => some 6
  | openCollector => some 7
  | alexAttenuator => some 8
  | preamp => some 9
  | dither => some 10
  | random => some 11
  | alexRxAntenna => some 12
  | alexRxOut => some 13
  | alexTxRelay => some 14
  | duplex => some 15
  | receivers => some 16
  | micTimestamp => some 17
  | commonMercuryFreq => some 18
  | txFrequency => some 19
  | rxFrequency receiver => rowSlot 20 7 receiver (by decide)
  | txDrive => some 27
  | hermesConfig => some 28
  | alexManualFilters => some 29
  | vnaMode => some 30
  | alexHpf => some 31
  | alexBypass => some 32
  | lna6m => some 33
  | alexTrDisable => some 34
  | alexLpf => some 35
  | adcPreamp converter => rowSlot 36 4 converter (by decide)
  | tipRing => some 40
  | micBias => some 41
  | micPtt => some 42
  | lineGain => some 43
  | mercuryTxAtt0 => some 44
  | pureSignal => some 45
  | penelopeSelect => some 46
  | metisDb9 => some 47
  | mercuryTxAtt1 => some 48
  | rxAttenuator receiver => rowSlot 49 2 receiver (by decide)
  | rx1AttEnable => some 51
  | cwReversed => some 52
  | cwSpeed => some 53
  | cwMode => some 54
  | cwWeight => some 55
  | cwSpacing => some 56
  | c25ExtBoardData => some 57
  | rxAdc receiver => rowSlot 58 7 receiver (by decide)
  | txAttenuator => some 65
  | cwInternal => some 66
  | sidetoneVolume => some 67
  | cwDelay => some 68
  | cwHangTime => some 69
  | sidetoneFreq => some 70

/-- Every register that owns a slot, in slot order. -/
def inSlotOrder : List Register :=
  [ptt, sampleRate, ref10Mhz, src122Mhz, pmConfig, micSource, txClassE, openCollector,
    alexAttenuator, preamp, dither, random, alexRxAntenna, alexRxOut, alexTxRelay, duplex,
    receivers, micTimestamp, commonMercuryFreq, txFrequency]
  ++ (List.range 7).map rxFrequency
  ++ [txDrive, hermesConfig, alexManualFilters, vnaMode, alexHpf, alexBypass, lna6m,
    alexTrDisable, alexLpf]
  ++ (List.range 4).map adcPreamp
  ++ [tipRing, micBias, micPtt, lineGain, mercuryTxAtt0, pureSignal, penelopeSelect, metisDb9,
    mercuryTxAtt1]
  ++ (List.range 2).map rxAttenuator
  ++ [rx1AttEnable, cwReversed, cwSpeed, cwMode, cwWeight, cwSpacing, c25ExtBoardData]
  ++ (List.range 7).map rxAdc
  ++ [txAttenuator, cwInternal, sidetoneVolume, cwDelay, cwHangTime, sidetoneFreq]

/-- Listing the registers by slot misses none and repeats none. -/
theorem slots_inSlotOrder :
    inSlotOrder.map slot? = (List.finRange slotCount).map some := by
  decide +kernel

theorem getElem?_row (register : Nat → Register) {first count index : Nat}
    (fits : first + count ≤ slotCount) {slot : Fin slotCount}
    (listed : ∀ place < count, inSlotOrder[first + place]? = some (register place))
    (owns : rowSlot first count index fits = some slot) :
    inSlotOrder[slot.val]? = some (register index) := by
  unfold rowSlot at owns
  split at owns
  · next inRow =>
      cases owns
      exact listed index inRow
  · contradiction

/-- The register that owns a slot is the one listed there. -/
theorem getElem?_inSlotOrder {register : Register} {slot : Fin slotCount}
    (owns : register.slot? = some slot) : inSlotOrder[slot.val]? = some register := by
  cases register with
  | rxFrequency receiver => exact getElem?_row rxFrequency (by decide) (by decide) owns
  | adcPreamp converter => exact getElem?_row adcPreamp (by decide) (by decide) owns
  | rxAttenuator receiver => exact getElem?_row rxAttenuator (by decide) (by decide) owns
  | rxAdc receiver => exact getElem?_row rxAdc (by decide) (by decide) owns
  | _ =>
      cases owns
      rfl

/-- No two registers own one slot. -/
theorem eq_of_slot? {register other : Register} {slot : Fin slotCount}
    (owns : register.slot? = some slot) (too : other.slot? = some slot) : register = other :=
  Option.some.inj ((getElem?_inSlotOrder owns).symm.trans (getElem?_inSlotOrder too))

/-- The name by which a register is reported.  Indexed registers count from one. -/
def name : Register → String
  | ptt => "Ptt"
  | sampleRate => "SampleRate"
  | ref10Mhz => "Ref10Mhz"
  | src122Mhz => "Src122Mhz"
  | pmConfig => "PmConfig"
  | micSource => "MicSource"
  | txClassE => "TxClassE"
  | openCollector => "OpenCollector"
  | alexAttenuator => "AlexAttenuator"
  | preamp => "Preamp"
  | dither => "Dither"
  | random => "Random"
  | alexRxAntenna => "AlexRxAntenna"
  | alexRxOut => "AlexRxOut"
  | alexTxRelay => "AlexTxRelay"
  | duplex => "Duplex"
  | receivers => "Receivers"
  | micTimestamp => "MicTimestamp"
  | commonMercuryFreq => "CommonMercuryFreq"
  | txFrequency => "TxFrequency"
  | rxFrequency receiver => s!"rx{receiver + 1}_frequency"
  | txDrive => "TxDrive"
  | hermesConfig => "HermesConfig"
  | alexManualFilters => "AlexManualFilters"
  | vnaMode => "VnaMode"
  | alexHpf => "AlexHpf"
  | alexBypass => "AlexBypass"
  | lna6m => "Lna6m"
  | alexTrDisable => "AlexTrDisable"
  | alexLpf => "AlexLpf"
  | adcPreamp converter => s!"adc{converter + 1}_preamp"
  | tipRing => "TipRing"
  | micBias => "MicBias"
  | micPtt => "MicPtt"
  | lineGain => "LineGain"
  | mercuryTxAtt0 => "MercuryTxAtt0"
  | pureSignal => "PureSignal"
  | penelopeSelect => "PenelopeSelect"
  | metisDb9 => "MetisDb9"
  | mercuryTxAtt1 => "MercuryTxAtt1"
  | rxAttenuator receiver => s!"rx{receiver + 1}_attenuator"
  | rx1AttEnable => "Rx1AttEnable"
  | cwReversed => "CwReversed"
  | cwSpeed => "CwSpeed"
  | cwMode => "CwMode"
  | cwWeight => "CwWeight"
  | cwSpacing => "CwSpacing"
  | c25ExtBoardData => "C25ExtBoardData"
  | rxAdc receiver => s!"rx{receiver + 1}_adc"
  | txAttenuator => "TxAttenuator"
  | cwInternal => "CwInternal"
  | sidetoneVolume => "SidetoneVolume"
  | cwDelay => "CwDelay"
  | cwHangTime => "CwHangTime"
  | sidetoneFreq => "SidetoneFreq"

end Register
end VirtualRadio
