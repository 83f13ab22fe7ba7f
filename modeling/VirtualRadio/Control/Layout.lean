import VirtualRadio.Control.Block

namespace VirtualRadio

/-!
# The layout of control pages

Which registers a page carries, and in which bits.  The keying bit is carried
by every block.  Page 10 ends in one of two ways: a flag in the block's last
byte says whether the byte holds an attenuator or a combined gain.  Pages that
are not listed carry nothing.

The fields of a page come in two groups; values are taken over group by group,
in the order given here.
-/

namespace Layout

/-- The keying bit, carried by every block. -/
def keying : Field :=
  .bits .ptt 0 0x01 0

/-- General settings: clocks, antenna relays, receiver count. -/
def general : List Field :=
  [.bits .sampleRate 1 0x03 0,
    .bits .ref10Mhz 1 0x0C 2,
    .bits .src122Mhz 1 0x10 4,
    .bits .pmConfig 1 0x60 5,
    .bits .micSource 1 0x80 7,
    .bits .txClassE 2 0x01 0,
    .bits .openCollector 2 0xFE 1,
    .bits .alexAttenuator 3 0x03 0,
    .bits .preamp 3 0x04 2,
    .bits .dither 3 0x08 3,
    .bits .random 3 0x10 4,
    .bits .alexRxAntenna 3 0x60 5,
    .bits .alexRxOut 3 0x80 7,
    .bits .alexTxRelay 4 0x03 0,
    .bits .duplex 4 0x04 2,
    ⟨.receivers, .bits 4 0x38 3 1⟩,
    .bits .micTimestamp 4 0x40 6,
    .bits .commonMercuryFreq 4 0x80 7]

/-- Transmit drive and the antenna filter board. -/
def driveAndFilters : List Field :=
  [.bits .txDrive 1 0xFF 0,
    .bits .hermesConfig 2 0x3F 0,
    .bits .alexManualFilters 2 0x40 6,
    .bits .vnaMode 2 0x80 7,
    .bits .alexHpf 3 0x1F 0,
    .bits .alexBypass 3 0x20 5,
    .bits .lna6m 3 0x40 6,
    .bits .alexTrDisable 3 0x80 7,
    .bits .alexLpf 4 0xFF 0]

/-- Preamplifiers, microphone and line input. -/
def preampsAndMicrophone : List Field :=
  [.bits (.adcPreamp 0) 1 0x01 0,
    .bits (.adcPreamp 1) 1 0x02 1,
    .bits (.adcPreamp 2) 1 0x04 2,
    .bits (.adcPreamp 3) 1 0x08 3,
    .bits .tipRing 1 0x10 4,
    .bits .micBias 1 0x20 5,
    .bits .micPtt 1 0x40 6,
    .bits .lineGain 2 0x1F 0,
    .bits .mercuryTxAtt0 2 0x20 5,
    .bits .pureSignal 2 0x40 6,
    .bits .penelopeSelect 2 0x80 7,
    .bits .metisDb9 3 0x0F 0,
    .bits .mercuryTxAtt1 3 0x10 4]

/-- The first receiver's attenuation written as a combined gain. -/
def combinedGain : List Field :=
  [⟨.rxAttenuator 0, .inverted 4 0x3F 37⟩]

/-- The first receiver's attenuation written as such. -/
def plainAttenuator : List Field :=
  [.bits (.rxAttenuator 0) 4 0x1F 0,
    .bits .rx1AttEnable 4 0x20 5]

/-- Whether a block on page 10 carries the combined gain. -/
def hasCombinedGain (block : ControlBlock) : Bool :=
  block.c4 &&& 0x40 ≠ 0

/-- The second receiver's attenuation and the keyer. -/
def attenuatorAndKeyer : List Field :=
  [.bits (.rxAttenuator 1) 1 0x1F 0,
    .bits .cwReversed 2 0x40 6,
    .bits .cwSpeed 3 0x3F 0,
    .bits .cwMode 3 0xC0 6,
    .bits .cwWeight 4 0x7F 0,
    .bits .cwSpacing 4 0x80 7]

/-- The data word of the extension board. -/
def extensionBoard : List Field :=
  [⟨.c25ExtBoardData, .joined 2 8 1 0xFF⟩]

/-- Which converter feeds which receiver, and the transmit attenuator. -/
def converters : List Field :=
  [.bits (.rxAdc 0) 1 0x03 0,
    .bits (.rxAdc 1) 1 0x0C 2,
    .bits (.rxAdc 2) 1 0x30 4,
    .bits (.rxAdc 3) 1 0xC0 6,
    .bits (.rxAdc 4) 2 0x03 0,
    .bits (.rxAdc 5) 2 0x0C 2,
    .bits (.rxAdc 6) 2 0x30 4,
    .bits .txAttenuator 3 0x1F 0]

/-- Internal keying: sidetone volume and delay. -/
def keyingTimes : List Field :=
  [.bits .cwInternal 1 0x01 0,
    .bits .sidetoneVolume 2 0xFF 0,
    .bits .cwDelay 3 0xFF 0]

/-- Internal keying: hang time and sidetone frequency. -/
def hangTimeAndSidetone : List Field :=
  [⟨.cwHangTime, .joined 1 2 2 0x03⟩,
    ⟨.sidetoneFreq, .joined 3 4 4 0x0F⟩]

/-- The two groups of fields that a block carries if it is read as `page`. -/
def pageFields (page : Nat) (block : ControlBlock) : List Field × List Field :=
  match page with
  | 0 => (general, [])
  | 1 => ([.word .txFrequency], [])
  | 2 => ([.word (.rxFrequency 0)], [])
  | 3 => ([.word (.rxFrequency 1)], [])
  | 4 => ([.word (.rxFrequency 2)], [])
  | 5 => ([.word (.rxFrequency 3)], [])
  | 6 => ([.word (.rxFrequency 4)], [])
  | 7 => ([.word (.rxFrequency 5)], [])
  | 8 => ([.word (.rxFrequency 6)], [])
  | 9 => (driveAndFilters, [])
  | 10 =>
    (preampsAndMicrophone, if hasCombinedGain block then combinedGain else plainAttenuator)
  | 11 => (attenuatorAndKeyer, [])
  | 12 => (extensionBoard, [])
  | 14 => (converters, [])
  | 15 => (keyingTimes, [])
  | 16 => (hangTimeAndSidetone, [])
  | _ => ([], [])

/-- All fields that a block carries, in the order in which they are taken over. -/
def blockFields (block : ControlBlock) : List Field :=
  let groups := pageFields block.page block
  keying :: (groups.1 ++ groups.2)

end Layout
end VirtualRadio
