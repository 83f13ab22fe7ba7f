import VirtualRadio.Control.Bank
import VirtualRadio.Profile
import VirtualRadio.Wire.Packet

namespace VirtualRadio

/-!
# Status frames

While it streams, the radio sends one status frame per pacing interval.  A
frame carries a sequence number and two halves; each half begins with one entry
of a rotating table of five status headers, and the rest of it is silence,
since the radio has no receiver.

The interval is the time that the samples of one frame span at the selected
sample rate.
-/

/-- The registers that shape one status frame and its pacing. -/
structure StatusInputs where
  receivers : UInt8
  rateCode : UInt8
  drive : UInt8
  keyed : Bool
  deriving DecidableEq, Repr

namespace StatusInputs

/-- The inputs that a bank holds; what was never written has its default. -/
def ofBank (bank : RegisterBank) : StatusInputs :=
  ⟨bank.receivers, bank.sampleRateCode, bank.txDrive, bank.ptt⟩

end StatusInputs

namespace Pacing

/-- Samples of each receiver that fit into one half of a frame. -/
def samplesPerBlock (receivers : UInt8) : Nat :=
  504 / (receivers.toNat * 6 + 2)

/-- The sample rate of a code in kilohertz, as a word of 64 bits.  A code that
shifts by the width of the word or more names no rate. -/
def kilohertz? (rateCode : UInt8) : Option Nat :=
  if rateCode.toNat < 64 then some (48 <<< rateCode.toNat % UInt64.size) else none

/-- The time between two frames in nanoseconds.  Without a usable rate it is
the time at one kilohertz. -/
def intervalNanos (receivers rateCode : UInt8) : Nat :=
  let numerator := 2 * samplesPerBlock receivers * 1000000
  match kilohertz? rateCode with
  | none => numerator
  | some 0 => numerator
  | some rate => numerator / rate

end Pacing

/-- The reading of the forward-power converter at a relative level, cut to its
twelve bits.  A level that is no number reads as zero. -/
def forwardPower (profile : Profile) (level : Float) : UInt16 :=
  let reading :=
    (4095.0 / profile.data.powerC1) * Float.sqrt (100.0 * level * profile.data.powerC2)
  if reading < 0.0 then 0 else if reading > 4095.0 then 4095 else reading.toUInt16

/-- The entries of the status table. -/
inductive StatusEntry where
  | versions
  | forwardPower
  | reversePower
  | supply
  | spare
  deriving DecidableEq, Repr

namespace StatusEntry

/-- The entry that follows in the rotation. -/
def next : StatusEntry → StatusEntry
  | versions => forwardPower
  | forwardPower => reversePower
  | reversePower => supply
  | supply => spare
  | spare => versions

/-- The relative transmit level: the square of the drive while keyed. -/
def level (inputs : StatusInputs) : Float :=
  if inputs.keyed then
    let drive := Float.ofNat inputs.drive.toNat / 256.0
    drive * drive
  else
    0.0

/-- The five status bytes of an entry.  The Hermes-Lite2 leaves the version
bytes empty and has no drive reading. -/
def bytes (entry : StatusEntry) (profile : Profile) (inputs : StatusInputs) : List UInt8 :=
  match entry with
  | versions =>
    if profile = .hermesLite2 then [0x00, 0x00, 0x00, 0x00, 0x15]
    else [0x00, 0x00, 0x21, 0x11, 0x15]
  | forwardPower =>
    [0x08, 0x00, if profile = .hermesLite2 then 0 else inputs.drive]
      ++ Word.bytes16 (VirtualRadio.forwardPower profile (level inputs))
  | reversePower => [0x10, 0x00, 0x00, 0x00, 0x00]
  | supply => [0x18, 0x00, 0x00, 0x00, 0x3F]
  | spare => [0x20, 0x42, 0x42, 0x42, 0x42]

end StatusEntry

/-- What the next status frame depends on besides its inputs. -/
structure StatusCursor where
  profile : Profile
  sequence : UInt32
  entry : StatusEntry
  deriving DecidableEq, Repr

namespace StatusCursor

/-- The first frame of a stream has number zero and begins the rotation. -/
def start (profile : Profile) : StatusCursor :=
  ⟨profile, 0, .versions⟩

/-- One half of a frame: the mark, the status bytes, then silence. -/
def half (profile : Profile) (entry : StatusEntry) (inputs : StatusInputs) : List UInt8 :=
  [0x7F, 0x7F, 0x7F] ++ entry.bytes profile inputs ++ List.replicate 504 0

/-- The next frame. -/
def frame (cursor : StatusCursor) (inputs : StatusInputs) : List UInt8 :=
  [0xEF, 0xFE, 0x01, 0x06] ++ Word.bytes32 cursor.sequence
    ++ half cursor.profile cursor.entry inputs
    ++ half cursor.profile cursor.entry.next inputs

/-- The cursor after one frame.  Sequence numbers wrap. -/
def advance (cursor : StatusCursor) : StatusCursor :=
  { cursor with sequence := cursor.sequence + 1, entry := cursor.entry.next.next }

end StatusCursor
end VirtualRadio
