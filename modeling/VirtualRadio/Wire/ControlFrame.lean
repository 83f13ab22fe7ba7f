import VirtualRadio.Control.Block
import VirtualRadio.Sample
import VirtualRadio.Wire.Maintenance
import VirtualRadio.Wire.Packet

namespace VirtualRadio

/-!
# What clients send

A control frame has a header with a sequence number and two halves of 512
bytes.  Each half has a synchronisation mark, a control block and 63 groups of
eight bytes; a group carries two audio channels, which are not used, and one
transmit sample as two signed 16-bit values.

The module reads control frames and writes every packet that a client sends.
Reading a written frame gives back its sequence number, its control blocks and
its samples.
-/

namespace ControlFrame

/-- Groups in one half of a frame. -/
abbrev groupsPerHalf : Nat := 63

/-- Bytes in one group. -/
abbrev groupLength : Nat := 8

/-- Refuse bytes that have not the length of a frame. -/
def requireLength (frame : List UInt8) : Except PacketFault Unit :=
  if frame.length = Packet.frameLength then
    .ok ()
  else
    .error (.wrongLength .controlIq frame.length Packet.frameLength)

/-- The control block at an offset of a frame. -/
def blockAt (frame : List UInt8) (offset : Nat) : ControlBlock :=
  (ControlBlock.ofBytes? (frame.drop offset)).getD default

/-- The two control blocks of a frame. -/
def blocks (frame : List UInt8) : Except PacketFault (ControlBlock × ControlBlock) := do
  requireLength frame
  return (blockAt frame 11, blockAt frame 523)

/-- The sample in a group. -/
def groupSample : List UInt8 → Sample
  | _ :: _ :: _ :: _ :: i1 :: i0 :: q1 :: q0 :: _ =>
    ⟨Sample.scale (Word.ofBytes16 i1 i0).toInt16, Sample.scale (Word.ofBytes16 q1 q0).toInt16⟩
  | _ => .silence

/-- The samples of the groups that begin a run of bytes. -/
def groupSamples : Nat → List UInt8 → List Sample
  | 0, _ => []
  | count + 1, bytes => groupSample bytes :: groupSamples count (bytes.drop groupLength)

/-- The transmit samples of a frame, in order. -/
def samples (frame : List UInt8) : Except PacketFault (List Sample) := do
  requireLength frame
  return groupSamples groupsPerHalf (frame.drop 16)
    ++ groupSamples groupsPerHalf (frame.drop 528)

theorem length_groupSamples (count : Nat) (bytes : List UInt8) :
    (groupSamples count bytes).length = count := by
  induction count generalizing bytes with
  | zero => rfl
  | succ count ih => simp [groupSamples, ih]

/-- A group that carries a pair of values. -/
def groupBytes (pair : Int16 × Int16) : List UInt8 :=
  [0, 0, 0, 0] ++ Word.bytes16 pair.1.toUInt16 ++ Word.bytes16 pair.2.toUInt16

/-- The groups of one half: the first 63 pairs, padded with silent groups. -/
def halfGroups (pairs : List (Int16 × Int16)) : List UInt8 :=
  (List.range groupsPerHalf).flatMap (fun index => groupBytes (pairs[index]?.getD (0, 0)))

/-- One half of a frame. -/
def halfBytes (block : ControlBlock) (pairs : List (Int16 × Int16)) : List UInt8 :=
  [0x7F, 0x7F, 0x7F] ++ block.toList ++ halfGroups pairs

/-- A control frame with the given pairs as samples.  Pairs beyond the room of
a frame are left out. -/
def write (sequence : UInt32) (first second : ControlBlock) (pairs : List (Int16 × Int16)) :
    List UInt8 :=
  [0xEF, 0xFE, 0x01, 0x02] ++ Word.bytes32 sequence
    ++ halfBytes first pairs ++ halfBytes second (pairs.drop groupsPerHalf)

end ControlFrame

namespace ControlBlock

/-- A block on a page.  Pages beyond seven bits lose their top bit. -/
def onPage (page : UInt8) (keyed : Bool) (c1 c2 c3 c4 : UInt8) : ControlBlock :=
  ⟨page <<< 1 ||| (if keyed then 1 else 0), c1, c2, c3, c4⟩

/-- A block that carries one word. -/
def ofWord (page : UInt8) (keyed : Bool) (word : UInt32) : ControlBlock :=
  .onPage page keyed (word >>> 24).toUInt8 (word >>> 16).toUInt8 (word >>> 8).toUInt8
    word.toUInt8

/-- The block that sets the transmit frequency. -/
def ofTxFrequency (hertz : UInt32) : ControlBlock :=
  .ofWord 1 false hertz

/-- The block that sets the sample-rate code and the number of receivers. -/
def ofGeneral (rateCode receivers : UInt8) : ControlBlock :=
  .onPage 0 false (rateCode &&& 0x03) 0 0
    ((UInt8.ofNat (receivers.toNat - 1) &&& 0x07) <<< 3)

end ControlBlock

namespace Command

/-- A packet that has nothing but a code. -/
def bare (command subcommand : UInt8) (length : Nat) : List UInt8 :=
  [0xEF, 0xFE, command, subcommand] ++ List.replicate (length - 4) 0

/-- A discovery probe. -/
def discovery : List UInt8 :=
  bare 0x02 0x00 Packet.discoveryLength

/-- A start command with a mode byte. -/
def start (mode : UInt8) : List UInt8 :=
  bare 0x04 mode Packet.commandLength

/-- A stop command. -/
def stop : List UInt8 :=
  start 0x00

/-- A request to erase the firmware. -/
def erase : List UInt8 :=
  bare 0x03 0x02 Packet.eraseLength

/-- A request to set the network address. -/
def setIp (request : SetIpRequest) : List UInt8 :=
  [0xEF, 0xFE, 0x03] ++ request.mac.octets.toList ++ request.address.toList
    ++ List.replicate 50 0

end Command
end VirtualRadio
