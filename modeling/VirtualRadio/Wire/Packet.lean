import VirtualRadio.Fault
import VirtualRadio.Text.Hex
import VirtualRadio.Wire.Word

namespace VirtualRadio

/-!
# Packets

Every packet begins with four bytes: two fixed ones, a command and a
subcommand.  `Packet.classify` says what a datagram is.  `PacketCode.unitLength`
says how many bytes belong to a packet in a stream, where only the first four
bytes are known; `splitUnit?` cuts the first packet off a stream with it.

The two agree on every packet with one exception.  A request to set an address
carries the first address byte where other packets carry their subcommand, so
in a stream it may look like another maintenance packet.
-/

/-- The first four bytes of a packet. -/
structure PacketCode where
  first : UInt8
  second : UInt8
  command : UInt8
  subcommand : UInt8
  deriving DecidableEq, Repr

/-- What a start command asks the radio to stream. -/
inductive StartMode where
  | iq
  | bandscope
  | iqAndBandscope
  /-- The start command of older clients on a stream connection. -/
  | tcpLegacy
  deriving DecidableEq, Repr

/-- The kinds of maintenance packet. -/
inductive MaintenanceKind where
  | program
  | erase
  | setIp
  deriving DecidableEq, Repr

/-- What a packet asks for. -/
inductive Packet where
  | controlIq (sequence : UInt32)
  | discovery
  | stop
  | start (mode : StartMode)
  | maintenance (kind : MaintenanceKind)
  deriving DecidableEq, Repr

/-- Why a run of bytes is no packet. -/
inductive PacketFault where
  | tooShort (length : Nat)
  | badMagic (first second : UInt8)
  | wrongLength (kind : FixedPacket) (length expected : Nat)
  | unrecognizedMaintenance (subcommand : UInt8) (length : Nat)
  | unknownCode (command subcommand : UInt8)
  deriving DecidableEq, Repr

/-- The fault that is reported of a run of bytes that is no packet. -/
def PacketFault.toFault : PacketFault → Fault
  | tooShort length => .protocol s!"packet too short: {length} bytes"
  | badMagic first second =>
    .protocol ("bad magic " ++ Text.upperHexByte first ++ " " ++ Text.upperHexByte second)
  | wrongLength kind length expected => .invalidLength kind length expected
  | unrecognizedMaintenance subcommand length =>
    .protocol ("unrecognized maintenance packet " ++ Text.upperHexByte subcommand
      ++ s!" with {length} bytes")
  | unknownCode command subcommand =>
    .protocol ("unknown code EF FE " ++ Text.upperHexByte command ++ " "
      ++ Text.upperHexByte subcommand)

namespace PacketCode

/-- The code that a run of bytes begins with. -/
def ofBytes? : List UInt8 → Option PacketCode
  | first :: second :: command :: subcommand :: _ =>
    some ⟨first, second, command, subcommand⟩
  | _ => none

/-- The bytes of a code, in order. -/
def toList (code : PacketCode) : List UInt8 :=
  [code.first, code.second, code.command, code.subcommand]

/-- Whether a code begins with the two bytes that all packets share. -/
def hasMagic (code : PacketCode) : Bool :=
  code.first = 0xEF && code.second = 0xFE

end PacketCode

namespace Packet

/-- Length of a control frame, in both directions. -/
abbrev frameLength : Nat := 1032

/-- Length of a discovery probe. -/
abbrev discoveryLength : Nat := 63

/-- Length of a start or stop command. -/
abbrev commandLength : Nat := 64

/-- Length of a block of firmware. -/
abbrev programLength : Nat := 264

/-- Length of a request to erase the firmware. -/
abbrev eraseLength : Nat := 64

/-- Length of a request to set the network address. -/
abbrev setIpLength : Nat := 63

/-- The start mode that a subcommand byte names. -/
def startMode? : UInt8 → Option StartMode
  | 0x01 => some .iq
  | 0x02 => some .bandscope
  | 0x03 => some .iqAndBandscope
  | 0x11 => some .tcpLegacy
  | _ => none

/-- The sequence number of a frame: the word after its code. -/
def sequenceOf : List UInt8 → UInt32
  | _ :: _ :: _ :: _ :: first :: second :: third :: fourth :: _ =>
    Word.ofBytes32 first second third fourth
  | _ => 0

/-- Accept a packet of a kind if it has the length of that kind. -/
def ofLength (kind : FixedPacket) (expected length : Nat) (packet : Packet) :
    Except PacketFault Packet :=
  if length = expected then .ok packet else .error (.wrongLength kind length expected)

/-- The maintenance packet with a subcommand and a length. -/
def classifyMaintenance (subcommand : UInt8) (length : Nat) : Except PacketFault Packet :=
  if subcommand = 0x01 ∧ length = programLength then
    .ok (.maintenance .program)
  else if subcommand = 0x02 ∧ length = eraseLength then
    .ok (.maintenance .erase)
  else if length = setIpLength then
    .ok (.maintenance .setIp)
  else
    .error (.unrecognizedMaintenance subcommand length)

/-- What a datagram asks for.  A known code with a wrong length, an unknown
code and a run of bytes that is too short are all refused. -/
def classify (bytes : List UInt8) : Except PacketFault Packet :=
  match PacketCode.ofBytes? bytes with
  | none => .error (.tooShort bytes.length)
  | some code =>
    if code.hasMagic then
      match code.command, code.subcommand with
      | 0x01, 0x02 =>
        ofLength .controlIq frameLength bytes.length (.controlIq (sequenceOf bytes))
      | 0x02, 0x00 => ofLength .discovery discoveryLength bytes.length .discovery
      | 0x04, 0x00 => ofLength .stop commandLength bytes.length .stop
      | 0x04, subcommand =>
        match startMode? subcommand with
        | some mode => ofLength .start commandLength bytes.length (.start mode)
        | none => .error (.unknownCode 0x04 subcommand)
      | 0x03, subcommand => classifyMaintenance subcommand bytes.length
      | command, subcommand => .error (.unknownCode command subcommand)
    else
      .error (.badMagic code.first code.second)

end Packet

/-- How many bytes of a stream belong to the packet that begins with a code.
A code that names nothing else begins a frame. -/
def PacketCode.unitLength (code : PacketCode) : Nat :=
  if code.hasMagic then
    match code.command, code.subcommand with
    | 0x02, 0x00 => Packet.discoveryLength
    | 0x04, 0x00 => Packet.commandLength
    | 0x04, subcommand =>
      if (Packet.startMode? subcommand).isSome then Packet.commandLength else Packet.frameLength
    | 0x03, 0x01 => Packet.programLength
    | 0x03, 0x02 => Packet.eraseLength
    | 0x03, _ => Packet.setIpLength
    | _, _ => Packet.frameLength
  else
    Packet.frameLength

/-- Cut the first whole packet off a stream: the packet and what follows it.
Nothing is cut while the packet is not complete. -/
def splitUnit? (buffer : List UInt8) : Option (List UInt8 × List UInt8) := do
  let code ← PacketCode.ofBytes? buffer
  if buffer.length < code.unitLength then none
  else some (buffer.take code.unitLength, buffer.drop code.unitLength)

end VirtualRadio
