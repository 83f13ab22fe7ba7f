import VirtualRadio.Control.Gain
import VirtualRadio.Control.Layout
import VirtualRadio.Wire.ControlFrame

namespace VirtualRadio

/-!
# The state of the radio

The radio is its register bank and the gains derived from it.  Decoding a
control block writes the registers that the block carries, in the order of the
layout, and reports those whose value became another one.  A control frame is
its two blocks, one after the other.
-/

/-- The registers and the gains derived from them. -/
structure Radio where
  bank : RegisterBank
  gains : Gains

namespace Radio

/-- The radio before any control block. -/
def initial : Radio :=
  ⟨.empty, .initial⟩

instance : Inhabited Radio := ⟨initial⟩

end Radio

/-- How control blocks are read: for which profile, and with which conversion
from decibels. -/
structure Decoder where
  profile : Profile
  linear : Float → Float

namespace Decoder

/-- The decoder of a profile. -/
def ofProfile (profile : Profile) : Decoder :=
  ⟨profile, Decibel.linear⟩

/-- The registers that a block writes, with their values, in order.  On a C25
board the first three converters are wired to their receivers, whatever the
block says. -/
def writes (decoder : Decoder) (block : ControlBlock) : List (Register × Int) :=
  (Layout.blockFields block).map (fun field => (field.register, field.value block))
    ++ (if block.page = 14 ∧ decoder.profile = .c25 then
        [(.rxAdc 0, 0), (.rxAdc 1, 1), (.rxAdc 2, 1)]
      else [])

/-- Write registers one after the other, and report the changes in order. -/
def writeAll (bank : RegisterBank) : List (Register × Int) →
    RegisterBank × List RegisterChange
  | [] => (bank, [])
  | (register, value) :: rest =>
    let (bank, change?) := bank.set register value
    let (bank, changes) := writeAll bank rest
    (bank, change?.toList ++ changes)

/-- Decode one control block. -/
def decodeBlock (decoder : Decoder) (radio : Radio) (block : ControlBlock) :
    Radio × List RegisterChange :=
  let (bank, changes) := writeAll radio.bank (decoder.writes block)
  let gains := Gains.recompute? decoder.linear decoder.profile block.page
    (changes.map RegisterChange.register) bank radio.gains
  (⟨bank, gains.getD radio.gains⟩, changes)

/-- Decode both control blocks of a frame.  Bytes that are no frame change
nothing. -/
def decodeFrame (decoder : Decoder) (radio : Radio) (frame : List UInt8) :
    Except PacketFault (Radio × List RegisterChange) := do
  let (first, second) ← ControlFrame.blocks frame
  let (radio, firstChanges) := decoder.decodeBlock radio first
  let (radio, secondChanges) := decoder.decodeBlock radio second
  return (radio, firstChanges ++ secondChanges)

end Decoder
end VirtualRadio
