import VirtualRadio.Control.Register

namespace VirtualRadio

/-!
# Control blocks

A control block is five bytes, `c0` to `c4`.  The lowest bit of `c0` keys the
transmitter; the other seven bits name a page, which says how the remaining
four bytes divide into registers.  A field pairs a register with the rule that
reads its value off a block.
-/

/-- The five bytes of one control block. -/
structure ControlBlock where
  c0 : UInt8
  c1 : UInt8
  c2 : UInt8
  c3 : UInt8
  c4 : UInt8
  deriving DecidableEq, Repr, Inhabited

namespace ControlBlock

/-- The byte at a position. -/
def byte (block : ControlBlock) : Fin 5 → UInt8
  | 0 => block.c0
  | 1 => block.c1
  | 2 => block.c2
  | 3 => block.c3
  | 4 => block.c4

/-- The page that a block addresses. -/
def page (block : ControlBlock) : Nat :=
  block.c0.toNat / 2

/-- The bytes of a block, in order. -/
def toList (block : ControlBlock) : List UInt8 :=
  [block.c0, block.c1, block.c2, block.c3, block.c4]

/-- The block that a run of bytes begins with. -/
def ofBytes? : List UInt8 → Option ControlBlock
  | c0 :: c1 :: c2 :: c3 :: c4 :: _ => some ⟨c0, c1, c2, c3, c4⟩
  | _ => none

end ControlBlock

/-- A rule that reads a value off a control block. -/
inductive Extraction where
  /-- The bits of one byte that `mask` selects, moved down, plus a constant. -/
  | bits (byte : Fin 5) (mask : UInt8) (shift : Nat) (offset : Int)
  /-- A constant less the bits of one byte that `mask` selects. -/
  | inverted (byte : Fin 5) (mask : UInt8) (base : Int)
  /-- The last four bytes as one word, most significant byte first. -/
  | word
  /-- One byte moved up, joined with selected bits of another. -/
  | joined (high : Fin 5) (highShift : Nat) (low : Fin 5) (lowMask : UInt8)
  deriving DecidableEq, Repr

namespace Extraction

/-- The value that a rule reads off a block.  Values are signed words of 64
bits, so a byte that is moved far up loses the bits beyond them. -/
def apply (rule : Extraction) (block : ControlBlock) : Int :=
  match rule with
  | bits byte mask shift offset =>
    ((block.byte byte &&& mask).toNat >>> shift : Nat) + offset
  | inverted byte mask base =>
    base - (block.byte byte &&& mask).toNat
  | word =>
    (((block.c1.toNat * 256 + block.c2.toNat) * 256 + block.c3.toNat) * 256
      + block.c4.toNat : Nat)
  | joined high highShift low lowMask =>
    Int.bmod (((block.byte high).toNat <<< highShift)
      ||| (block.byte low &&& lowMask).toNat : Nat) UInt64.size

end Extraction

/-- A register and where a block carries it. -/
structure Field where
  register : Register
  extraction : Extraction
  deriving DecidableEq, Repr

namespace Field

/-- A field that is some bits of one byte. -/
def bits (register : Register) (byte : Fin 5) (mask : UInt8) (shift : Nat) : Field :=
  ⟨register, .bits byte mask shift 0⟩

/-- A field that is the word in the last four bytes. -/
def word (register : Register) : Field :=
  ⟨register, .word⟩

/-- The value that a block gives to a field. -/
def value (field : Field) (block : ControlBlock) : Int :=
  field.extraction.apply block

end Field
end VirtualRadio
