import VirtualRadio.Rounding
import VirtualRadio.Wire.Word

namespace VirtualRadio

/-!
# Transmit samples

A sample is a pair of single-precision numbers.  Everything after the scaling
of a received sample only moves samples about, so a number is kept as its bit
pattern: what comes out is bit for bit what went in.
-/

/-- A single-precision number, as its bit pattern. -/
structure Single where
  bits : UInt32
  deriving DecidableEq, Repr

namespace Single

/-- Positive zero. -/
def zero : Single := ⟨0⟩

instance : Inhabited Single := ⟨zero⟩

/-- The bits of positive infinity. -/
def infinity : Nat := 0x7F800000

/-- The bits of the nearest single-precision number to a finite double, less
its sign, from the exponent and the fraction of the double.  What is too large
becomes infinite. -/
def nearestMagnitude (exponent fraction : Nat) : Nat :=
  let significand := if exponent = 0 then fraction else fraction + 1 <<< 52
  let power := max exponent 1
  -- Below the smallest normal single, whose exponent in a double is 897, the
  -- last place stays where it is.  A carry out of the fraction is one more in
  -- the exponent, which is what it should be.
  min infinity
    (if power < 897 then Rounding.shiftRight significand (29 + (897 - power))
    else (power - 897) <<< 23 + Rounding.shiftRight significand 29)

/-- The single-precision number nearest to the double-precision one with given
bits, ties to even.  What is no number stays none. -/
def ofDouble (bits : Nat) : Single :=
  let exponent := bits >>> 52 % 2048
  let fraction := bits % 1 <<< 52
  let magnitude :=
    if exponent < 2047 then nearestMagnitude exponent fraction
    else if fraction = 0 then infinity
    else 0x7FC00000 ||| fraction >>> 29
  ⟨UInt32.ofNat (bits >>> 63 <<< 31 + magnitude)⟩

/-- The single-precision number nearest to a double-precision one. -/
def ofFloat (value : Float) : Single :=
  .ofDouble value.toBits.toNat

/-- The double-precision number that equals a single-precision one. -/
def toFloat (value : Single) : Float :=
  (Float32.ofBits value.bits).toFloat

end Single

/-- One complex sample. -/
structure Sample where
  i : Single
  q : Single
  deriving DecidableEq, Repr

namespace Sample

/-- The sample that stands where none was written. -/
def silence : Sample := ⟨.zero, .zero⟩

instance : Inhabited Sample := ⟨silence⟩

/-- The factor that takes the largest 16-bit value to one, 0.000030518509476 in
double precision.  Its last place is that of `2 ^ -67`. -/
def fullScale : Nat := 0x1000200040021E

/-- The bits of the double-precision product of a natural number and the factor. -/
def product (magnitude : Nat) : Nat :=
  if magnitude = 0 then 0
  else
    let exact := magnitude * fullScale
    let excess := exact.log2 - 52
    -- The exponent counts from a last place of `2 ^ -1075`.  A carry out of the
    -- significand is one more in the exponent, as in `nearestMagnitude`.
    (excess + 1007) <<< 52 + Rounding.shiftRight exact excess

/-- The number that a received 16-bit value stands for. -/
def scale (value : Int16) : Single :=
  .ofDouble ((if value < 0 then 1 <<< 63 else 0) + product value.toInt.natAbs)

/-- A sample as stored in a file: both numbers, least significant byte first. -/
def fileBytes (sample : Sample) : List UInt8 :=
  Word.littleBytes32 sample.i.bits ++ Word.littleBytes32 sample.q.bits

end Sample
end VirtualRadio
