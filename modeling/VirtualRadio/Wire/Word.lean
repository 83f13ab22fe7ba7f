namespace VirtualRadio

/-!
# Words on the wire

Packets carry words most significant byte first; sample files carry them least
significant byte first.
-/

namespace Word

/-- The two bytes of a 16-bit word, most significant first. -/
def bytes16 (word : UInt16) : List UInt8 :=
  [(word >>> 8).toUInt8, word.toUInt8]

/-- The 16-bit word of two bytes, most significant first. -/
def ofBytes16 (high low : UInt8) : UInt16 :=
  high.toUInt16 <<< 8 ||| low.toUInt16

/-- The four bytes of a 32-bit word, most significant first. -/
def bytes32 (word : UInt32) : List UInt8 :=
  [(word >>> 24).toUInt8, (word >>> 16).toUInt8, (word >>> 8).toUInt8, word.toUInt8]

/-- The 32-bit word of four bytes, most significant first. -/
def ofBytes32 (first second third fourth : UInt8) : UInt32 :=
  first.toUInt32 <<< 24 ||| second.toUInt32 <<< 16 ||| third.toUInt32 <<< 8 ||| fourth.toUInt32

/-- The four bytes of a 32-bit word, least significant first. -/
def littleBytes32 (word : UInt32) : List UInt8 :=
  (bytes32 word).reverse

end Word
end VirtualRadio
