import VirtualRadio.Wire.Word

namespace VirtualRadio
namespace Word

/-!
# Words and their bytes

Four bytes make the word that has them as digits, so a word is made again of its
own bytes.
-/

theorem toNat_ofBytes32 (first second third fourth : UInt8) :
    (ofBytes32 first second third fourth).toNat =
      ((first.toNat * 256 + second.toNat) * 256 + third.toNat) * 256 + fourth.toNat := by
  have highest := first.toNat_lt
  have higher := second.toNat_lt
  have lower := third.toNat_lt
  have lowest := fourth.toNat_lt
  have digits : ((first.toNat * 256 + second.toNat) * 256 + third.toNat) * 256 + fourth.toNat =
      first.toNat * 16777216 + (second.toNat * 65536 + (third.toNat * 256 + fourth.toNat)) := by
    omega
  -- Every byte lies below the ones that are moved up, so joining the bits is adding.
  have low := Nat.shiftLeft_add_eq_or_of_lt (show fourth.toNat < 2 ^ 8 by omega) third.toNat
  have middle := Nat.shiftLeft_add_eq_or_of_lt
    (show third.toNat * 256 + fourth.toNat < 2 ^ 16 by omega) second.toNat
  have high := Nat.shiftLeft_add_eq_or_of_lt
    (show second.toNat * 65536 + (third.toNat * 256 + fourth.toNat) < 2 ^ 24 by omega) first.toNat
  simp only [Nat.shiftLeft_eq, Nat.reducePow] at low middle high
  simp only [ofBytes32, UInt32.toNat_or, UInt32.toNat_shiftLeft, UInt8.toNat_toUInt32,
    Nat.or_assoc, Nat.shiftLeft_eq, UInt32.reduceToNat, Nat.reduceMod, Nat.reducePow]
  rw [Nat.mod_eq_of_lt (show first.toNat * 16777216 < 4294967296 by omega),
    Nat.mod_eq_of_lt (show second.toNat * 65536 < 4294967296 by omega),
    Nat.mod_eq_of_lt (show third.toNat * 256 < 4294967296 by omega), ← low, ← middle, ← high,
    digits]

theorem ofBytes32_bytes (word : UInt32) :
    ofBytes32 (word >>> 24).toUInt8 (word >>> 16).toUInt8 (word >>> 8).toUInt8 word.toUInt8 =
      word := by
  have bound := word.toNat_lt
  apply UInt32.toNat_inj.mp
  rw [toNat_ofBytes32]
  simp only [UInt32.toNat_toUInt8, UInt32.toNat_shiftRight, Nat.shiftRight_eq_div_pow,
    UInt32.reduceToNat, Nat.reduceMod, Nat.reducePow]
  omega

end Word
end VirtualRadio
