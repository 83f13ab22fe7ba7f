import VirtualRadio.Text.Hex

namespace VirtualRadio
namespace Text

/-!
# Numerals

A numeral is a run of digits of some base.  Reading refuses an empty run and
anything that is no digit; nothing is skipped, and there is no sign.
-/

/-- The value of a digit of a base. -/
def digit? (base : Nat) (char : Char) : Option Nat :=
  (hexDigit? char).filter (· < base)

/-- The value of a run of digits that follow the digits of `value`. -/
def numeralFrom? (base value : Nat) : List Char → Option Nat
  | [] => some value
  | char :: rest => do
    let next ← digit? base char
    numeralFrom? base (base * value + next) rest

/-- The value of a numeral. -/
def numeral? (base : Nat) (digits : List Char) : Option Nat :=
  if digits.isEmpty then none else numeralFrom? base 0 digits

/-- Whether a character is a decimal digit. -/
def isDecimal (char : Char) : Bool :=
  (digit? 10 char).isSome

/-- A number in decimal digits, without leading zeros. -/
def decimal (value : Nat) : List Char :=
  Nat.toDigits 10 value

end Text
end VirtualRadio
