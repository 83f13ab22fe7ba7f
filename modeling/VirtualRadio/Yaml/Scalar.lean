import VirtualRadio.Text.Numeral
import VirtualRadio.Yaml.Chars
import VirtualRadio.Yaml.Node

namespace VirtualRadio
namespace Yaml

/-!
# What plain scalars stand for

A plain scalar may stand for nothing, a truth value, an integer or a decimal
fraction.  Everything else is text.  A number with needless leading zeros is
text as well.  The classification decides which texts must be quoted when they
are written, so that they are read as text again.
-/

/-- The truth value that a plain scalar stands for. -/
def truth? (text : List Char) : Option Bool :=
  if text = "true".toList ∨ text = "True".toList ∨ text = "TRUE".toList then
    some true
  else if text = "false".toList ∨ text = "False".toList ∨ text = "FALSE".toList then
    some false
  else
    none

/-- Whether a plain scalar stands for nothing. -/
def isNull (text : List Char) : Bool :=
  text = "null".toList || text = "Null".toList || text = "NULL".toList || text = ['~']

/-- Digits with a needless leading zero, after an optional sign. -/
def hasLeadingZero (text : List Char) : Bool :=
  let digits := match text with
    | '-' :: rest => rest
    | '+' :: rest => rest
    | _ => text
  match digits with
  | '0' :: rest => !rest.isEmpty && rest.all Text.isDecimal
  | _ => false

/-- The value of a number without a sign: digits after a mark for their base, or
decimal digits. -/
def magnitude? (text : List Char) : Option Nat :=
  match text with
  | '0' :: 'x' :: digits => Text.numeral? 16 digits
  | '0' :: 'o' :: digits => Text.numeral? 8 digits
  | '0' :: 'b' :: digits => Text.numeral? 2 digits
  | _ => if hasLeadingZero text then none else Text.numeral? 10 text

/-- The value of an integer without a minus sign. -/
def unsigned? (text : List Char) : Option Nat :=
  match text with
  | '+' :: rest => magnitude? rest
  | _ => magnitude? text

/-- The value behind the minus sign of a negative integer. -/
def negated? (text : List Char) : Option Nat :=
  match text with
  | '-' :: rest => magnitude? rest
  | _ => none

/-- The value of an integer that is not negative.  Zero may have a minus sign. -/
def natural? (text : List Char) : Option Nat :=
  match unsigned? text with
  | some value => some value
  | none => (negated? text).filter (· = 0)

/-- Whether a plain scalar is an integer that a signed or unsigned word of 128
bits can hold. -/
def isInteger (text : List Char) : Bool :=
  (unsigned? text).any (· < 1 <<< 128) || (negated? text).any (· ≤ 1 <<< 127)

/-- The decimal digits that begin a text, and the rest. -/
def spanDigits (text : List Char) : List Char × List Char :=
  (text.takeWhile Text.isDecimal, text.dropWhile Text.isDecimal)

/-- The power of ten at the end of a decimal fraction. -/
def exponent? : List Char → Option Int
  | [] => some 0
  | mark :: rest =>
    if mark = 'e' ∨ mark = 'E' then
      match rest with
      | '-' :: digits => (Text.numeral? 10 digits).map (fun value => -(value : Int))
      | '+' :: digits => (Text.numeral? 10 digits).map Int.ofNat
      | digits => (Text.numeral? 10 digits).map Int.ofNat
    else
      none

/-- A decimal fraction without a sign as digits and a power of ten. -/
def fraction? (text : List Char) : Option (Nat × Int) := do
  let (whole, rest) := spanDigits text
  let (places, rest) := match rest with
    | '.' :: rest => spanDigits rest
    | _ => ([], rest)
  let digits ← Text.numeral? 10 (whole ++ places)
  let exponent ← exponent? rest
  return (digits, exponent - places.length)

/-- Whether a decimal number rounds to a finite double-precision number.  The
first number that does not is half a step above the largest. -/
def isFinite (digits : Nat) (exponent : Int) : Bool :=
  let bound := 1 <<< 1024 - 1 <<< 970
  if digits = 0 then
    true
  else if 400 < exponent then
    false
  else if 0 ≤ exponent then
    digits * Nat.pow 10 exponent.toNat < bound
  else if (digits.log2 : Int) < 1000 + 3 * -exponent then
    true
  else
    digits < bound * Nat.pow 10 (-exponent).toNat

/-- Drop a minus sign. -/
def dropMinus : List Char → List Char
  | '-' :: rest => rest
  | text => text

/-- Drop a plus sign, which no other sign may follow.  Without one the text
stays as it is. -/
def dropPlus? : List Char → Option (List Char)
  | '+' :: '+' :: _ => none
  | '+' :: '-' :: _ => none
  | '+' :: rest => some rest
  | text => some text

/-- Whether a plain scalar is a decimal fraction, or a name of a value that is
not finite. -/
def isFraction (text : List Char) : Bool :=
  match dropPlus? text with
  | none => false
  | some plain =>
    [".inf", ".Inf", ".INF"].any (·.toList = plain)
      || ["-.inf", "-.Inf", "-.INF", ".nan", ".NaN", ".NAN"].any (·.toList = text)
      || (fraction? (dropMinus plain)).any (fun (digits, exponent) => isFinite digits exponent)

/-- Whether a plain scalar is anything but text.  Numbers with needless leading
zeros count, since others read them as numbers. -/
def isAmbiguous (text : List Char) : Bool :=
  text.isEmpty || isNull text || (truth? text).isSome || isInteger text
    || hasLeadingZero text || isFraction text

/-- Truth values of other readers, which are quoted for their sake. -/
def isForeignTruth (text : List Char) : Bool :=
  ["y", "Y", "yes", "Yes", "YES", "n", "N", "no", "No", "NO", "on", "On", "ON",
    "off", "Off", "OFF"].any (·.toList = text)

end Yaml
end VirtualRadio
