import VirtualRadio.Text.Hex
import VirtualRadio.Text.Split

namespace VirtualRadio

/-!
# Hardware addresses

A hardware address has six octets.  It is written as six pairs of lower-case
hexadecimal digits with a colon between them.  It is read from six groups
separated by colons or hyphens; a group is two digits of either case, or one
digit after a plus sign.
-/

/-- The six octets of a network interface. -/
structure MacAddress where
  octets : Vector UInt8 6
  deriving DecidableEq, Repr

/-- A text that is no hardware address. -/
structure MacAddressError where
  text : String
  deriving DecidableEq, Repr

/-- What is reported of a text that is no hardware address. -/
def MacAddressError.message (error : MacAddressError) : String :=
  s!"invalid MAC address: '{error.text}'"

namespace MacAddress

/-- The address with the given octets. -/
def ofOctets (first second third fourth fifth sixth : UInt8) : MacAddress :=
  ⟨#v[first, second, third, fourth, fifth, sixth]⟩

/-- The address of a radio that was not given another one. -/
def standard : MacAddress :=
  ofOctets 0xAA 0xBB 0xCC 0xDD 0xEE 0xFF

instance : Inhabited MacAddress := ⟨standard⟩

/-- The characters that separate groups. -/
def isSeparator (char : Char) : Bool :=
  char = ':' || char = '-'

/-- The octet that a group of characters denotes. -/
def octet? : List Char → Option UInt8
  | ['+', low] => (Text.hexDigit? low).map UInt8.ofNat
  | [high, low] => do
    let high ← Text.hexDigit? high
    let low ← Text.hexDigit? low
    return UInt8.ofNat (16 * high + low)
  | _ => none

/-- The address that six groups denote. -/
def ofGroups? : List (List Char) → Option MacAddress
  | [first, second, third, fourth, fifth, sixth] => do
    return ofOctets (← octet? first) (← octet? second) (← octet? third)
      (← octet? fourth) (← octet? fifth) (← octet? sixth)
  | _ => none

/-- Read an address. -/
def parse (text : String) : Except MacAddressError MacAddress :=
  match ofGroups? (Text.splitAt isSeparator text.toList) with
  | some address => .ok address
  | none => .error ⟨text⟩

/-- Write an address. -/
def render (address : MacAddress) : String :=
  String.ofList
    ([':'].intercalate (address.octets.toList.map Text.hexByte))

end MacAddress
end VirtualRadio
