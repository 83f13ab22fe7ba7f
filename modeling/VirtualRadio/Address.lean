import VirtualRadio.Text.Numeral

namespace VirtualRadio

/-!
# Network addresses

Addresses of both families are read and written in their usual text forms.

A number of a four-part address has no leading zeros.  In a long address one
run of zero groups may be left out, and the last two groups may be written as a
four-part address.  Written, a long address leaves out the first of its longest
runs of at least two zero groups; one that embeds a four-part address shows it
as such.
-/

/-- An address of either family. -/
inductive IpAddress where
  | v4 (octets : Vector UInt8 4)
  | v6 (groups : Vector UInt16 8)
  deriving DecidableEq, Repr

/-- An address and a port. -/
structure SocketAddress where
  ip : IpAddress
  port : UInt16
  deriving DecidableEq, Repr

namespace IpAddress

/-- The address that stands for every interface. -/
def unspecified : IpAddress :=
  .v4 #v[0, 0, 0, 0]

instance : Inhabited IpAddress := ⟨unspecified⟩

/-! ### Reading

Each reader takes what it recognizes off the front of a text and leaves the
rest. -/

/-- The digits that begin a text, at most `limit` of them. -/
def leadingDigits (base limit : Nat) (text : List Char) : List Char :=
  (text.take limit).takeWhile (fun char => (Text.digit? base char).isSome)

/-- Take a number of an address: at most three digits, without leading zeros,
below 256. -/
def takeOctet? (text : List Char) : Option (UInt8 × List Char) :=
  let digits := leadingDigits 10 3 text
  if 1 < digits.length ∧ digits.head? = some '0' then
    none
  else
    match Text.numeral? 10 digits with
    | some value =>
      if value < 256 then some (UInt8.ofNat value, text.drop digits.length) else none
    | none => none

/-- Take one given character. -/
def takeChar? (expected : Char) : List Char → Option (List Char)
  | char :: rest => if char = expected then some rest else none
  | [] => none

/-- The octets of a four-part address. -/
def fourParts (first second third fourth : UInt8) : Vector UInt8 4 :=
  #v[first, second, third, fourth]

/-- Take a four-part address. -/
def takeV4? (text : List Char) : Option (Vector UInt8 4 × List Char) := do
  let (first, text) ← takeOctet? text
  let text ← takeChar? '.' text
  let (second, text) ← takeOctet? text
  let text ← takeChar? '.' text
  let (third, text) ← takeOctet? text
  let text ← takeChar? '.' text
  let (fourth, text) ← takeOctet? text
  return (fourParts first second third fourth, text)

/-- Take a group of at most four hexadecimal digits. -/
def takeGroup? (text : List Char) : Option (UInt16 × List Char) :=
  let digits := leadingDigits 16 4 text
  (Text.numeral? 16 digits).map (fun value => (UInt16.ofNat value, text.drop digits.length))

/-- The groups that pairs of octets fill. -/
def groupsOf : List UInt8 → List UInt16
  | high :: low :: rest => (high.toUInt16 <<< 8 ||| low.toUInt16) :: groupsOf rest
  | _ => []

/-- The two groups that a four-part address fills. -/
def embeddedGroups (octets : Vector UInt8 4) : List UInt16 :=
  groupsOf octets.toList

/-- Take the separator in front of a group; the first group has none. -/
def takeSeparator? (isFirst : Bool) (text : List Char) : Option (List Char) :=
  if isFirst then some text else takeChar? ':' text

/-- Take up to `limit` groups.  The flag tells whether the last two were
written as a four-part address, which ends the address. -/
def takeGroups (isFirst : Bool) : Nat → List Char → List UInt16 × Bool × List Char
  | 0, text => ([], false, text)
  | limit + 1, text =>
    let embedded? :=
      if limit = 0 then none else (takeSeparator? isFirst text).bind takeV4?
    match embedded? with
    | some (octets, rest) => (embeddedGroups octets, true, rest)
    | none =>
      match (takeSeparator? isFirst text).bind takeGroup? with
      | none => ([], false, text)
      | some (group, rest) =>
        let (groups, embedded, rest) := takeGroups false limit rest
        (group :: groups, embedded, rest)

/-- Eight groups as an address. -/
def ofGroups? : List UInt16 → Option IpAddress
  | [a, b, c, d, e, f, g, h] => some (.v6 #v[a, b, c, d, e, f, g, h])
  | _ => none

/-- Take a long address. -/
def takeV6? (text : List Char) : Option (IpAddress × List Char) :=
  let (head, embedded, rest) := takeGroups true 8 text
  if head.length = 8 then
    (ofGroups? head).map (fun address => (address, rest))
  else if embedded then
    none
  else
    match rest with
    | ':' :: ':' :: rest =>
      let (tail, _, rest) := takeGroups true (7 - head.length) rest
      let zeros := List.replicate (8 - head.length - tail.length) 0
      (ofGroups? (head ++ zeros ++ tail)).map (fun address => (address, rest))
    | _ => none

/-- Read an address. -/
def parse? (text : String) : Option IpAddress :=
  let chars := text.toList
  match takeV4? chars with
  | some (octets, []) => some (.v4 octets)
  | _ =>
    match takeV6? chars with
    | some (address, []) => some address
    | _ => none

/-! ### Writing -/

/-- A four-part address. -/
def renderV4 (octets : List UInt8) : List Char :=
  ['.'].intercalate (octets.map (fun octet => Text.decimal octet.toNat))

/-- Groups with colons between them. -/
def renderGroups (groups : List UInt16) : List Char :=
  [':'].intercalate (groups.map (fun group => Nat.toDigits 16 group.toNat))

/-- How many zero groups begin a list. -/
def leadingZeros (groups : List UInt16) : Nat :=
  (groups.takeWhile (· = 0)).length

/-- The start and the length of the first longest run of zero groups. -/
def longestZeros (groups : List UInt16) : Nat × Nat :=
  (List.range groups.length).foldl (fun best start =>
    let length := leadingZeros (groups.drop start)
    if best.2 < length then (start, length) else best) (0, 0)

/-- A long address. -/
def renderV6 (groups : List UInt16) : List Char :=
  match groups with
  | [0, 0, 0, 0, 0, 0xFFFF, high, low] =>
    [':', ':', 'f', 'f', 'f', 'f', ':']
      ++ renderV4 [(high >>> 8).toUInt8, high.toUInt8, (low >>> 8).toUInt8, low.toUInt8]
  | _ =>
    let (start, length) := longestZeros groups
    if 1 < length then
      renderGroups (groups.take start) ++ [':', ':'] ++ renderGroups (groups.drop (start + length))
    else
      renderGroups groups

/-- Write an address. -/
def render : IpAddress → String
  | v4 octets => String.ofList (renderV4 octets.toList)
  | v6 groups => String.ofList (renderV6 groups.toList)

end IpAddress

namespace SocketAddress

/-- Read a port number to the end of a text. -/
def port? (text : List Char) : Option UInt16 :=
  match Text.numeral? 10 text with
  | some value => if value < 65536 then some (UInt16.ofNat value) else none
  | none => none

/-- Read an address and a port.  A long address stands in square brackets. -/
def parse? (text : String) : Option SocketAddress :=
  match text.toList with
  | '[' :: rest => do
    let (ip, rest) ← IpAddress.takeV6? rest
    let rest ← IpAddress.takeChar? ']' rest
    let rest ← IpAddress.takeChar? ':' rest
    return ⟨ip, ← port? rest⟩
  | chars => do
    let (octets, rest) ← IpAddress.takeV4? chars
    let rest ← IpAddress.takeChar? ':' rest
    return ⟨.v4 octets, ← port? rest⟩

/-- Write an address and a port. -/
def render (address : SocketAddress) : String :=
  let port := String.ofList (Text.decimal address.port.toNat)
  match address.ip with
  | .v4 _ => address.ip.render ++ ":" ++ port
  | .v6 _ => "[" ++ address.ip.render ++ "]:" ++ port

end SocketAddress
end VirtualRadio
