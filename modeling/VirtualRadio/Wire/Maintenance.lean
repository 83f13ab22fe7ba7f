import VirtualRadio.Address
import VirtualRadio.MacAddress

namespace VirtualRadio

/-!
# Requests to set the network address

The request carries the hardware address of the radio it is meant for and the
network address that the radio is to take.
-/

/-- A request to give a network address to the radio with a hardware address. -/
structure SetIpRequest where
  mac : MacAddress
  address : Vector UInt8 4
  deriving DecidableEq, Repr

/-- The request that a packet carries.  The bytes after it are not looked at. -/
def SetIpRequest.ofBytes? : List UInt8 → Option SetIpRequest
  | _ :: _ :: _ :: m0 :: m1 :: m2 :: m3 :: m4 :: m5 :: a0 :: a1 :: a2 :: a3 :: _ =>
    some ⟨.ofOctets m0 m1 m2 m3 m4 m5, IpAddress.fourParts a0 a1 a2 a3⟩
  | _ => none

/-- A network address as four decimal numbers. -/
def SetIpRequest.addressText (request : SetIpRequest) : String :=
  ".".intercalate (request.address.toList.map (fun octet => toString octet.toNat))

end VirtualRadio
