import VirtualRadio.MacAddress
import VirtualRadio.Profile

namespace VirtualRadio

/-!
# Discovery replies

A client finds radios by sending a probe to everyone.  A radio answers with its
state, its hardware address, its version and its class, padded with zeros.
-/

/-- The reply of a radio to a discovery probe.  The state byte tells whether it
is streaming already. -/
def discoveryReply (profile : Profile) (mac : MacAddress) (streaming : Bool) : List UInt8 :=
  [0xEF, 0xFE, if streaming then 3 else 2]
    ++ mac.octets.toList
    ++ [profile.data.firmwareVersion, profile.data.deviceClass]
    ++ List.replicate 49 0

/-- Every reply has sixty bytes. -/
theorem length_discoveryReply (profile : Profile) (mac : MacAddress) (streaming : Bool) :
    (discoveryReply profile mac streaming).length = 60 := by
  simp [discoveryReply]

end VirtualRadio
