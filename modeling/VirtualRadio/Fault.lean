namespace VirtualRadio

/-!
# Faults

A fault says what went wrong; `Fault.message` says it in words.  Faults of one
packet never end a session: the packet is dropped and the session goes on.
-/

/-- The kinds of packet whose length is fixed by their code. -/
inductive FixedPacket where
  | controlIq
  | discovery
  | stop
  | start
  deriving DecidableEq, Repr

/-- The name of a kind of packet in reports. -/
def FixedPacket.name : FixedPacket → String
  | controlIq => "control/iq"
  | discovery => "discovery"
  | stop => "stop"
  | start => "start"

/-- What can go wrong. -/
inductive Fault where
  | transport (detail : String)
  | protocol (detail : String)
  /-- A packet of a known kind has the wrong length. -/
  | invalidLength (kind : FixedPacket) (length expected : Nat)
  | timeout
  /-- There is nobody to send a frame to. -/
  | notConnected
  /-- The client of the stream connection went away. -/
  | connectionLost
  /-- The output sink was used before it was initialized. -/
  | sinkNotReady
  | invalidParameter (detail : String)
  | configuration (detail : String)
  | io (detail : String)
  deriving DecidableEq, Repr

namespace Fault

/-- A fault in words. -/
def message : Fault → String
  | transport detail => s!"transport error: {detail}"
  | protocol detail => s!"protocol error: {detail}"
  | invalidLength kind length expected =>
    s!"invalid length for {kind.name}: got {length} bytes, expected {expected}"
  | timeout => "timeout"
  | notConnected => "not connected"
  | connectionLost => "connection lost"
  | sinkNotReady => "output sink not ready"
  | invalidParameter detail => s!"invalid parameter: {detail}"
  | configuration detail => s!"configuration error: {detail}"
  | io detail => s!"I/O error: {detail}"

/-- Whether a fault concerns a single packet only. -/
def concernsPacket : Fault → Bool
  | protocol _ => true
  | invalidLength _ _ _ => true
  | _ => false

end Fault

/-- How a request fails: it is refused with a fault, or whoever makes it crashes. -/
inductive Failure where
  | refused (fault : Fault)
  | crashed
  deriving DecidableEq, Repr

end VirtualRadio
