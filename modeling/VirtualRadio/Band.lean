namespace VirtualRadio

/-!
# Band filters

A transmitter needs another antenna filter on each band.  The band plan lists
the bands with the settings of their filters; the first band that contains a
frequency is the one that is selected.
-/

/-- One entry of the band plan.  Both ends belong to the band. -/
structure Band where
  name : String
  startHz : UInt32
  endHz : UInt32
  lowPass : UInt32
  highPass : UInt32
  deriving DecidableEq, Repr, Inhabited

namespace Band

/-- Whether a frequency lies in a band. -/
def contains (band : Band) (frequency : UInt32) : Bool :=
  band.startHz ≤ frequency && frequency ≤ band.endHz

/-- The first band of a plan that contains a frequency. -/
def select? (plan : List Band) (frequency : UInt32) : Option Band :=
  plan.find? (fun band => band.contains frequency)

end Band

/-- The frequencies that the output sink can be tuned to: one to five hundred
megahertz, both included. -/
def isTransmitFrequency (frequency : UInt32) : Bool :=
  1000000 ≤ frequency && frequency ≤ 500000000

end VirtualRadio
