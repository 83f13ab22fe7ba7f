import VirtualRadio.Clock
import VirtualRadio.Rounding

namespace VirtualRadio

/-!
# The pace of a sink

A sink without a device of its own spends as much time on a burst as the burst
spans at the sample rate.  A burst that comes before the previous one has ended
begins at that end; one that comes later begins when it comes.

The span in seconds is a double-precision quotient.  Its nearest whole number
of nanoseconds is taken exactly from the bits of the quotient, ties to even.
-/

namespace Pace

/-- A positive finite double-precision number of seconds in nanoseconds. -/
def nanosOfSeconds (seconds : Float) : Nat :=
  let bits := seconds.toBits.toNat
  let exponent := bits >>> 52 % 2048
  let fraction := bits % 1 <<< 52
  let significand := if exponent = 0 then fraction else fraction + 1 <<< 52
  let power := max exponent 1
  let nanos := significand * 1000000000
  if power ≥ 1075 then nanos <<< (power - 1075) else Rounding.shiftRight nanos (1075 - power)

/-- The time that a number of samples spans.  A rate of zero counts as one
sample a second. -/
def span (sampleRate : UInt32) (samples : Nat) : Nat :=
  nanosOfSeconds (Float.ofNat samples / Float.ofNat (max sampleRate.toNat 1))

end Pace

/-- The schedule of a paced sink. -/
structure Pace where
  sampleRate : UInt32
  /-- The end of the previous burst, if there is one since the start. -/
  next : Option Nat
  deriving DecidableEq, Repr

namespace Pace

/-- A schedule in which nothing has been sent. -/
def idle (sampleRate : UInt32) : Pace := ⟨sampleRate, none⟩

/-- Forget the previous burst. -/
def reset (pace : Pace) : Pace :=
  { pace with next := none }

/-- The instant at which a burst ends that is handed over at time `now`. -/
def burstEnd (pace : Pace) (samples now : Nat) : Nat :=
  max (pace.next.getD 0) (Clock.nanos now) + span pace.sampleRate samples

end Pace
end VirtualRadio
