import VirtualRadio.Control.Bank
import VirtualRadio.Profile

namespace VirtualRadio

/-!
# Gains

Attenuators and drive are small integers on the wire; the hardware path wants
linear factors.  The factors are kept up to date: after each control block
those are recomputed whose registers the block changed.

The conversion from decibels to a factor is a parameter, so that statements
about gains need nothing of it but its value at zero.
-/

namespace Decibel

/-- The voltage factor of an attenuation in decibels. -/
def linear (attenuation : Float) : Float :=
  Float.pow 10.0 (-0.05 * attenuation)

end Decibel

/-- The linear factors. -/
structure Gains where
  txAttenuation : Float
  rxAttenuation : Vector Float 4
  txDrive : Float

namespace Gains

/-- The factors before any register has been written. -/
def initial : Gains :=
  ⟨1.0, Vector.replicate 4 1.0, 0.99⟩

instance : Inhabited Gains := ⟨initial⟩

/-- The value of a register as a number; an unwritten register counts as zero. -/
def reading (bank : RegisterBank) (register : Register) : Float :=
  Float.ofInt (bank.getD register 0)

/-- The attenuation of the first receiver in decibels.  C25 boards build it
from the antenna attenuator, dither and preamplifier. -/
def firstReceiverDecibels (profile : Profile) (bank : RegisterBank) : Float :=
  if profile = .c25 then
    12.0 * reading bank .alexAttenuator - 18.0 * reading bank .dither
      - 18.0 * reading bank .preamp
  else
    10.0 * reading bank .alexAttenuator + reading bank (.rxAttenuator 0)

/-- Whether one of some registers is among the changed ones. -/
def touches (changed registers : List Register) : Bool :=
  changed.any (fun register => registers.contains register)

/-- Recompute the factors that depend on the registers which a block on `page`
changed.  The result is absent if there are none. -/
def recompute? (linear : Float → Float) (profile : Profile) (page : Nat)
    (changed : List Register) (bank : RegisterBank) (gains : Gains) : Option Gains :=
  match page with
  | 0 =>
    if touches changed [.alexAttenuator, .preamp, .dither, .random] then
      some { gains with
        rxAttenuation := (gains.rxAttenuation.set 0
          (linear (firstReceiverDecibels profile bank))).set 1 1.0 }
    else
      none
  | 9 =>
    if touches changed [.txDrive] then
      some { gains with txDrive := reading bank .txDrive / 256.0 }
    else
      none
  | 10 =>
    if profile ≠ .c25 ∧ touches changed [.rxAttenuator 0, .rx1AttEnable] then
      some { gains with
        rxAttenuation := #v[linear (firstReceiverDecibels profile bank),
          linear (reading bank (.rxAttenuator 1)), 1.0, 1.0] }
    else
      none
  | 11 =>
    if touches changed [.rxAttenuator 1] then
      some { gains with
        rxAttenuation := gains.rxAttenuation.set 1 (linear (reading bank (.rxAttenuator 1))) }
    else
      none
  | 14 =>
    if touches changed [.txAttenuator] then
      some { gains with txAttenuation := linear (reading bank .txAttenuator) }
    else
      none
  | _ => none

end Gains
end VirtualRadio
