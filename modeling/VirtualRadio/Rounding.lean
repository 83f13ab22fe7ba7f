namespace VirtualRadio
namespace Rounding

/-!
# Rounding

Binary fractions are rounded to the nearest number that has a place for them.
A number in the middle goes to the neighbour whose last digit is even.
-/

/-- The nearest natural number to `numerator / 2 ^ shift`; a half goes to the
even neighbour. -/
def shiftRight (numerator shift : Nat) : Nat :=
  let quotient := numerator >>> shift
  let rest := numerator - quotient <<< shift
  let unit := 1 <<< shift
  if 2 * rest > unit || (2 * rest = unit && quotient % 2 = 1) then quotient + 1 else quotient

theorem one_shiftLeft_pos (shift : Nat) : 0 < 1 <<< shift := by
  rw [Nat.one_shiftLeft]
  exact Nat.two_pow_pos shift

/-- What is rounded is at most half a unit away. -/
theorem shiftRight_near (numerator shift : Nat) :
    2 * numerator ≤ 2 * (shiftRight numerator shift * 1 <<< shift) + 1 <<< shift ∧
      2 * (shiftRight numerator shift * 1 <<< shift) ≤ 2 * numerator + 1 <<< shift := by
  have division := Nat.div_add_mod' numerator (1 <<< shift)
  have rest := Nat.mod_lt numerator (one_shiftLeft_pos shift)
  have quotient : numerator >>> shift = numerator / 1 <<< shift := by
    rw [Nat.one_shiftLeft, Nat.shiftRight_eq_div_pow]
  have whole : (numerator / 1 <<< shift) <<< shift = numerator / 1 <<< shift * 1 <<< shift := by
    rw [Nat.shiftLeft_eq, Nat.one_shiftLeft]
  simp only [shiftRight, quotient, whole]
  split
  · next up =>
    rw [Bool.or_eq_true, Bool.and_eq_true, decide_eq_true_eq, decide_eq_true_eq] at up
    rw [Nat.add_mul, Nat.one_mul]
    omega
  · next down =>
    rw [Bool.or_eq_true, decide_eq_true_eq, not_or] at down
    omega

variable {numerator shift bound : Nat}

theorem le_shiftRight (above : bound * 1 <<< shift ≤ numerator) :
    bound ≤ shiftRight numerator shift := by
  have near := (shiftRight_near numerator shift).1
  apply Nat.le_of_lt_succ
  apply Nat.lt_of_mul_lt_mul_right (a := 1 <<< shift)
  rw [Nat.succ_mul]
  have unit := one_shiftLeft_pos shift
  omega

theorem shiftRight_le (below : numerator ≤ bound * 1 <<< shift) :
    shiftRight numerator shift ≤ bound := by
  have near := (shiftRight_near numerator shift).2
  apply Nat.le_of_lt_succ
  apply Nat.lt_of_mul_lt_mul_right (a := 1 <<< shift)
  rw [Nat.succ_mul]
  have unit := one_shiftLeft_pos shift
  omega

end Rounding
end VirtualRadio
