namespace VirtualRadio

/-!
# Time

Time is counted from zero.  A deadline is an instant in nanoseconds, while the
clock shows whole milliseconds only.  So a wait ends at the first millisecond
that is not before its deadline, and a wait whose deadline has passed ends
without any time going by.
-/

namespace Clock

/-- A millisecond, in nanoseconds. -/
def nanosPerMilli : Nat := 1000000

/-- The instant at which the clock begins to show `millis`. -/
def nanos (millis : Nat) : Nat :=
  millis * nanosPerMilli

/-- The first whole millisecond that is not before an instant. -/
def ceilMillis (instant : Nat) : Nat :=
  (instant + (nanosPerMilli - 1)) / nanosPerMilli

/-- Whether a wait for `deadline` is over when the clock shows `now`. -/
def isDue (deadline now : Nat) : Bool :=
  decide (deadline ≤ nanos now)

/-- A wait is over exactly from the first millisecond on that is not before its
deadline. -/
theorem isDue_iff_ceilMillis_le (deadline now : Nat) :
    isDue deadline now = true ↔ ceilMillis deadline ≤ now := by
  have unfolded : isDue deadline now = true ↔ deadline ≤ now * 1000000 := decide_eq_true_iff
  rw [unfolded, ceilMillis, nanosPerMilli]
  omega

theorem lt_ceilMillis_iff (deadline now : Nat) :
    now < ceilMillis deadline ↔ nanos now < deadline := by
  have unfolded : nanos now < deadline ↔ now * 1000000 < deadline := Iff.rfl
  rw [unfolded, ceilMillis, nanosPerMilli]
  omega

theorem ceilMillis_nanos (millis : Nat) : ceilMillis (nanos millis) = millis := by
  simp only [ceilMillis, nanos, nanosPerMilli]
  omega

theorem nanos_add (first second : Nat) : nanos (first + second) = nanos first + nanos second :=
  Nat.add_mul _ _ _

theorem ceilMillis_mono {first second : Nat} (ordered : first ≤ second) :
    ceilMillis first ≤ ceilMillis second :=
  Nat.div_le_div_right (Nat.add_le_add_right ordered _)

theorem le_nanos_ceilMillis (instant : Nat) : instant ≤ nanos (ceilMillis instant) := by
  simp only [ceilMillis, nanos, nanosPerMilli]
  omega

/-- A wait ends less than a millisecond late. -/
theorem nanos_ceilMillis_lt (instant : Nat) :
    nanos (ceilMillis instant) < instant + nanosPerMilli := by
  simp only [ceilMillis, nanos, nanosPerMilli]
  omega

end Clock
end VirtualRadio
