import VirtualRadio.Sample

namespace VirtualRadio

/-!
# The scaling of samples

A received value is multiplied in double precision and then cut to single
precision, so it is rounded twice.  That makes no difference: the result is the
single-precision number nearest to the exact product.

Rounding twice can only go wrong very close to the middle of two neighbours, and
no product lies there.  The factor is one part in 32767 but for a tiny rest, and
the middle is an odd number of units: 32767 such numbers are odd as well, while
a received value in these units is even.
-/

namespace Single

/-! ### Values -/

/-- The bits of a number without its sign. -/
def magnitude (value : Single) : Nat :=
  value.bits.toNat % 0x80000000

/-- What a magnitude stands for, in units of the smallest positive number, which is
`2 ^ -149`. -/
def magnitudeUnits (magnitude : Nat) : Nat :=
  if magnitude / 0x800000 = 0 then magnitude
  else (0x800000 + magnitude % 0x800000) * 1 <<< (magnitude / 0x800000 - 1)

def isNegative (value : Single) : Bool :=
  value.bits.toNat / 0x80000000 = 1

/-- A natural number with a sign. -/
def signed (negative : Bool) (number : Nat) : Int :=
  if negative then -number else number

/-- What a finite number stands for, in the same units. -/
def units (value : Single) : Int :=
  signed value.isNegative (magnitudeUnits value.magnitude)

def IsFinite (value : Single) : Prop :=
  value.magnitude < infinity

/-- How far a finite number is from a fraction, in the part of a unit that the
denominator names. -/
def distance (value : Single) (numerator : Int) (denominator : Nat) : Nat :=
  (value.units * denominator - numerator * (1 <<< 149 : Nat)).natAbs

/-- Every finite number with another value is further away from a fraction. -/
def IsNearest (value : Single) (numerator : Int) (denominator : Nat) : Prop :=
  value.IsFinite ∧ ∀ other : Single, other.IsFinite → other.units ≠ value.units →
    value.distance numerator denominator < other.distance numerator denominator

theorem one_shiftLeft_succ (place : Nat) : 1 <<< (place + 1) = 2 * 1 <<< place :=
  Nat.shiftLeft_succ 1 place

/-- A magnitude by the place of its last digit and its significand, which may be the
one after the last. -/
theorem magnitudeUnits_eq (place : Nat) {significand : Nat} (low : 0x800000 ≤ significand)
    (high : significand ≤ 0x1000000) :
    magnitudeUnits (place * 0x800000 + significand) = significand * 1 <<< place := by
  rcases Nat.lt_or_ge significand 0x1000000 with inside | carried
  · have exponent : (place * 0x800000 + significand) / 0x800000 = place + 1 := by omega
    have fraction : 0x800000 + (place * 0x800000 + significand) % 0x800000 = significand := by
      omega
    rw [magnitudeUnits, exponent, fraction, if_neg (Nat.succ_ne_zero _), Nat.add_sub_cancel]
  · have exponent : (place * 0x800000 + significand) / 0x800000 = place + 2 := by omega
    have fraction : (place * 0x800000 + significand) % 0x800000 = 0 := by omega
    rw [magnitudeUnits, exponent, fraction, if_neg (Nat.succ_ne_zero _)]
    change 0x800000 * 1 <<< (place + 1) = _
    rw [one_shiftLeft_succ, Nat.le_antisymm high carried, ← Nat.mul_assoc]

theorem magnitudeUnits_lt_succ (magnitude : Nat) :
    magnitudeUnits magnitude < magnitudeUnits (magnitude + 1) := by
  by_cases subnormal : magnitude + 1 < 0x800000
  · rw [magnitudeUnits, if_pos (by omega), magnitudeUnits, if_pos (by omega)]
    exact Nat.lt_succ_self _
  · by_cases first : magnitude + 1 = 0x800000
    · have before : magnitude = 0x7FFFFF := by omega
      rw [before]
      decide
    · obtain ⟨place, significand, low, high, split⟩ : ∃ place significand,
          0x800000 ≤ significand ∧ significand < 0x1000000 ∧
            magnitude = place * 0x800000 + significand :=
        ⟨magnitude / 0x800000 - 1, magnitude % 0x800000 + 0x800000, by omega, by omega, by omega⟩
      rw [split, Nat.add_assoc, magnitudeUnits_eq _ low (by omega),
        magnitudeUnits_eq _ (by omega) (by omega), Nat.succ_mul]
      exact Nat.lt_add_of_pos_right (Rounding.one_shiftLeft_pos place)

theorem magnitudeUnits_mono {first second : Nat} (ordered : first ≤ second) :
    magnitudeUnits first ≤ magnitudeUnits second := by
  induction ordered with
  | refl => exact Nat.le_refl _
  | step _ ih => exact Nat.le_trans ih (Nat.le_of_lt (magnitudeUnits_lt_succ _))

/-- The neighbour above is at least one last place away. -/
theorem succ_mul_le_magnitudeUnits (place : Nat) {significand : Nat} (low : 0x800000 ≤ significand)
    (high : significand ≤ 0x1000000) :
    (significand + 1) * 1 <<< place ≤
      magnitudeUnits (place * 0x800000 + significand + 1) := by
  rcases Nat.lt_or_ge significand 0x1000000 with inside | carried
  · apply Nat.le_of_eq
    rw [Nat.add_assoc, magnitudeUnits_eq _ (by omega) (by omega)]
  · have next : place * 0x800000 + significand + 1 =
        (place + 1) * 0x800000 + (0x800000 + 1) := by omega
    rw [next, magnitudeUnits_eq _ (by decide) (by decide), one_shiftLeft_succ, Nat.mul_left_comm,
      ← Nat.mul_assoc]
    exact Nat.mul_le_mul_right _ (by omega)

/-- The neighbour below is one last place away, or half of one below a power of two. -/
theorem magnitudeUnits_pred (place : Nat) {significand : Nat} (low : 0x800000 ≤ significand)
    (high : significand ≤ 0x1000000) :
    2 * magnitudeUnits ((place + 1) * 0x800000 + significand - 1) =
      if significand = 0x800000 then (2 * significand - 1) * 1 <<< (place + 1)
      else (2 * significand - 2) * 1 <<< (place + 1) := by
  split
  · next first =>
    have before : (place + 1) * 0x800000 + significand - 1 = place * 0x800000 + 0xFFFFFF := by
      omega
    rw [before, magnitudeUnits_eq _ (by decide) (by decide), one_shiftLeft_succ, first]
    omega
  · next later =>
    have before : (place + 1) * 0x800000 + significand - 1 =
        (place + 1) * 0x800000 + (significand - 1) := by omega
    rw [before, magnitudeUnits_eq _ (by omega) (by omega), ← Nat.mul_assoc]
    congr 1
    omega

/-! ### Nearest numbers -/

theorem signed_mul (negative : Bool) (number factor : Nat) :
    signed negative number * factor = signed negative (number * factor) := by
  cases negative
  · rfl
  · exact Int.neg_mul number factor

theorem natAbs_signed_sub (first second : Bool) (left right : Nat) :
    (signed first left - signed second right).natAbs =
      if first = second then ((left : Int) - right).natAbs else left + right := by
  cases first
  · cases second
    · rfl
    · change ((left : Int) - -right).natAbs = left + right
      omega
  · cases second
    · change (-(left : Int) - right).natAbs = left + right
      omega
    · change (-(left : Int) - -right).natAbs = ((left : Int) - right).natAbs
      omega

/-- The distance depends on the magnitudes and on whether the signs agree. -/
theorem distance_eq (value : Single) (negative : Bool) (numerator denominator : Nat) :
    value.distance (signed negative numerator) denominator =
      if value.isNegative = negative then
        ((magnitudeUnits value.magnitude * denominator : Nat)
          - (numerator * 1 <<< 149 : Nat) : Int).natAbs
      else magnitudeUnits value.magnitude * denominator + numerator * 1 <<< 149 := by
  rw [distance, units, signed_mul, signed_mul, natAbs_signed_sub]

/-- A number is nearest to everything between the middles to its neighbours. -/
theorem isNearest_of_between {value : Single} {numerator denominator : Nat}
    (finite : value.IsFinite) (nonzero : value.magnitude ≠ 0)
    (below : (magnitudeUnits (value.magnitude - 1) + magnitudeUnits value.magnitude)
      * denominator < 2 * (numerator * 1 <<< 149))
    (above : 2 * (numerator * 1 <<< 149) < (magnitudeUnits value.magnitude
      + magnitudeUnits (value.magnitude + 1)) * denominator) :
    value.IsNearest (signed value.isNegative numerator) denominator := by
  refine ⟨finite, fun other _ different => ?_⟩
  have grows : magnitudeUnits (value.magnitude - 1) < magnitudeUnits value.magnitude := by
    have step := magnitudeUnits_lt_succ (value.magnitude - 1)
    rwa [Nat.sub_add_cancel (Nat.pos_of_ne_zero nonzero)] at step
  have apart : other.isNegative = value.isNegative →
      magnitudeUnits other.magnitude ≤ magnitudeUnits (value.magnitude - 1) ∨
        magnitudeUnits (value.magnitude + 1) ≤ magnitudeUnits other.magnitude := by
    intro agree
    rcases Nat.lt_trichotomy other.magnitude value.magnitude with less | same | more
    · exact .inl (magnitudeUnits_mono (Nat.le_sub_one_of_lt less))
    · exact absurd (by rw [units, units, same, agree]) different
    · exact .inr (magnitudeUnits_mono more)
  rw [distance_eq, distance_eq, if_pos rfl]
  rw [Nat.add_mul] at below above
  have denominator_pos : 0 < denominator := by
    apply Nat.pos_of_ne_zero
    rintro rfl
    omega
  have step := Nat.mul_lt_mul_of_pos_right grows denominator_pos
  have next := Nat.mul_lt_mul_of_pos_right (magnitudeUnits_lt_succ value.magnitude)
    denominator_pos
  have nearer := fun agree => (apart agree).imp
    (Nat.mul_le_mul_right denominator) (Nat.mul_le_mul_right denominator)
  generalize magnitudeUnits value.magnitude * denominator = here at *
  generalize magnitudeUnits other.magnitude * denominator = there at *
  generalize magnitudeUnits (value.magnitude - 1) * denominator = lower at *
  generalize magnitudeUnits (value.magnitude + 1) * denominator = upper at *
  generalize numerator * 1 <<< 149 = target at *
  split
  · next agree =>
    rcases nearer agree with less | more <;> omega
  · omega

end Single

namespace Sample

/-! ### Two roundings -/

/-- What the two roundings of a product leave: a significand whose last place is a
power of two, in parts of `2 ^ -38`. -/
structure TwiceRounded (magnitude place significand : Nat) : Prop where
  place_le : place ≤ 15
  low : 0x800000 ≤ significand
  high : significand ≤ 0x1000000
  covers : 0x10000000000000 * 1 <<< place ≤ magnitude * fullScale
  within : magnitude * fullScale < 0x20000000000000 * 1 <<< place
  above : 2 * (magnitude * fullScale) ≤
    (2 * (significand * 1 <<< place) + 1 <<< place) * 0x20000000 + 1 <<< place
  below : 2 * (significand * 1 <<< place) * 0x20000000 ≤
    2 * (magnitude * fullScale) + 1 <<< place * 0x20000000 + 1 <<< place

/-- The exact product, in parts of `2 ^ -39` and of the decimal fraction. -/
def exactParts (magnitude : Nat) : Nat :=
  magnitude * 30518509476 * 0x8000000000

/-- An odd number of places is never 32767 times less than an even one, so the two
differ by a place at least. -/
theorem odd_apart (magnitude odd : Nat) {place : Nat} (short : place ≤ 15)
    (isOdd : odd % 2 = 1) :
    32767 * (odd * 1 <<< place) + 1 <<< place ≤ magnitude * 0x8000000000 ∨
      magnitude * 0x8000000000 + 1 <<< place ≤ 32767 * (odd * 1 <<< place) := by
  have factors : magnitude * 0x8000000000 =
      2 * (magnitude * 1 <<< (38 - place)) * 1 <<< place := by
    have sum : 39 = 1 + (38 - place) + place := by omega
    have powers : 0x8000000000 = 2 * 1 <<< (38 - place) * 1 <<< place := by
      change 1 <<< 39 = _
      conv => lhs; rw [sum]
      simp only [Nat.one_shiftLeft, Nat.pow_add, Nat.pow_one]
    rw [powers]
    ac_rfl
  rw [factors, ← Nat.mul_assoc]
  generalize magnitude * 1 <<< (38 - place) = half
  rcases Nat.lt_or_ge (32767 * odd) (2 * half) with less | more
  · left
    rw [← Nat.succ_mul]
    exact Nat.mul_le_mul_right _ less
  · right
    rw [← Nat.succ_mul]
    exact Nat.mul_le_mul_right _ (by omega)

namespace TwiceRounded

variable {magnitude place significand : Nat}

/-- The received value is less than two of its last places, as it is in parts of
`2 ^ -38`. -/
theorem lt_two_places (rounded : TwiceRounded magnitude place significand) :
    magnitude < 2 * 1 <<< place := by
  have within := rounded.within
  rw [fullScale] at within
  omega

/-- The exact product is below the middle to the next significand. -/
theorem lt_middle_above (rounded : TwiceRounded magnitude place significand) :
    exactParts magnitude <
      (2 * (significand * 1 <<< place) + 1 <<< place) * 1000000000000000 := by
  have apart := odd_apart magnitude (2 * significand + 1) rounded.place_le (by omega)
  have odd : (2 * significand + 1) * 1 <<< place =
      2 * (significand * 1 <<< place) + 1 <<< place := by
    rw [Nat.add_mul, Nat.one_mul, Nat.mul_assoc]
  have small : 2 * (significand * 1 <<< place) + 1 <<< place ≤ 0x2000001 * 1 <<< place := by
    rw [← odd]
    exact Nat.mul_le_mul_right _ (by have := rounded.high; omega)
  have positive := Rounding.one_shiftLeft_pos place
  have above := rounded.above
  rw [odd] at apart
  rw [exactParts]
  rw [fullScale] at above
  generalize 2 * (significand * 1 <<< place) + 1 <<< place = middle at *
  generalize 1 <<< place = unit at *
  -- Double precision would have gone up past the middle in the first case.  In the second
  -- the rest of the decimal factor, 92 parts in 10 ^ 15, does not make up for a place.
  rcases apart with less | more
  · omega
  · omega

/-- The exact product is above the middle to the previous significand. -/
theorem middle_below_lt (rounded : TwiceRounded magnitude place significand) :
    2 * (significand * 1 <<< place) * 1000000000000000 <
      exactParts magnitude + 1 <<< place * 1000000000000000 := by
  have low := rounded.low
  have apart := odd_apart magnitude (2 * significand - 1) rounded.place_le (by omega)
  have odd : (2 * significand - 1) * 1 <<< place + 1 <<< place =
      2 * (significand * 1 <<< place) := by
    rw [← Nat.succ_mul, ← Nat.mul_assoc]
    congr 1
    omega
  have below := rounded.below
  have two := rounded.lt_two_places
  have positive := Rounding.one_shiftLeft_pos place
  rw [exactParts]
  rw [fullScale] at below
  rw [← odd] at below ⊢
  generalize (2 * significand - 1) * 1 <<< place = middle at *
  generalize 1 <<< place = unit at *
  -- The decimal factor is the larger one, so only the second case has to be excluded.
  rcases apart with less | more
  · omega
  · omega

/-- Below a power of two the middle is half as far away.  The products there are not
below that power at all. -/
theorem middle_below_first_lt (rounded : TwiceRounded magnitude place 0x800000) :
    0x1FFFFFF * 1 <<< place * 1000000000000000 < 2 * exactParts magnitude := by
  have covers := rounded.covers
  have positive := Rounding.one_shiftLeft_pos place
  rw [exactParts]
  rw [fullScale] at covers
  generalize 1 <<< place = unit at *
  omega

end TwiceRounded

theorem mul_fullScale_bounds {magnitude : Nat} (positive : 0 < magnitude)
    (short : magnitude ≤ 32768) :
    0x10000000000000 ≤ magnitude * fullScale ∧ magnitude * fullScale < 1 <<< 68 := by
  change _ ∧ _ < 0x100000000000000000
  rw [fullScale]
  omega

/-- The place of the last digit that double precision has for a product. -/
def lastPlace (magnitude : Nat) : Nat :=
  (magnitude * fullScale).log2 - 52

/-- The significand of a product in double precision. -/
def doubleSignificand (magnitude : Nat) : Nat :=
  Rounding.shiftRight (magnitude * fullScale) (lastPlace magnitude)

theorem lastPlace_spec {magnitude : Nat} (positive : 0 < magnitude)
    (short : magnitude ≤ 32768) :
    lastPlace magnitude ≤ 15 ∧
      0x10000000000000 * 1 <<< lastPlace magnitude ≤ magnitude * fullScale ∧
      magnitude * fullScale < 0x20000000000000 * 1 <<< lastPlace magnitude := by
  obtain ⟨least, most⟩ := mul_fullScale_bounds positive short
  have nonzero : magnitude * fullScale ≠ 0 := by omega
  have digits : 52 ≤ (magnitude * fullScale).log2 := (Nat.le_log2 nonzero).mpr least
  have fewer : (magnitude * fullScale).log2 < 68 := (Nat.log2_lt nonzero).mpr most
  obtain ⟨place, split⟩ : ∃ place, (magnitude * fullScale).log2 = 52 + place :=
    ⟨_, (Nat.add_sub_cancel' digits).symm⟩
  have place_eq : lastPlace magnitude = place := by
    rw [lastPlace, split, Nat.add_sub_cancel_left]
  have reached := Nat.log2_self_le nonzero
  have passed := Nat.lt_log2_self (n := magnitude * fullScale)
  rw [split, Nat.pow_add] at reached
  rw [split, Nat.add_right_comm, Nat.pow_add] at passed
  rw [place_eq, Nat.one_shiftLeft]
  exact ⟨by omega, reached, passed⟩

theorem doubleSignificand_bounds {magnitude : Nat} (positive : 0 < magnitude)
    (short : magnitude ≤ 32768) :
    0x10000000000000 ≤ doubleSignificand magnitude ∧
      doubleSignificand magnitude ≤ 0x20000000000000 := by
  obtain ⟨_, covers, within⟩ := lastPlace_spec positive short
  exact ⟨Rounding.le_shiftRight covers, Rounding.shiftRight_le (Nat.le_of_lt within)⟩

/-- The product in double precision, rounded to single precision. -/
theorem twiceRounded {magnitude : Nat} (positive : 0 < magnitude) (short : magnitude ≤ 32768) :
    TwiceRounded magnitude (lastPlace magnitude)
      (Rounding.shiftRight (doubleSignificand magnitude) 29) := by
  obtain ⟨place_le, covers, within⟩ := lastPlace_spec positive short
  obtain ⟨low, high⟩ := doubleSignificand_bounds positive short
  have first := Rounding.shiftRight_near (magnitude * fullScale) (lastPlace magnitude)
  have second := Rounding.shiftRight_near (doubleSignificand magnitude) 29
  change _ ≤ 2 * (doubleSignificand magnitude * _) + _ ∧
    2 * (doubleSignificand magnitude * _) ≤ _ at first
  change _ ≤ 2 * (_ * 0x20000000) + 0x20000000 ∧ 2 * (_ * 0x20000000) ≤ _ + 0x20000000 at second
  refine ⟨place_le, Rounding.le_shiftRight low, Rounding.shiftRight_le high, covers, within,
    ?above, ?below⟩
  case above =>
    have scaled := Nat.mul_le_mul_right (1 <<< lastPlace magnitude) second.1
    simp only [Nat.add_mul, Nat.mul_assoc, Nat.mul_comm 0x20000000] at scaled ⊢
    omega
  case below =>
    have scaled := Nat.mul_le_mul_right (1 <<< lastPlace magnitude) second.2
    simp only [Nat.add_mul, Nat.mul_assoc, Nat.mul_comm 0x20000000] at scaled ⊢
    omega

/-! ### The bits of a scaled value -/

/-- The second rounding. A carry out of the first significand leaves a significand of
its own. -/
theorem nearestMagnitude_of_significand {place first : Nat} (short : place ≤ 15)
    (low : 0x10000000000000 ≤ first) (high : first ≤ 0x20000000000000) :
    Single.nearestMagnitude (((place + 1007) * 0x10000000000000 + first) / 0x10000000000000)
        (((place + 1007) * 0x10000000000000 + first) % 0x10000000000000) =
      (place + 111) * 0x800000 + Rounding.shiftRight first 29 := by
  have significand_le : Rounding.shiftRight first 29 ≤ 0x1000000 := Rounding.shiftRight_le high
  rcases Nat.lt_or_ge first 0x20000000000000 with inside | carried
  · have exponent : ((place + 1007) * 0x10000000000000 + first) / 0x10000000000000 =
        place + 1008 := by omega
    have fraction : ((place + 1007) * 0x10000000000000 + first) % 0x10000000000000 + 1 <<< 52 =
        first := by
      change _ + 0x10000000000000 = _
      omega
    rw [exponent, Single.nearestMagnitude, if_neg (by omega), fraction, if_neg (by omega),
      Nat.shiftLeft_eq, Single.infinity]
    omega
  · have carry : first = 0x20000000000000 := Nat.le_antisymm high carried
    have exponent : ((place + 1007) * 0x10000000000000 + first) / 0x10000000000000 =
        place + 1009 := by omega
    have fraction : ((place + 1007) * 0x10000000000000 + first) % 0x10000000000000 = 0 := by
      omega
    have once : Rounding.shiftRight (0 + 1 <<< 52) 29 = 0x800000 := by decide
    have twice : Rounding.shiftRight 0x20000000000000 29 = 0x1000000 := by decide
    rw [exponent, fraction, Single.nearestMagnitude, if_neg (by omega), if_neg (by omega), once,
      carry, twice, Nat.shiftLeft_eq, Single.infinity]
    omega

/-- The magnitude of what a received value is scaled to. -/
def scaledMagnitude (magnitude : Nat) : Nat :=
  if magnitude = 0 then 0
  else (lastPlace magnitude + 111) * 0x800000 +
    Rounding.shiftRight (doubleSignificand magnitude) 29

theorem scaledMagnitude_lt {magnitude : Nat} (short : magnitude ≤ 32768) :
    scaledMagnitude magnitude < Single.infinity := by
  rw [scaledMagnitude, Single.infinity]
  split
  · omega
  · next nonzero =>
    have rounded := twiceRounded (Nat.pos_of_ne_zero nonzero) short
    have place_le := rounded.place_le
    have high := rounded.high
    omega

theorem ofDouble_product (negative : Bool) {magnitude : Nat} (short : magnitude ≤ 32768) :
    (Single.ofDouble ((if negative then 1 <<< 63 else 0) + product magnitude)).bits.toNat =
      (if negative then 0x80000000 else 0) + scaledMagnitude magnitude := by
  have magnitude_lt := scaledMagnitude_lt short
  by_cases zero : magnitude = 0
  · subst zero
    cases negative <;> rfl
  · have positive := Nat.pos_of_ne_zero zero
    obtain ⟨place_le, _⟩ := lastPlace_spec positive short
    obtain ⟨low, high⟩ := doubleSignificand_bounds positive short
    have bits : product magnitude =
        (lastPlace magnitude + 1007) * 0x10000000000000 + doubleSignificand magnitude := by
      rw [product, if_neg zero]
      change (lastPlace magnitude + 1007) <<< 52 + doubleSignificand magnitude = _
      rw [Nat.shiftLeft_eq]
    have scaled := nearestMagnitude_of_significand place_le low high
    rw [← bits] at scaled
    rw [scaledMagnitude, if_neg zero, ← scaled] at magnitude_lt ⊢
    have top : product magnitude / 0x10000000000000 < 2047 := by omega
    have signed : ∃ sign, sign < 2 ∧ (if negative then 1 <<< 63 else 0) = sign * 1 <<< 63 ∧
        (if negative then 0x80000000 else 0) = sign * 0x80000000 := by
      cases negative
      · exact ⟨0, by decide, rfl, rfl⟩
      · exact ⟨1, by decide, rfl, rfl⟩
    obtain ⟨sign, sign_lt, double, single⟩ := signed
    have powers : sign * 1 <<< 63 = sign * 0x8000000000000000 := rfl
    have exponent : (sign * 0x8000000000000000 + product magnitude) >>> 52 % 2048 =
        product magnitude / 0x10000000000000 := by
      rw [Nat.shiftRight_eq_div_pow]
      omega
    have fraction : (sign * 0x8000000000000000 + product magnitude) % 1 <<< 52 =
        product magnitude % 0x10000000000000 := by
      change _ % 0x10000000000000 = _
      omega
    have highest : (sign * 0x8000000000000000 + product magnitude) >>> 63 = sign := by
      rw [Nat.shiftRight_eq_div_pow]
      omega
    rw [double, powers, single, Single.ofDouble, exponent, fraction, highest, if_pos top,
      Nat.shiftLeft_eq]
    rw [Single.infinity] at magnitude_lt
    change (UInt32.ofNat _).toNat = _
    rw [UInt32.toNat_ofNat_of_lt' (by rw [UInt32.size]; omega)]

/-- A scaled value has the sign of the received one. -/
theorem scale_bits (value : Int16) :
    (scale value).bits.toNat =
      (if value < 0 then 0x80000000 else 0) + scaledMagnitude value.toInt.natAbs := by
  have least := value.le_toInt
  have most := value.toInt_lt
  have short : value.toInt.natAbs ≤ 32768 := by omega
  have bits := ofDouble_product (decide (value < 0)) short
  simpa only [decide_eq_true_eq, scale] using bits

theorem scale_magnitude (value : Int16) :
    (scale value).magnitude = scaledMagnitude value.toInt.natAbs := by
  have least := value.le_toInt
  have most := value.toInt_lt
  have small : scaledMagnitude value.toInt.natAbs < 0x7F800000 :=
    scaledMagnitude_lt (by omega)
  rw [Single.magnitude, scale_bits]
  split <;> omega

theorem scale_isNegative (value : Int16) : (scale value).isNegative = decide (value < 0) := by
  have least := value.le_toInt
  have most := value.toInt_lt
  have small : scaledMagnitude value.toInt.natAbs < 0x7F800000 :=
    scaledMagnitude_lt (by omega)
  rw [Single.isNegative, scale_bits, decide_eq_decide]
  split
  · next negative => simp only [negative, iff_true]; omega
  · next positive => simp only [positive, iff_false]; omega

theorem toInt_eq_signed (value : Int16) :
    value.toInt = Single.signed (decide (value < 0)) value.toInt.natAbs := by
  simp only [Single.signed, decide_eq_true_eq, Int16.lt_iff_toInt_lt, Int16.toInt_zero]
  omega

/-- The middle to the neighbour below, which is nearer at a power of two. -/
theorem lower_middle_lt {previous significand unit target : Nat} (low : 0x800000 ≤ significand)
    (before : 2 * previous = if significand = 0x800000 then (2 * significand - 1) * unit
      else (2 * significand - 2) * unit)
    (first : significand = 0x800000 → 0x1FFFFFF * unit * 1000000000000000 < 2 * target)
    (later : 2 * (significand * unit) * 1000000000000000 < target + unit * 1000000000000000) :
    (previous + significand * unit) * 1000000000000000 < target := by
  split at before
  · next isFirst =>
    apply Nat.lt_of_mul_lt_mul_left (a := 2)
    calc 2 * ((previous + significand * unit) * 1000000000000000)
        = (2 * previous + 2 * (significand * unit)) * 1000000000000000 := by
          rw [← Nat.mul_assoc, Nat.mul_add]
      _ = 0x1FFFFFF * unit * 1000000000000000 := by
          rw [before, isFirst]
          congr 1
          omega
      _ < 2 * target := first isFirst
  · have one_place : previous + unit = significand * unit := by
      have twice : (2 * significand - 2) * unit + 2 * unit = 2 * (significand * unit) := by
        rw [← Nat.add_mul, ← Nat.mul_assoc]
        congr 1
        omega
      omega
    apply Nat.lt_of_add_lt_add_right (n := unit * 1000000000000000)
    calc (previous + significand * unit) * 1000000000000000 + unit * 1000000000000000
        = 2 * (significand * unit) * 1000000000000000 := by
          rw [← Nat.add_mul]
          congr 1
          omega
      _ < target + unit * 1000000000000000 := later

/-- The exact product lies between the middles to both neighbours. -/
theorem between_middles {magnitude : Nat} (positive : 0 < magnitude)
    (short : magnitude ≤ 32768) :
    (Single.magnitudeUnits (scaledMagnitude magnitude - 1)
        + Single.magnitudeUnits (scaledMagnitude magnitude)) * 1000000000000000 <
      2 * (magnitude * 30518509476 * 1 <<< 149) ∧
    2 * (magnitude * 30518509476 * 1 <<< 149) <
      (Single.magnitudeUnits (scaledMagnitude magnitude)
        + Single.magnitudeUnits (scaledMagnitude magnitude + 1)) * 1000000000000000 := by
  have rounded := twiceRounded positive short
  have scaled : scaledMagnitude magnitude = (lastPlace magnitude + 111) * 0x800000 +
      Rounding.shiftRight (doubleSignificand magnitude) 29 := by
    rw [scaledMagnitude, if_neg (Nat.ne_of_gt positive)]
  rw [scaled]
  generalize Rounding.shiftRight (doubleSignificand magnitude) 29 = significand at *
  generalize lastPlace magnitude = place at *
  have here := Single.magnitudeUnits_eq (place + 111) rounded.low rounded.high
  have before := Single.magnitudeUnits_pred (place + 110) rounded.low rounded.high
  have next := Single.succ_mul_le_magnitudeUnits (place + 111) rounded.low rounded.high
  have places : 1 <<< (place + 111) = 1 <<< place * 1 <<< 111 := by
    simp only [Nat.one_shiftLeft, Nat.pow_add]
  have target : 2 * (magnitude * 30518509476 * 1 <<< 149) = exactParts magnitude * 1 <<< 111 := by
    change 2 * (_ * (0x4000000000 * 1 <<< 111)) = _
    rw [exactParts]
    omega
  have part_pos := Rounding.one_shiftLeft_pos 111
  rw [places] at here before next
  rw [here, target]
  constructor
  · refine lower_middle_lt rounded.low before (fun first => ?first) ?later
    case first =>
      have first_lt := Nat.mul_lt_mul_of_pos_right (first ▸ rounded).middle_below_first_lt part_pos
      calc _ = 0x1FFFFFF * 1 <<< place * 1000000000000000 * 1 <<< 111 := by ac_rfl
        _ < _ := first_lt
        _ = _ := Nat.mul_assoc _ _ _
    case later =>
      have later_lt := Nat.mul_lt_mul_of_pos_right rounded.middle_below_lt part_pos
      calc _ = 2 * (significand * 1 <<< place) * 1000000000000000 * 1 <<< 111 := by ac_rfl
        _ < _ := later_lt
        _ = _ := by rw [Nat.add_mul, Nat.mul_right_comm (1 <<< place)]
  · calc _ < (2 * (significand * 1 <<< place) + 1 <<< place) * 1000000000000000 * 1 <<< 111 :=
          Nat.mul_lt_mul_of_pos_right rounded.lt_middle_above part_pos
      _ = (significand * (1 <<< place * 1 <<< 111) + (significand + 1) * (1 <<< place * 1 <<< 111))
          * 1000000000000000 := by grind
      _ ≤ _ := Nat.mul_le_mul_right _ (Nat.add_le_add_left next _)

/-- A received value is scaled to the single-precision number nearest to the exact
product with 0.000030518509476. -/
theorem scale_isNearest (value : Int16) :
    (scale value).IsNearest (value.toInt * 30518509476) 1000000000000000 := by
  have least := value.le_toInt
  have most := value.toInt_lt
  have short : value.toInt.natAbs ≤ 32768 := by omega
  have finite : (scale value).IsFinite := by
    rw [Single.IsFinite, scale_magnitude]
    exact scaledMagnitude_lt short
  by_cases zero : value.toInt = 0
  · have zero_units : (scale value).units = 0 := by
      rw [Single.units, scale_magnitude, zero, scale_isNegative]
      exact ite_self 0
    refine ⟨finite, fun other _ different => ?_⟩
    rw [Single.distance, Single.distance, zero_units, zero]
    rw [zero_units] at different
    omega
  · have positive : 0 < value.toInt.natAbs := Int.natAbs_pos.mpr zero
    obtain ⟨below, above⟩ := between_middles positive short
    have numerator : value.toInt * 30518509476 =
        Single.signed (scale value).isNegative (value.toInt.natAbs * 30518509476) := by
      rw [scale_isNegative, ← Single.signed_mul, ← toInt_eq_signed]
      rfl
    have nonzero : scaledMagnitude value.toInt.natAbs ≠ 0 := by
      have low := (twiceRounded positive short).low
      rw [scaledMagnitude, if_neg (Nat.ne_of_gt positive)]
      omega
    rw [numerator]
    rw [← scale_magnitude] at below above nonzero
    exact Single.isNearest_of_between finite nonzero below above

end Sample
end VirtualRadio
