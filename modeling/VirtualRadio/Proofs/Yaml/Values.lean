import VirtualRadio.Proofs.Yaml.Document

namespace VirtualRadio
namespace Yaml

/-!
# Values that were written

Texts, numbers and truth values are written as scalars that fit their styles
and that stand for them again.
-/

/-! ### Digits -/

/-- A character that has no meaning in a document but its own, wherever it
stands. -/
structure IsOrdinary (char : Char) : Prop where
  noIndicator : isLeadIndicator char = false
  noGap : isGap char = false
  printable : isPrintable char = true
  noMark : char ∉ ['?', ':', '-', '#', '.', '+', 'x', 'o', 'b']

theorem isOrdinary_of_mem_decimal {value : Nat} {char : Char} (mem : char ∈ Text.decimal value) :
    IsOrdinary char := by
  have digits : ∀ digit < 10, isLeadIndicator (Nat.digitChar digit) = false
      ∧ isGap (Nat.digitChar digit) = false ∧ isPrintable (Nat.digitChar digit) = true
      ∧ Nat.digitChar digit ∉ ['?', ':', '-', '#', '.', '+', 'x', 'o', 'b'] := by decide
  obtain ⟨digit, below, rfl⟩ := Text.exists_digit_of_mem_toDigits (by decide) mem
  obtain ⟨noIndicator, noGap, printable, noMark⟩ := digits digit below
  exact ⟨noIndicator, noGap, printable, noMark⟩

theorem hasInnerMark_of_isOrdinary {text : List Char} (all : ∀ char ∈ text, IsOrdinary char)
    (afterGap : Bool) : hasInnerMark afterGap text = false := by
  induction text generalizing afterGap with
  | nil => rfl
  | cons char text ih =>
    have here := (all char (.head _)).noMark
    have rest := ih (fun other mem => all other (.tail _ mem))
    simp only [List.mem_cons, not_or] at here
    simp [hasInnerMark, here, rest]

theorem fitsPlain_of_isOrdinary {text : List Char} (nonempty : text ≠ [])
    (all : ∀ char ∈ text, IsOrdinary char) : fitsPlain text = true := by
  cases text with
  | nil => contradiction
  | cons first rest =>
    have here := all first (.head _)
    have mark := here.noMark
    simp only [List.mem_cons, not_or] at mark
    have noSpace : ' ' ∉ first :: rest := fun mem => absurd (all _ mem).noGap (by decide)
    have noSpaceInFront : first ≠ ' ' := fun equal => noSpace (equal ▸ .head _)
    have noSpaceAtEnd : (first :: rest).getLast? ≠ some ' ' :=
      fun last => noSpace (List.mem_of_getLast? last)
    have stays : (first :: rest).any isBreak = false := by
      apply List.any_eq_false.mpr
      intro char mem
      have noGap := (all char mem).noGap
      simp only [isGap, Bool.or_eq_false_iff] at noGap
      simp [noGap.2]
    have printable : (first :: rest).all isPrintable = true :=
      List.all_eq_true.mpr (fun char mem => (all char mem).printable)
    simp [fitsPlain, here.noIndicator, mark, hasInnerMark_of_isOrdinary all, noSpaceInFront,
      noSpaceAtEnd, stays, printable]

theorem fitsPlain_decimal (value : Nat) : fitsPlain (Text.decimal value) = true :=
  fitsPlain_of_isOrdinary (Text.decimal_ne_nil value) (fun _ => isOrdinary_of_mem_decimal)

theorem hasLeadingZero_decimal (value : Nat) : hasLeadingZero (Text.decimal value) = false := by
  cases digits : Text.decimal value with
  | nil => exact absurd digits (Text.decimal_ne_nil value)
  | cons first rest =>
    have mark := (isOrdinary_of_mem_decimal (digits ▸ List.Mem.head rest)).noMark
    simp only [List.mem_cons, not_or] at mark
    by_cases zero : first = '0'
    · have single : Text.decimal value = ['0'] :=
        Text.toDigits_eq_singleton_of_head (by decide) (by decide) (by
          rw [← Text.decimal, digits, zero]
          rfl)
      obtain ⟨rfl, rfl⟩ := List.cons.inj (digits.symm.trans single)
      decide
    · simp [hasLeadingZero, mark, zero]

/-- The digits of a number stand for it. -/
theorem natural?_decimal (value : Nat) : natural? (Text.decimal value) = some value := by
  have noMark (char : Char) (mark : char ∈ ['?', ':', '-', '#', '.', '+', 'x', 'o', 'b']) :
      char ∉ Text.decimal value :=
    fun mem => (isOrdinary_of_mem_decimal mem).noMark mark
  have magnitude : magnitude? (Text.decimal value) = some value := by
    unfold magnitude?
    split
    · rename_i digits equal
      exact absurd (by simp [equal]) (noMark 'x' (by decide))
    · rename_i digits equal
      exact absurd (by simp [equal]) (noMark 'o' (by decide))
    · rename_i digits equal
      exact absurd (by simp [equal]) (noMark 'b' (by decide))
    · rw [hasLeadingZero_decimal, if_neg (by decide), Text.numeral?_decimal]
  have unsigned : unsigned? (Text.decimal value) = some value := by
    unfold unsigned?
    split
    · rename_i digits equal
      exact absurd (by simp [equal]) (noMark '+' (by decide))
    · exact magnitude
  rw [natural?, unsigned]

/-! ### Scalars -/

namespace Node

theorem isLegible_ofText (text : String) : (ofText text).IsLegible :=
  .scalar (fitsStyle_styleOf text.toList)

theorem isLegible_ofNat (value : Nat) : (ofNat value).IsLegible :=
  .scalar (fitsPlain_decimal value)

theorem isLegible_ofBool (value : Bool) : (ofBool value).IsLegible := by
  cases value <;> exact .scalar (by decide)

end Node

end Yaml
end VirtualRadio
