import VirtualRadio.Text.Numeral

namespace VirtualRadio
namespace Text

/-!
# Numerals that were written

A number written in the digits of a base of at most sixteen is read back, and
its digits begin with no needless zero.
-/

theorem hexDigit?_digitChar : ∀ value < 16, hexDigit? (Nat.digitChar value) = some value := by
  decide

theorem eq_zero_of_digitChar : ∀ value < 16, Nat.digitChar value = '0' → value = 0 := by
  decide

theorem digit?_digitChar {base value : Nat} (most : base ≤ 16) (below : value < base) :
    digit? base (Nat.digitChar value) = some value := by
  simp [digit?, hexDigit?_digitChar value (by omega), below]

theorem numeralFrom?_append (base value : Nat) (front rest : List Char) :
    numeralFrom? base value (front ++ rest)
      = (numeralFrom? base value front).bind (fun next => numeralFrom? base next rest) := by
  induction front generalizing value with
  | nil => simp [numeralFrom?]
  | cons char front ih =>
    simp only [List.cons_append, numeralFrom?]
    cases digit? base char with
    | none => rfl
    | some next => exact ih _

section Base

variable {base : Nat}

/-- Digits come off at the end, the most significant ones stay. -/
theorem numeralFrom?_toDigits (least : 1 < base) (most : base ≤ 16) (value : Nat) :
    numeralFrom? base 0 (Nat.toDigits base value) = some value := by
  induction value using Nat.strongRecOn with
  | ind value ih =>
    rw [Nat.toDigits_eq_if least]
    split
    · rename_i below
      simp [numeralFrom?, digit?_digitChar most below]
    · have smaller : value / base < value := Nat.div_lt_self (by omega) least
      have digit : value % base < base := Nat.mod_lt _ (by omega)
      rw [numeralFrom?_append, ih _ smaller]
      simp [numeralFrom?, digit?_digitChar most digit, Nat.div_add_mod]

theorem numeral?_toDigits (least : 1 < base) (most : base ≤ 16) (value : Nat) :
    numeral? base (Nat.toDigits base value) = some value := by
  simp [numeral?, numeralFrom?_toDigits least most]

theorem exists_digit_of_mem_toDigits (least : 1 < base) {value : Nat} {char : Char}
    (mem : char ∈ Nat.toDigits base value) : ∃ digit < base, char = Nat.digitChar digit := by
  induction value using Nat.strongRecOn with
  | ind value ih =>
    rw [Nat.toDigits_eq_if least] at mem
    split at mem
    · rename_i below
      exact ⟨value, below, List.mem_singleton.mp mem⟩
    · rcases List.mem_append.mp mem with mem | mem
      · exact ih _ (Nat.div_lt_self (by omega) least) mem
      · exact ⟨value % base, Nat.mod_lt _ (by omega), List.mem_singleton.mp mem⟩

theorem isSome_digit?_of_mem_toDigits (least : 1 < base) (most : base ≤ 16) {value : Nat}
    {char : Char} (mem : char ∈ Nat.toDigits base value) : (digit? base char).isSome := by
  obtain ⟨digit, below, rfl⟩ := exists_digit_of_mem_toDigits least mem
  rw [digit?_digitChar most below, Option.isSome_some]

/-- Only the numeral of zero begins with a zero. -/
theorem toDigits_eq_singleton_of_head (least : 1 < base) (most : base ≤ 16) {value : Nat}
    (head : (Nat.toDigits base value).head? = some '0') : Nat.toDigits base value = ['0'] := by
  suffices zero : value = 0 by simp [zero]
  induction value using Nat.strongRecOn with
  | ind value ih =>
    rw [Nat.toDigits_eq_if least] at head
    split at head
    · rename_i below
      exact eq_zero_of_digitChar value (by omega) (Option.some.inj head)
    · rename_i above
      have front : (Nat.toDigits base (value / base)).head? = some '0' := by
        rwa [List.head?_append, Option.or_of_isSome (by simp)] at head
      have zero := ih _ (Nat.div_lt_self (by omega) least) front
      have positive : 0 < value / base := Nat.div_pos (by omega) (by omega)
      omega

end Base

theorem decimal_ne_nil (value : Nat) : decimal value ≠ [] := by
  simp [decimal]

theorem numeral?_decimal (value : Nat) : numeral? 10 (decimal value) = some value :=
  numeral?_toDigits (by decide) (by decide) value

end Text
end VirtualRadio
