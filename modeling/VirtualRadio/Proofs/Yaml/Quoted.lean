import VirtualRadio.Proofs.Text.Numerals
import VirtualRadio.Proofs.Yaml.Cursor

namespace VirtualRadio
namespace Yaml

/-!
# Quoted text that was written

Quoted text never goes over the end of a line, because line ends are escaped or
not written between single quotes at all.  Both readers hold back the
separation that they have seen, so the inductions below carry it along in front
of the text that is left.
-/

/-! ### Single quotes -/

theorem readSingle_close {gap rest : List Char} {column : Nat} (stays : StaysInLine gap)
    (indented : 0 < column) (closes : ∀ more, rest ≠ '\'' :: more) :
    readSingle column gap ('\'' :: rest) = some ⟨gap, ⟨rest, column + 1⟩, false⟩ := by
  have noGap : isGap '\'' = false := by decide
  rw [readSingle]
  · simp [noGap, isMarker_eq_false, indented, stays.fold, stays.crossesLine]
  · intro more _ equal
    exact closes more equal

/-- A character that is neither separation nor a quote stands for itself. -/
theorem readSingle_char {char : Char} {gap rest : List Char} {column : Nat}
    (stays : StaysInLine gap) (indented : 0 < column) (other : isGap char = false)
    (noQuote : char ≠ '\'') :
    readSingle column gap (char :: rest)
      = (readSingle (column + 1) [] rest).map (·.prepend (gap ++ [char])) := by
  rw [readSingle]
  · simp [other, noQuote, isMarker_eq_false, indented, stays.fold, stays.crossesLine,
      ScalarRead.acrossLines, ScalarRead.prepend]
  · intro _ equal
    exact absurd equal noQuote

/-- Separation is held back. -/
theorem readSingle_gap {char : Char} (gap rest : List Char) (column : Nat)
    (separates : isGap char = true) (stays : isBreak char = false) :
    readSingle column gap (char :: rest) = readSingle (column + 1) (gap ++ [char]) rest := by
  rw [readSingle]
  · simp [separates, columnAfter, stays]
  · rintro _ rfl
    exact absurd separates (by decide)

theorem readSingle_encodeSingle (gap text : List Char) {rest : List Char} {column : Nat}
    (stays : StaysInLine (gap ++ text)) (indented : 0 < column)
    (closes : ∀ more, rest ≠ '\'' :: more) :
    readSingle column gap (encodeSingle text ++ '\'' :: rest)
      = some ⟨gap ++ text, ⟨rest, column + (encodeSingle text).length + 1⟩, false⟩ := by
  induction text generalizing gap column with
  | nil =>
    rw [List.append_nil] at stays
    simpa [encodeSingle] using readSingle_close stays indented closes
  | cons char text ih =>
    obtain ⟨gapStays, charStays, textStays⟩ := by
      simpa [staysInLine_append, staysInLine_cons] using stays
    by_cases quote : char = '\''
    · subst quote
      have text' : encodeSingle ('\'' :: text) = '\'' :: '\'' :: encodeSingle text := by
        simp [encodeSingle]
      rw [text', List.cons_append, List.cons_append, readSingle, ih [] textStays (by omega)]
      simp [ScalarRead.prepend, ScalarRead.acrossLines, gapStays.fold, gapStays.crossesLine]
      omega
    · have text' : encodeSingle (char :: text) = char :: encodeSingle text := by
        simp [encodeSingle, quote]
      rw [text', List.cons_append]
      by_cases separates : isGap char = true
      · have longer : StaysInLine ((gap ++ [char]) ++ text) := by simpa using stays
        rw [readSingle_gap gap _ column separates charStays, ih (gap ++ [char]) longer (by omega)]
        simp
        omega
      · rw [readSingle_char gapStays indented (by simpa using separates) quote,
          ih [] textStays (by omega)]
        simp [ScalarRead.prepend]
        omega

/-! ### Double quotes -/

/-- The upper-case digit of a value is read as the value. -/
theorem hexDigit?_toUpper : ∀ value < 16,
    Text.hexDigit? (Nat.digitChar value).toUpper = some value := by
  decide

theorem hexValue?_toDigits (value : Nat) :
    hexValue? ((Nat.toDigits 16 value).map Char.toUpper) = some value := by
  induction value using Nat.strongRecOn with
  | ind value ih =>
    rw [Nat.toDigits_eq_if (by decide)]
    split
    · rename_i below
      simp [hexValue?, hexDigit?_toUpper value below]
    · have smaller := ih (value / 16) (by omega)
      have digit := hexDigit?_toUpper (value % 16) (by omega)
      rw [hexValue?] at smaller ⊢
      simp [smaller, digit, Nat.div_add_mod]

theorem hexValue?_paddedHex (width value : Nat) :
    hexValue? (paddedHex width value) = some value := by
  have zeros (count : Nat) (digits : List Char) :
      hexValue? (List.replicate count '0' ++ digits) = hexValue? digits := by
    induction count with
    | zero => rfl
    | succ count ih => exact ih
  rw [paddedHex, zeros, hexValue?_toDigits]

theorem length_paddedHex {width value : Nat} (positive : 0 < width)
    (below : value < Nat.pow 16 width) : (paddedHex width value).length = width := by
  have most : (Nat.toDigits 16 value).length ≤ width :=
    (Nat.length_toDigits_le_iff (by decide) positive).mpr below
  simp [paddedHex]
  omega

/-- A numeric escape stands for the character with its number. -/
theorem escape?_paddedHex {letter : Char} {width : Nat} (char : Char)
    (noLetter : letterEscape? letter = none) (digits : escapeWidth? letter = some width)
    (positive : 0 < width) (below : char.toNat < Nat.pow 16 width) (rest : List Char) :
    escape? (letter :: (paddedHex width char.toNat ++ rest))
      = some (char, (paddedHex width char.toNat).length + 1) := by
  have length := length_paddedHex positive below
  have front : (paddedHex width char.toNat ++ rest).take width = paddedHex width char.toNat :=
    List.take_left' length
  have scalar : ¬ ((0xD800 ≤ char.toNat ∧ char.toNat ≤ 0xDFFF) ∨ 0x10FFFF < char.toNat) := by
    rcases char.valid with low | ⟨high, most⟩
    · have small : char.toNat < 0xD800 := low
      omega
    · have above : 0xDFFF < char.toNat := high
      have below : char.toNat < 0x110000 := most
      omega
  simp only [escape?, noLetter, digits]
  rw [front, hexValue?_paddedHex]
  simp [length, scalar, Char.ofNat_toNat]

/-- What is written for a character between double quotes: itself, or an escape
that stands for it. -/
theorem encodeDoubleChar_cases (char : Char) :
    (encodeDoubleChar char = [char] ∧ char ≠ '"' ∧ char ≠ '\\' ∧ (isGap char = true → char = ' ')) ∨
    ∃ letter code, encodeDoubleChar char = '\\' :: letter :: code ∧ isBreak letter = false
      ∧ ∀ rest, escape? (letter :: (code ++ rest)) = some (char, code.length + 1) := by
  unfold encodeDoubleChar
  split
  · rename_i special
    refine .inr ⟨char, [], rfl, ?_, fun rest => ?_⟩ <;> rcases special with rfl | rfl <;> rfl
  · rename_i plain
    split
    · rename_i printable
      exact .inl ⟨rfl, fun quote => plain (.inl quote), fun slash => plain (.inr slash),
        fun separates => eq_space_of_isGap separates printable.1 (by simpa using printable.2)⟩
    · right
      split
      case h_13 =>
        have below : char.toNat < Nat.pow 16 8 := char.val.toNat_lt
        split
        · rename_i small
          exact ⟨'x', _, rfl, rfl, escape?_paddedHex char rfl rfl (by decide)
            (Nat.lt_succ_of_le small)⟩
        · split
          · rename_i small
            exact ⟨'u', _, rfl, rfl, escape?_paddedHex char rfl rfl (by decide)
              (Nat.lt_succ_of_le small)⟩
          · exact ⟨'U', _, rfl, rfl, escape?_paddedHex char rfl rfl (by decide) below⟩
      all_goals exact ⟨_, [], rfl, rfl, fun rest => rfl⟩

/-! One step of reading between double quotes, behind spaces that are held back. -/

section Step

variable {count column fuel : Nat} {char : Char} {rest : List Char}

theorem readDouble_escape {letter : Char} {code : List Char} (indented : 0 < column)
    (noBreak : isBreak letter = false)
    (escape : escape? (letter :: (code ++ rest)) = some (char, code.length + 1)) :
    readDouble (fuel + 1) ⟨spaces count ++ '\\' :: letter :: (code ++ rest), column⟩
      = (readDouble fuel ⟨rest, column + count + (code.length + 2)⟩).map
          (·.prepend (spaces count ++ [char])) := by
  have ends : EndsGap ('\\' :: letter :: (code ++ rest)) := endsGap_cons (by decide) _
  have stays := staysInLine_spaces count
  rw [readDouble, takeWhile_gap isGap_of_mem_spaces ends, dropWhile_gap isGap_of_mem_spaces ends,
    stays.columnAfter, isMarker_eq_false (by simp; omega), stays.fold, stays.crossesLine]
  simp [noBreak, escape, spaces, Cursor.advance, ScalarRead.acrossLines, ScalarRead.prepend]

theorem readDouble_char (indented : 0 < column) (other : isGap char = false)
    (noQuote : char ≠ '"') (noSlash : char ≠ '\\') :
    readDouble (fuel + 1) ⟨spaces count ++ char :: rest, column⟩
      = (readDouble fuel ⟨rest, column + count + 1⟩).map
          (·.prepend (spaces count ++ [char])) := by
  have ends : EndsGap (char :: rest) := endsGap_cons other _
  have stays := staysInLine_spaces count
  rw [readDouble, takeWhile_gap isGap_of_mem_spaces ends, dropWhile_gap isGap_of_mem_spaces ends,
    stays.columnAfter, isMarker_eq_false (by simp; omega), stays.fold, stays.crossesLine]
  simp [spaces, Cursor.advance, ScalarRead.acrossLines, ScalarRead.prepend]

theorem readDouble_close (indented : 0 < column) :
    readDouble (fuel + 1) ⟨spaces count ++ '"' :: rest, column⟩
      = some ⟨spaces count, ⟨rest, column + count + 1⟩, false⟩ := by
  have ends : EndsGap ('"' :: rest) := endsGap_cons (by decide) _
  have stays := staysInLine_spaces count
  rw [readDouble, takeWhile_gap isGap_of_mem_spaces ends, dropWhile_gap isGap_of_mem_spaces ends,
    stays.columnAfter, isMarker_eq_false (by simp; omega), stays.fold, stays.crossesLine]
  simp [spaces]

end Step

theorem readDouble_encodeDouble (count : Nat) (text : List Char) {rest : List Char}
    {fuel column : Nat} (enough : text.length < fuel) (indented : 0 < column) :
    readDouble fuel ⟨spaces count ++ (encodeDouble text ++ '"' :: rest), column⟩
      = some ⟨spaces count ++ text,
          ⟨rest, column + count + (encodeDouble text).length + 1⟩, false⟩ := by
  induction text generalizing count fuel column with
  | nil =>
    obtain _ | fuel := fuel
    · cases enough
    · simpa [encodeDouble] using readDouble_close indented
  | cons char text ih =>
    obtain _ | fuel := fuel
    · cases enough
    have fewer : text.length < fuel := Nat.lt_of_succ_lt_succ enough
    have text' : encodeDouble (char :: text) = encodeDoubleChar char ++ encodeDouble text := by
      simp [encodeDouble]
    have next (width : Nat) :
        readDouble fuel ⟨encodeDouble text ++ '"' :: rest, column + count + width⟩
          = some ⟨text, ⟨rest, column + count + width + (encodeDouble text).length + 1⟩, false⟩ :=
      ih 0 fewer (by omega)
    rcases encodeDoubleChar_cases char with
      ⟨written, noQuote, noSlash, space⟩ | ⟨letter, code, written, noBreak, escape⟩
    · rw [text', written]
      by_cases separates : isGap char = true
      · -- A space joins the separation in front of it.
        have longer (more : List Char) :
            spaces count ++ ' ' :: more = spaces (count + 1) ++ more := by
          simp [spaces, List.replicate_succ']
        rw [space separates, List.append_assoc, List.cons_append, List.nil_append, longer, longer,
          ih (count + 1) (by omega) indented]
        simp
        omega
      · rw [List.append_assoc, List.cons_append, List.nil_append,
          readDouble_char indented (by simpa using separates) noQuote noSlash, next 1]
        simp [ScalarRead.prepend]
        omega
    · rw [text', written, List.append_assoc, List.cons_append, List.cons_append,
        readDouble_escape indented noBreak (escape _), next (code.length + 2)]
      simp [ScalarRead.prepend]
      omega

end Yaml
end VirtualRadio
