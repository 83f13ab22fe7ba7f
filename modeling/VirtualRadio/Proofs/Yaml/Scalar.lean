import VirtualRadio.Proofs.Yaml.Plain
import VirtualRadio.Proofs.Yaml.Quoted
import VirtualRadio.Yaml.Reader

namespace VirtualRadio
namespace Yaml

/-!
# Scalars that were written

Every text has a style that it fits, and a scalar in a style that its text fits
is read back as the same scalar.
-/

/-- Whether a text can be written in a style. -/
def fitsStyle (text : List Char) : ScalarStyle → Bool
  | .plain => fitsPlain text
  | .single => fitsSingle text
  | .double => true

theorem fitsStyle_styleOf (text : List Char) : fitsStyle text (styleOf text) = true := by
  rw [styleOf]
  split
  · rfl
  · rename_i single
    split
    · simpa [fitsStyle] using single
    · rename_i plain
      simp only [Bool.or_eq_true, Bool.not_eq_true', not_or, Bool.not_eq_false] at plain
      exact plain.2

theorem staysInLine_of_fitsSingle {text : List Char} (fits : fitsSingle text = true) :
    StaysInLine text := by
  intro char mem
  have both := List.all_eq_true.mp fits char mem
  simp only [Bool.and_eq_true, Bool.not_eq_true'] at both
  exact both.2

theorem EndsScalar.ne_quote {minimum : Nat} {stop : List Char} (ends : EndsScalar minimum stop)
    (more : List Char) : stop ≠ '\'' :: more := by
  cases ends <;> simp

/-- How a written scalar begins: in a way that no separation, comment, list or
collection in brackets begins. -/
structure IsScalarStart (first : Char) (rest : List Char) : Prop where
  noGap : isGap first = false
  noComment : first ≠ '#'
  noDash : first = '-' → startsWithGap rest = false
  noBracket : first ≠ '[' ∧ first ≠ '\x7b'

theorem FitsPlain.isScalarStart {first : Char} {rest : List Char} (fits : FitsPlain first rest) :
    IsScalarStart first rest := by
  have other (char : Char) (indicator : isLeadIndicator char = true) : first ≠ char := by
    rintro rfl
    exact absurd fits.noIndicator (by simp [indicator])
  exact ⟨fits.isGap_first, other '#' (by decide), fun dash => fits.noMarkInFront (.inr (.inr dash)),
    other '[' (by decide), other '\x7b' (by decide)⟩

/-- Three equal characters in front of a text are not there because of another
character behind it. -/
theorem take_three_of_append {text rest : List Char} {mark char : Char} (other : char ≠ mark)
    (marks : (text ++ char :: rest).take 3 = [mark, mark, mark]) :
    text.take 3 = [mark, mark, mark] := by
  match text with
  | [] | [_] | [_, _] => simp_all
  | first :: second :: third :: _ => simpa using marks

section Reading

variable {style : ScalarStyle} {text stop : List Char} {minimum column : Nat}

theorem readScalar_plain {first : Char} {rest : List Char} (fits : FitsPlain first rest) :
    readScalar false minimum ⟨first :: rest ++ stop, column⟩
      = (readPlain false minimum ((first :: rest ++ stop).length + 1)
          ⟨first :: rest ++ stop, column⟩).map (·.toAtom .plain) := by
  have noSingle : first ≠ '\'' := by
    rintro rfl
    exact absurd fits.noIndicator (by decide)
  have noDouble : first ≠ '"' := by
    rintro rfl
    exact absurd fits.noIndicator (by decide)
  have starts := fits.startsPlain stop
  rw [List.cons_append] at starts ⊢
  simp [readScalar, noSingle, noDouble, starts]

theorem length_le_encodeDouble (text : List Char) : text.length ≤ (encodeDouble text).length := by
  induction text with
  | nil => exact Nat.zero_le _
  | cons char text ih =>
    have one : 1 ≤ (encodeDoubleChar char).length := by
      rcases encodeDoubleChar_cases char with ⟨written, -⟩ | ⟨letter, code, written, -⟩ <;>
        simp [written]
    simp [encodeDouble] at ih ⊢
    omega

/-- A scalar is read to its end, and no further. -/
theorem readScalar_scalarText (fits : fitsStyle text style = true)
    (ends : EndsScalar minimum stop) (indented : minimum ≤ column + 1) :
    readScalar false minimum ⟨scalarText style text ++ stop, column⟩
      = some ⟨.scalar style text, ⟨stop, column + (scalarText style text).length⟩, false⟩ := by
  cases style with
  | plain =>
    obtain ⟨first, rest, rfl, fitsPlain⟩ := exists_fitsPlain fits
    have enough : (first :: rest).length < (first :: rest ++ stop).length + 1 := by
      rw [List.length_append]
      omega
    rw [scalarText, readScalar_plain fitsPlain,
      readPlain_append fitsPlain.isPlainRun ends enough indented]
    rfl
  | single =>
    have written :
        scalarText .single text ++ stop = '\'' :: (encodeSingle text ++ '\'' :: stop) := by
      simp [scalarText]
    have read : readSingle (column + 1) [] (encodeSingle text ++ '\'' :: stop)
        = some ⟨text, ⟨stop, column + 1 + (encodeSingle text).length + 1⟩, false⟩ :=
      readSingle_encodeSingle [] text (staysInLine_of_fitsSingle fits) (Nat.succ_pos _)
        ends.ne_quote
    rw [written]
    simp only [readScalar, read, Option.map_some, ScalarRead.toAtom]
    simp [scalarText]
    omega
  | double =>
    have written : scalarText .double text ++ stop = '"' :: (encodeDouble text ++ '"' :: stop) := by
      simp [scalarText]
    have enough : text.length < (encodeDouble text ++ '"' :: stop).length + 1 := by
      have longer := length_le_encodeDouble text
      simp
      omega
    have read : readDouble ((encodeDouble text ++ '"' :: stop).length + 1)
        ⟨encodeDouble text ++ '"' :: stop, column + 1⟩
        = some ⟨text, ⟨stop, column + 1 + 0 + (encodeDouble text).length + 1⟩, false⟩ :=
      readDouble_encodeDouble 0 text enough (Nat.succ_pos _)
    rw [written]
    simp only [readScalar, read, Option.map_some, ScalarRead.toAtom]
    simp [scalarText]
    omega

theorem scalarText_cons (fits : fitsStyle text style = true) :
    ∃ first rest, scalarText style text = first :: rest ∧ IsScalarStart first rest := by
  cases style with
  | plain =>
    obtain ⟨first, rest, rfl, fitsPlain⟩ := exists_fitsPlain fits
    exact ⟨first, rest, rfl, fitsPlain.isScalarStart⟩
  | single => exact ⟨'\'', _, rfl, by decide, by decide, by simp, by decide⟩
  | double => exact ⟨'"', _, rfl, by decide, by decide, by simp, by decide⟩

theorem beginsNode_scalarText (fits : fitsStyle text style = true) (rest : List Char) :
    Cursor.BeginsNode ⟨scalarText style text ++ rest, column⟩ := by
  obtain ⟨first, more, written, starts⟩ := scalarText_cons fits
  rw [written]
  exact Cursor.beginsNode_cons starts.noGap starts.noComment

theorem isDash_scalarText (fits : fitsStyle text style = true) (rest : List Char) :
    Cursor.isDash ⟨scalarText style text ++ rest, column⟩ = false := by
  obtain ⟨first, more, written, starts⟩ := scalarText_cons fits
  rw [written, List.cons_append]
  by_cases dash : first = '-'
  · subst dash
    exact startsWithGap_append (starts.noDash rfl) rest
  · simp [Cursor.isDash, dash]

/-- A scalar is not taken for a marker between documents, even in the first
column. -/
theorem isMarker_scalarText (fits : fitsStyle text style = true) (ends : EndsScalar minimum stop) :
    Cursor.isMarker ⟨scalarText style text ++ stop, column⟩ = false := by
  have marks (mark : Char) (special : mark = '-' ∨ mark = '.') :
      (scalarText style text ++ stop).take 3 ≠ [mark, mark, mark] := by
    have behind (mark' : mark ≠ '\n' ∧ mark ≠ ':') (text : List Char)
        (equal : (text ++ stop).take 3 = [mark, mark, mark]) :
        text.take 3 = [mark, mark, mark] := by
      cases ends with
      | line => exact take_three_of_append mark'.1.symm equal
      | colon => exact take_three_of_append mark'.2.symm equal
    intro equal
    have front := behind (by rcases special with rfl | rfl <;> decide) _ equal
    cases style with
    | plain =>
      obtain ⟨first, rest, rfl, fitsPlain⟩ := exists_fitsPlain fits
      rcases special with rfl | rfl
      · exact fitsPlain.noMarker.1 front
      · exact fitsPlain.noMarker.2 front
    | single => rcases special with rfl | rfl <;> simp [scalarText] at front
    | double => rcases special with rfl | rfl <;> simp [scalarText] at front
  simp [Cursor.isMarker, marks]

/-- A scalar as an atom. -/
theorem readAtom_scalarText (fits : fitsStyle text style = true)
    (ends : EndsScalar minimum stop) (indented : minimum ≤ column + 1) (fuel : Nat) :
    readAtom false minimum (fuel + 1) ⟨scalarText style text ++ stop, column⟩
      = some ⟨.scalar style text, ⟨stop, column + (scalarText style text).length⟩, false⟩ := by
  have read := readScalar_scalarText fits ends indented
  obtain ⟨first, more, written, starts⟩ := scalarText_cons fits
  rw [written, List.cons_append] at read ⊢
  simp [readAtom, starts.noBracket.1, starts.noBracket.2, read]

end Reading

/-! ### Allowed characters -/

theorem isAllowed_of_isPrintable {char : Char} (printable : isPrintable char = true) :
    isAllowed char = true := by
  have scalar : char.toNat < 0xD800 ∨ 0xDFFF < char.toNat := char.valid.imp_right And.left
  simp only [isPrintable, isAllowed, Bool.or_eq_true, Bool.and_eq_true, decide_eq_true_eq]
    at printable ⊢
  omega

theorem isAllowed_of_mem_paddedHex {width value : Nat} {char : Char}
    (mem : char ∈ paddedHex width value) : isAllowed char = true := by
  have digits : ∀ digit < 16, isAllowed (Nat.digitChar digit).toUpper = true := by decide
  rcases List.mem_append.mp mem with zero | mem
  · rw [List.eq_of_mem_replicate zero]
    decide
  · obtain ⟨other, written, rfl⟩ := List.mem_map.mp mem
    obtain ⟨digit, below, rfl⟩ := Text.exists_digit_of_mem_toDigits (by decide) written
    exact digits digit below

theorem isAllowed_of_mem_encodeDoubleChar {char other : Char}
    (mem : other ∈ encodeDoubleChar char) : isAllowed other = true := by
  have letters {letter : Char} (allowed : isAllowed letter = true)
      (mem : other ∈ ['\\', letter]) : isAllowed other = true := by
    simp only [List.mem_cons, List.not_mem_nil, or_false] at mem
    rcases mem with rfl | rfl
    · decide
    · exact allowed
  have numbers {width : Nat} {letter : Char} (allowed : isAllowed letter = true)
      (mem : other ∈ ['\\', letter] ++ paddedHex width char.toNat) : isAllowed other = true := by
    rcases List.mem_append.mp mem with mem | mem
    · exact letters allowed mem
    · exact isAllowed_of_mem_paddedHex mem
  unfold encodeDoubleChar at mem
  split at mem
  · rename_i special
    exact letters (by rcases special with rfl | rfl <;> decide) mem
  · split at mem
    · rename_i printable
      rw [List.mem_singleton.mp mem]
      exact isAllowed_of_isPrintable printable.1
    · split at mem
      case h_13 =>
        split at mem
        · exact numbers (by decide) mem
        · split at mem
          · exact numbers (by decide) mem
          · exact numbers (by decide) mem
      all_goals exact letters (by decide) mem

theorem isAllowed_of_mem_encodeSingle {text : List Char} (fits : fitsSingle text = true)
    {other : Char} (mem : other ∈ encodeSingle text) : isAllowed other = true := by
  obtain ⟨char, inText, mem⟩ := List.mem_flatMap.mp mem
  have printable := (Bool.and_eq_true_iff.mp (List.all_eq_true.mp fits char inText)).1
  have same : other = char := by
    split at mem
    · rename_i quote
      simpa [quote] using mem
    · exact List.mem_singleton.mp mem
  rw [same]
  exact isAllowed_of_isPrintable printable

theorem isAllowed_of_mem_scalarText {style : ScalarStyle} {text : List Char}
    (fits : fitsStyle text style = true) :
    ∀ char ∈ scalarText style text, isAllowed char = true := by
  intro char mem
  cases style with
  | plain =>
    obtain ⟨first, rest, rfl, fitsPlain⟩ := exists_fitsPlain fits
    exact isAllowed_of_isPrintable (fitsPlain.printable char mem)
  | single =>
    simp only [scalarText, List.mem_append, List.mem_singleton] at mem
    rcases mem with (rfl | mem) | rfl
    · decide
    · exact isAllowed_of_mem_encodeSingle fits mem
    · decide
  | double =>
    simp only [scalarText, List.mem_append, List.mem_singleton] at mem
    rcases mem with (rfl | mem) | rfl
    · decide
    · obtain ⟨other, -, mem⟩ := List.mem_flatMap.mp mem
      exact isAllowed_of_mem_encodeDoubleChar mem
    · decide

end Yaml
end VirtualRadio
