import VirtualRadio.Proofs.Yaml.Cursor

namespace VirtualRadio
namespace Yaml

/-!
# Plain text that was written

Text that fits to be written plain is read back, whatever node stands on the
next line or, for a key, behind the colon.  The reader takes it in chunks
between separation; each of its suffixes that begins a chunk is again such a
text, so the proof is an induction on the chunks.
-/

/-- What may stand behind a scalar: the line of a node that is not indented
enough to belong to it, or a colon that separation sets off. -/
inductive EndsScalar (minimum : Nat) : List Char → Prop where
  | line {next : Cursor} (ends : next.EndsBlock minimum) : EndsScalar minimum ('\n' :: next.line)
  | colon {rest : List Char} (separated : startsWithGap rest) : EndsScalar minimum (':' :: rest)

/-! ### Inner marks -/

theorem hasInnerMark_of_append {afterGap : Bool} {front rest : List Char} {char : Char}
    (noMark : hasInnerMark afterGap (front ++ char :: rest) = false) :
    hasInnerMark (isGap char) rest = false := by
  induction front generalizing afterGap with
  | nil => exact (Bool.or_eq_false_iff.mp noMark).2
  | cons first front ih => exact ih (Bool.or_eq_false_iff.mp noMark).2

theorem hasInnerMark_afterGap {char : Char} {rest : List Char}
    (noMark : hasInnerMark true (char :: rest) = false) :
    char ≠ '#' ∧ hasInnerMark false (char :: rest) = false := by
  simp only [hasInnerMark, Bool.and_true, Bool.and_false, Bool.or_false,
    Bool.or_eq_false_iff] at noMark ⊢
  exact ⟨of_decide_eq_false noMark.1.2, noMark.1.1, noMark.2⟩

/-- What stands in front of separation has no inner mark if the whole has none. -/
theorem hasInnerMark_front {afterGap : Bool} {front rest : List Char} {char : Char}
    (separates : isGap char = true)
    (noMark : hasInnerMark afterGap (front ++ char :: rest) = false) :
    hasInnerMark afterGap front = false := by
  induction front generalizing afterGap with
  | nil => rfl
  | cons first front ih =>
    obtain ⟨here, later⟩ := Bool.or_eq_false_iff.mp noMark
    refine Bool.or_eq_false_iff.mpr ⟨?_, ih later⟩
    cases front with
    | nil => simpa [startsWithGap, separates] using here
    | cons next front => exact here

/-- Nothing in a chunk without inner marks ends it. -/
theorem plainChunk_append {afterGap : Bool} {chunk rest : List Char}
    (noGap : ∀ char ∈ chunk, isGap char = false) (noMark : hasInnerMark afterGap chunk = false)
    (stops : plainChunk false rest = some ([], rest)) :
    plainChunk false (chunk ++ rest) = some (chunk, rest) := by
  induction chunk generalizing afterGap with
  | nil => exact stops
  | cons char chunk ih =>
    obtain ⟨here, later⟩ := Bool.or_eq_false_iff.mp noMark
    have noColon : (char = ':' && startsWithGap (chunk ++ rest)) = false := by
      cases chunk with
      | nil =>
        have other : char ≠ ':' := by simpa [startsWithGap] using (Bool.or_eq_false_iff.mp here).1
        simp [other]
      | cons next chunk => exact (Bool.or_eq_false_iff.mp here).1
    simp [plainChunk, noGap char (.head _), noColon,
      ih (fun other mem => noGap other (.tail _ mem)) later]

theorem EndsScalar.plainChunk {minimum : Nat} {stop : List Char} (ends : EndsScalar minimum stop) :
    Yaml.plainChunk false stop = some ([], stop) := by
  cases ends with
  | line => rfl
  | colon separated => simp [Yaml.plainChunk, separated, isGap, isBlank, isBreak]

/-! ### Chunks -/

/-- A text that can be read plain from here on: it neither begins nor ends with
separation, contains no other separation than spaces, and nothing in it ends a
plain scalar. -/
structure IsPlainRun (text : List Char) : Prop where
  begins : ∀ char rest, text = char :: rest → isGap char = false ∧ char ≠ '#'
  ends : text.getLast? ≠ some ' '
  spaced : ∀ char ∈ text, isGap char = true → char = ' '
  noMark : hasInnerMark false text = false

/-- The first gap in a text is made of spaces, if all its gaps are. -/
theorem exists_spaces_of_gap {char : Char} {tail : List Char}
    (spaced : ∀ other ∈ char :: tail, isGap other = true → other = ' ')
    (separates : isGap char = true) :
    ∃ count rest, char :: tail = spaces (count + 1) ++ rest ∧ EndsGap rest := by
  refine ⟨(tail.takeWhile isGap).length, tail.dropWhile isGap, ?_, ?_⟩
  · have gap : char :: tail.takeWhile isGap = spaces ((tail.takeWhile isGap).length + 1) := by
      apply List.eq_replicate_iff.mpr
      refine ⟨rfl, ?_⟩
      have all := List.all_eq_true.mp (List.all_takeWhile (p := isGap) (l := tail))
      intro other mem
      rcases List.mem_cons.mp mem with rfl | mem
      · exact spaced other (.head _) separates
      · exact spaced other (.tail _ ((List.takeWhile_prefix isGap).subset mem)) (all other mem)
    rw [← gap, List.cons_append, List.takeWhile_append_dropWhile]
  · intro other rest text
    have head := List.head?_dropWhile_not isGap tail
    rw [text] at head
    exact head

/-- What stands behind the spaces in a run is a run again. -/
theorem IsPlainRun.after {chunk rest : List Char} {count : Nat}
    (run : IsPlainRun (chunk ++ (spaces (count + 1) ++ rest))) (ends : EndsGap rest) :
    rest ≠ [] ∧ IsPlainRun rest := by
  have split : chunk ++ (spaces (count + 1) ++ rest) = (chunk ++ spaces count) ++ ' ' :: rest := by
    simp [spaces, List.replicate_succ']
  rw [split] at run
  have noMark := hasInnerMark_of_append run.noMark
  have last := run.ends
  cases rest with
  | nil => simp at last
  | cons char rest =>
    obtain ⟨noComment, noMark⟩ := hasInnerMark_afterGap noMark
    refine ⟨by simp, ?_, ?_, fun other mem => run.spaced other (by simp_all), noMark⟩
    · rintro _ _ ⟨rfl, rfl⟩
      exact ⟨ends char rest rfl, noComment⟩
    · simpa [List.getLast?_append, List.getLast?_cons] using last

/-- A run is a single chunk, or a chunk, some spaces and another run. -/
theorem IsPlainRun.cases {text : List Char} (run : IsPlainRun text) :
    (∀ char ∈ text, isGap char = false) ∨
    ∃ chunk count rest, text = chunk ++ (spaces (count + 1) ++ rest)
      ∧ (∀ char ∈ chunk, isGap char = false) ∧ rest ≠ [] ∧ IsPlainRun rest := by
  obtain ⟨chunk, isChunk⟩ : ∃ chunk, chunk = text.takeWhile (fun char => !isGap char) := ⟨_, rfl⟩
  have noGap : ∀ char ∈ chunk, isGap char = false := by
    intro char mem
    rw [isChunk] at mem
    simpa using List.all_eq_true.mp List.all_takeWhile char mem
  have whole : text = chunk ++ text.dropWhile (fun char => !isGap char) := by
    rw [isChunk, List.takeWhile_append_dropWhile]
  cases tail : text.dropWhile (fun char => !isGap char) with
  | nil =>
    rw [tail, List.append_nil] at whole
    exact .inl (whole ▸ noGap)
  | cons char more =>
    have separates : isGap char = true := by
      have head := List.head?_dropWhile_not (fun char => !isGap char) text
      rw [tail] at head
      simpa using head
    rw [tail] at whole
    have spaced : ∀ other ∈ char :: more, isGap other = true → other = ' ' :=
      fun other mem => run.spaced other (whole ▸ List.mem_append_right _ mem)
    obtain ⟨count, rest, gap, ends⟩ := exists_spaces_of_gap spaced separates
    rw [gap] at whole
    exact .inr ⟨chunk, count, rest, whole, noGap, (whole ▸ run).after ends⟩

/-! ### Reading -/

variable {minimum column fuel : Nat} {stop : List Char}

/-- The last chunk of a text. -/
theorem readPlain_last {chunk : List Char} (noGap : ∀ char ∈ chunk, isGap char = false)
    (noMark : hasInnerMark false chunk = false) (ends : EndsScalar minimum stop) :
    readPlain false minimum (fuel + 1) ⟨chunk ++ stop, column⟩
      = some ⟨chunk, ⟨stop, column + chunk.length⟩, false⟩ := by
  rw [readPlain, plainChunk_append noGap noMark ends.plainChunk]
  cases ends with
  | @line next ends =>
    simp only [takeWhile_newline ends.begins, dropWhile_newline ends.begins, columnAfter_newline,
      breaksIndent_newline]
    rcases ends.outside with nothing | outside
    · have last : Cursor.isEnd ⟨next.text, next.column⟩ = true := nothing
      simp [last]
    · simp [outside]
  | colon separated =>
    simp [isGap, isBlank, isBreak]

/-- A chunk that goes on behind some spaces. -/
theorem readPlain_chunk {chunk rest : List Char} {count : Nat} {read : ScalarRead}
    (noGap : ∀ char ∈ chunk, isGap char = false) (noMark : hasInnerMark false chunk = false)
    (begins : Cursor.BeginsNode ⟨rest, column + chunk.length + (count + 1)⟩)
    (indented : minimum ≤ column + 1) (nonempty : rest ≠ [])
    (next : readPlain false minimum fuel ⟨rest, column + chunk.length + (count + 1)⟩ = some read)
    (found : read.text ≠ []) :
    readPlain false minimum (fuel + 1) ⟨chunk ++ (spaces (count + 1) ++ rest), column⟩
      = some (read.prepend (chunk ++ spaces (count + 1))) := by
  have stays := staysInLine_spaces (count + 1)
  have noTab : '\t' ∉ spaces (count + 1) := by simp [spaces]
  have noComment : rest.head? ≠ some '#' := by
    cases rest with
    | nil => contradiction
    | cons char rest => simpa using (begins char rest rfl).2
  have noMarker : Cursor.isMarker ⟨rest, column + chunk.length + (count + 1)⟩ = false :=
    isMarker_eq_false (Nat.succ_pos _)
  have inside : ¬ column + chunk.length + (count + 1) < minimum := by omega
  rw [readPlain, plainChunk_append noGap noMark rfl]
  simp only [takeWhile_gap isGap_of_mem_spaces begins.endsGap,
    dropWhile_gap isGap_of_mem_spaces begins.endsGap, stays.columnAfter, stays.fold,
    stays.crossesLine, breaksIndent_of_no_tab noTab, length_spaces, next]
  simp [noMarker, Cursor.isEnd, nonempty, noComment, inside, found,
    ScalarRead.acrossLines]

theorem readPlain_append {text : List Char} (run : IsPlainRun text)
    (ends : EndsScalar minimum stop) (enough : text.length < fuel)
    (indented : minimum ≤ column + 1) :
    readPlain false minimum fuel ⟨text ++ stop, column⟩
      = some ⟨text, ⟨stop, column + text.length⟩, false⟩ := by
  induction fuel generalizing text column with
  | zero => cases enough
  | succ fuel ih =>
    rcases run.cases with noGap | ⟨chunk, count, rest, rfl, noGap, nonempty, later⟩
    · exact readPlain_last noGap run.noMark ends
    · have fewer : rest.length < fuel := by
        simp at enough
        omega
      have next := ih later fewer (show minimum ≤ column + chunk.length + (count + 1) + 1 by omega)
      have begins : Cursor.BeginsNode ⟨rest ++ stop, column + chunk.length + (count + 1)⟩ := by
        cases rest with
        | nil => contradiction
        | cons char rest =>
          obtain ⟨other, noComment⟩ := later.begins char rest rfl
          exact Cursor.beginsNode_cons other noComment
      have space : isGap ' ' = true := by decide
      have noMark : hasInnerMark false chunk = false := hasInnerMark_front space run.noMark
      rw [List.append_assoc, List.append_assoc,
        readPlain_chunk noGap noMark begins indented (by simp [nonempty]) next nonempty]
      simp [ScalarRead.prepend, spaces]
      omega

/-! ### Texts that fit -/

/-- What the fitness of a text comes to. -/
structure FitsPlain (first : Char) (rest : List Char) : Prop where
  noIndicator : isLeadIndicator first = false
  noMarkInFront : first = '?' ∨ first = ':' ∨ first = '-' → startsWithGap rest = false
  noInnerMark : hasInnerMark false (first :: rest) = false
  noSpaceInFront : first ≠ ' '
  noSpaceAtEnd : (first :: rest).getLast? ≠ some ' '
  stays : StaysInLine (first :: rest)
  noMarker : (first :: rest).take 3 ≠ ['-', '-', '-'] ∧ (first :: rest).take 3 ≠ ['.', '.', '.']
  printable : ∀ char ∈ first :: rest, isPrintable char = true

theorem startsWithGap_append {text : List Char} (other : startsWithGap text = false)
    (more : List Char) : startsWithGap (text ++ more) = false := by
  cases text with
  | nil => cases other
  | cons char text => exact other

theorem exists_fitsPlain {text : List Char} (fits : fitsPlain text = true) :
    ∃ first rest, text = first :: rest ∧ FitsPlain first rest := by
  cases text with
  | nil => cases fits
  | cons first rest =>
    simp only [fitsPlain, Bool.and_eq_true, Bool.not_eq_true', decide_eq_true_eq] at fits
    obtain ⟨⟨⟨⟨⟨⟨⟨⟨lead, mark⟩, inner⟩, front⟩, last⟩, breaks⟩, dashes⟩, dots⟩, printable⟩ := fits
    refine ⟨first, rest, rfl, lead, ?_, inner, front, last, ?_, ⟨dashes, dots⟩, ?_⟩
    · intro special
      simpa [or_assoc, special] using mark
    · simpa [StaysInLine] using breaks
    · exact List.all_eq_true.mp printable

namespace FitsPlain

variable {first : Char} {rest : List Char}

theorem isGap_first (fits : FitsPlain first rest) : isGap first = false := by
  apply Bool.eq_false_iff.mpr
  intro separates
  exact fits.noSpaceInFront
    (eq_space_of_isGap separates (fits.printable first (.head _)) (fits.stays first (.head _)))

theorem isPlainRun (fits : FitsPlain first rest) : IsPlainRun (first :: rest) where
  begins := by
    rintro _ _ ⟨rfl, rfl⟩
    refine ⟨fits.isGap_first, ?_⟩
    rintro rfl
    exact absurd fits.noIndicator (by decide)
  ends := fits.noSpaceAtEnd
  spaced := fun char mem separates =>
    eq_space_of_isGap separates (fits.printable char mem) (fits.stays char mem)
  noMark := fits.noInnerMark

theorem startsPlain (fits : FitsPlain first rest) (stop : List Char) :
    Yaml.startsPlain false (first :: rest ++ stop) = true := by
  have more (mark : first = '?' ∨ first = ':' ∨ first = '-') :
      startsWithGap (rest ++ stop) = false :=
    startsWithGap_append (fits.noMarkInFront mark) stop
  rw [List.cons_append, Yaml.startsPlain]
  split
  · rename_i dash
    simp [more (.inr (.inr dash))]
  · split
    · rename_i mark
      simp [more (mark.imp_right .inl)]
    · simp [fits.isGap_first, fits.noIndicator]

end FitsPlain

end Yaml
end VirtualRadio
