import VirtualRadio.Yaml.Cursor
import VirtualRadio.Yaml.Writer

namespace VirtualRadio
namespace Yaml

/-!
# Lines that were written

Separation that was written consists of single spaces within a line and of line
ends with the indentation of the line behind them.  Here is what the reader
makes of both.
-/

/-! ### Separation within a line -/

/-- Separation that ends no line. -/
def StaysInLine (gap : List Char) : Prop :=
  ∀ char ∈ gap, isBreak char = false

theorem staysInLine_append {front back : List Char} :
    StaysInLine (front ++ back) ↔ StaysInLine front ∧ StaysInLine back := by
  simp [StaysInLine, or_imp, forall_and]

theorem staysInLine_cons {char : Char} {rest : List Char} :
    StaysInLine (char :: rest) ↔ isBreak char = false ∧ StaysInLine rest := by
  simp [StaysInLine]

@[simp]
theorem length_spaces (count : Nat) : (spaces count).length = count :=
  List.length_replicate

@[simp]
theorem spaces_succ_ne_nil (count : Nat) : spaces (count + 1) ≠ [] :=
  List.cons_ne_nil _ _

theorem staysInLine_spaces (count : Nat) : StaysInLine (spaces count) := by
  intro char mem
  rw [List.eq_of_mem_replicate mem]
  decide

theorem isGap_of_mem_spaces {count : Nat} : ∀ char ∈ spaces count, isGap char = true := by
  intro char mem
  rw [List.eq_of_mem_replicate mem]
  decide

/-- The only separation that is written as itself within a line is a space. -/
theorem eq_space_of_isGap {char : Char} (separates : isGap char = true)
    (printable : isPrintable char = true) (stays : isBreak char = false) : char = ' ' := by
  simp only [isGap, isBlank, stays, Bool.or_false, Bool.or_eq_true, decide_eq_true_eq] at separates
  rcases separates with rfl | rfl
  · rfl
  · exact absurd printable (by decide)

theorem StaysInLine.breaksOf {gap : List Char} (stays : StaysInLine gap) :
    Yaml.breaksOf gap = [] := by
  fun_induction Yaml.breaksOf gap with
  | case1 => rfl
  | case2 rest ih => exact absurd (stays '\r' (.head _)) (by decide)
  | case3 char rest _ separator ih =>
    have other := stays char (.head _)
    rcases separator with rfl | rfl <;> exact absurd other (by decide)
  | case4 char rest _ _ ends ih => simp [stays char (.head _)] at ends
  | case5 char rest _ _ _ ih => exact ih (staysInLine_cons.mp stays).2

theorem StaysInLine.fold {gap : List Char} (stays : StaysInLine gap) : Yaml.fold gap = gap := by
  simp [Yaml.fold, stays.breaksOf]

theorem StaysInLine.crossesLine {gap : List Char} (stays : StaysInLine gap) :
    Yaml.crossesLine gap = false := by
  simpa [Yaml.crossesLine, StaysInLine] using stays

theorem StaysInLine.columnAfter {gap : List Char} (stays : StaysInLine gap) (column : Nat) :
    Yaml.columnAfter column gap = column + gap.length := by
  induction gap generalizing column with
  | nil => rfl
  | cons char gap ih =>
    obtain ⟨here, rest⟩ := staysInLine_cons.mp stays
    rw [Yaml.columnAfter, here, if_neg (by simp), ih rest]
    simp
    omega

theorem breaksIndent_of_no_tab {gap : List Char} (noTab : '\t' ∉ gap) (minimum : Nat)
    (crossed : Bool) (column : Nat) : breaksIndent minimum crossed column gap = false := by
  induction gap generalizing crossed column with
  | nil => rfl
  | cons char gap ih =>
    have rest : '\t' ∉ gap := fun mem => noTab (.tail _ mem)
    have here : char ≠ '\t' := fun tab => noTab (tab ▸ .head _)
    simp [breaksIndent, here, ih rest]

/-! ### The extent of separation -/

/-- A text that does not go on with separation. -/
def EndsGap (text : List Char) : Prop :=
  ∀ char rest, text = char :: rest → isGap char = false

theorem endsGap_cons {char : Char} (other : isGap char = false) (rest : List Char) :
    EndsGap (char :: rest) := by
  rintro _ _ ⟨rfl, rfl⟩
  exact other

theorem takeWhile_gap {gap rest : List Char} (all : ∀ char ∈ gap, isGap char = true)
    (ends : EndsGap rest) : (gap ++ rest).takeWhile isGap = gap := by
  have stops : rest.takeWhile isGap = [] := by
    cases rest with
    | nil => rfl
    | cons char rest => simp [ends char rest rfl]
  rw [List.takeWhile_append_of_pos all, stops, List.append_nil]

theorem dropWhile_gap {gap rest : List Char} (all : ∀ char ∈ gap, isGap char = true)
    (ends : EndsGap rest) : (gap ++ rest).dropWhile isGap = rest := by
  rw [List.dropWhile_append_of_pos all]
  cases rest with
  | nil => rfl
  | cons char rest => simp [ends char rest rfl]

/-! ### The end of a line -/

/-- No marker between documents stands behind the first column. -/
theorem isMarker_eq_false {cursor : Cursor} (indented : 0 < cursor.column) :
    cursor.isMarker = false := by
  simp [Cursor.isMarker, Nat.pos_iff_ne_zero.mp indented]

namespace Cursor

/-- The line that a position begins, as it is written: its indentation and its
text. -/
def line (cursor : Cursor) : List Char :=
  spaces cursor.column ++ cursor.text

/-- Whether a position is one where skipping separation stops. -/
def BeginsNode (cursor : Cursor) : Prop :=
  ∀ char rest, cursor.text = char :: rest → isGap char = false ∧ char ≠ '#'

theorem beginsNode_cons {char : Char} {rest : List Char} {column : Nat}
    (other : isGap char = false) (noComment : char ≠ '#') :
    BeginsNode ⟨char :: rest, column⟩ := by
  rintro _ _ ⟨rfl, rfl⟩
  exact ⟨other, noComment⟩

end Cursor

theorem Cursor.BeginsNode.endsGap {cursor : Cursor} (begins : cursor.BeginsNode) :
    EndsGap cursor.text :=
  fun char rest text => (begins char rest text).1

theorem isGap_of_mem_newline {count : Nat} :
    ∀ char ∈ '\n' :: spaces count, isGap char = true := by
  intro char mem
  rcases List.mem_cons.mp mem with rfl | mem
  · decide
  · exact isGap_of_mem_spaces char mem

theorem skipGap_spaces (inFlow tabs crossed : Bool) (column count : Nat) (rest : List Char) :
    skipGap inFlow tabs false crossed column (spaces count ++ rest)
      = skipGap inFlow tabs false crossed (column + count) rest := by
  induction count generalizing column with
  | zero => rfl
  | succ count ih =>
    have space : isBreak ' ' = false := by decide
    rw [spaces, List.replicate_succ, List.cons_append, skipGap]
    simp only [space, Bool.false_eq_true, if_false, Bool.false_or, decide_true, Bool.true_or,
      if_true]
    rw [← spaces, ih]
    congr 1
    omega

/-- Skipping stops where a node begins. -/
theorem skipGap_eq_of_beginsNode {cursor : Cursor} (begins : cursor.BeginsNode)
    (inFlow tabs crossed : Bool) :
    skipGap inFlow tabs false crossed cursor.column cursor.text = ⟨crossed, cursor⟩ := by
  obtain ⟨text, column⟩ := cursor
  cases text with
  | nil => rfl
  | cons char rest =>
    obtain ⟨other, noComment⟩ := begins char rest rfl
    simp only [isGap, isBlank, Bool.or_eq_false_iff, decide_eq_false_iff_not] at other
    simp [skipGap, other, noComment]

/-- A line end leads to the node that the next line begins with. -/
theorem skipGap_newline {next : Cursor} (begins : next.BeginsNode) (inFlow tabs crossed : Bool)
    (column : Nat) :
    skipGap inFlow tabs false crossed column ('\n' :: next.line) = ⟨true, next⟩ := by
  have ends : isBreak '\n' = true := by decide
  rw [skipGap, ends, if_pos rfl, Cursor.line, skipGap_spaces, Nat.zero_add,
    skipGap_eq_of_beginsNode begins]

theorem takeWhile_newline {next : Cursor} (begins : next.BeginsNode) :
    ('\n' :: next.line).takeWhile isGap = '\n' :: spaces next.column := by
  rw [Cursor.line, ← List.cons_append, takeWhile_gap isGap_of_mem_newline begins.endsGap]

theorem dropWhile_newline {next : Cursor} (begins : next.BeginsNode) :
    ('\n' :: next.line).dropWhile isGap = next.text := by
  rw [Cursor.line, ← List.cons_append, dropWhile_gap isGap_of_mem_newline begins.endsGap]

theorem columnAfter_newline (column count : Nat) :
    columnAfter column ('\n' :: spaces count) = count := by
  rw [columnAfter, (staysInLine_spaces count).columnAfter]
  simp [spaces, isBreak]

theorem breaksIndent_newline (minimum column count : Nat) :
    breaksIndent minimum false column ('\n' :: spaces count) = false :=
  breaksIndent_of_no_tab (by simp [spaces]) minimum false column

/-! ### Skipping -/

/-- A line end in front of a node is skipped. -/
theorem skip_newline {next : Cursor} (begins : next.BeginsNode) (column : Nat) :
    Cursor.skip ⟨'\n' :: next.line, column⟩ = ⟨true, next⟩ :=
  skipGap_newline begins false true false column

theorem skip_space {rest : List Char} {column : Nat}
    (begins : Cursor.BeginsNode ⟨rest, column + 1⟩) :
    Cursor.skip ⟨' ' :: rest, column⟩ = ⟨false, ⟨rest, column + 1⟩⟩ :=
  (skipGap_spaces false true false column 1 rest).trans
    (skipGap_eq_of_beginsNode begins false true false)

theorem skip_of_beginsNode {cursor : Cursor} (begins : cursor.BeginsNode) :
    cursor.skip = ⟨false, cursor⟩ :=
  skipGap_eq_of_beginsNode begins false true false

theorem skip_colon (rest : List Char) (column : Nat) :
    Cursor.skip ⟨':' :: rest, column⟩ = ⟨false, ⟨':' :: rest, column⟩⟩ :=
  skip_of_beginsNode (Cursor.beginsNode_cons (by decide) (by decide))

/-! ### What ends a node -/

namespace Cursor

/-- The position behind a node whose lines are indented to `minimum` at least. -/
structure EndsBlock (minimum : Nat) (next : Cursor) : Prop where
  begins : next.BeginsNode
  outside : next.isEnd ∨ next.column < minimum

/-- The position behind the value of a key in a column: the next key may stand
there, but no dash, which would belong to the value. -/
structure EndsValue (column : Nat) (next : Cursor) : Prop where
  begins : next.BeginsNode
  outside : next.isEnd ∨ next.column < column ∨ (next.column = column ∧ next.isDash = false)

theorem EndsBlock.mono {minimum limit : Nat} {next : Cursor} (ends : next.EndsBlock minimum)
    (le : minimum ≤ limit) : next.EndsBlock limit :=
  ⟨ends.begins, ends.outside.imp_right (fun less => Nat.lt_of_lt_of_le less le)⟩

theorem EndsBlock.endsValue {column : Nat} {next : Cursor} (ends : next.EndsBlock column) :
    next.EndsValue column :=
  ⟨ends.begins, ends.outside.imp_right .inl⟩

theorem EndsValue.endsBlock {column : Nat} {next : Cursor} (ends : next.EndsValue column) :
    next.EndsBlock (column + 1) := by
  refine ⟨ends.begins, ?_⟩
  rcases ends.outside with last | less | ⟨same, -⟩
  · exact .inl last
  · exact .inr (Nat.lt_succ_of_lt less)
  · exact .inr (Nat.lt_succ_of_le (Nat.le_of_eq same))

end Cursor

end Yaml
end VirtualRadio
