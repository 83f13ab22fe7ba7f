import VirtualRadio.Proofs.Yaml.Scalar

namespace VirtualRadio
namespace Yaml

/-!
# The layout of written documents

A written node begins in a column with a character of its own, behind the
spaces, the dash or the colon in front of it.  Here it is cut off from these,
and its beginning is told apart from everything else that might stand there.
-/

/-! ### Layout -/

/-- A scalar that fits its style. -/
def Node.IsKey : Node → Prop
  | .scalar style text => fitsStyle text style = true
  | _ => False

/-- A node that can be written: its scalars fit their styles, and its keys are
scalars. -/
inductive Node.IsLegible : Node → Prop where
  | scalar {style : ScalarStyle} {text : List Char} (fits : fitsStyle text style = true) :
    IsLegible (.scalar style text)
  | list {items : List Node} (all : ∀ item ∈ items, IsLegible item) : IsLegible (.list items)
  | mapping {entries : List (Node × Node)} (keys : ∀ entry ∈ entries, entry.1.IsKey)
      (values : ∀ entry ∈ entries, IsLegible entry.2) : IsLegible (.mapping entries)

/-- What stands behind the dash of an item. -/
def afterDash (column : Nat) : Node → List Char
  | .mapping (entry :: entries) => ' ' :: entriesText (column + 2) false (entry :: entries)
  | item => valueText (column + 2) item

/-- A node from its first character on, which stands in a column. -/
def blockText (column : Nat) : Node → List Char
  | .scalar style text => scalarText style text ++ ['\n']
  | .list [] => ['[', ']', '\n']
  | .list (item :: items) => '-' :: (afterDash column item ++ itemsText column items)
  | .mapping [] => ['\x7b', '\x7d', '\n']
  | .mapping (entry :: entries) => entriesText column false (entry :: entries)

/-- The text of a node that is written on one line. -/
def Node.lineText? : Node → Option (List Char)
  | .scalar style text => some (scalarText style text)
  | .list [] => some ['[', ']']
  | .mapping [] => some ['\x7b', '\x7d']
  | _ => none

theorem itemsText_cons (column : Nat) (item : Node) (items : List Node) :
    itemsText column (item :: items)
      = spaces column ++ blockText column (.list (item :: items)) := by
  match item with
  | .mapping (entry :: entries) => simp [itemsText, blockText, afterDash]
  | .mapping [] => simp [itemsText, blockText, afterDash]
  | .list _ => simp [itemsText, blockText, afterDash]
  | .scalar _ _ => simp [itemsText, blockText, afterDash]

theorem entriesText_cons (column : Nat) (entry : Node × Node) (entries : List (Node × Node)) :
    entriesText column true (entry :: entries)
      = spaces column ++ blockText column (.mapping (entry :: entries)) := by
  simp [entriesText, blockText]

theorem blockText_list (column : Nat) (item : Node) (items : List Node) :
    blockText column (.list (item :: items))
      = '-' :: (afterDash column item ++ itemsText column items) :=
  rfl

theorem blockText_mapping (column : Nat) (key value : Node) (entries : List (Node × Node)) :
    blockText column (.mapping ((key, value) :: entries))
      = keyText key ++ ':' :: (valueText column value ++ entriesText column true entries) := by
  simp [entriesText, blockText]

theorem blockText_of_lineText {node : Node} {text : List Char} (line : node.lineText? = some text)
    (column : Nat) : blockText column node = text ++ ['\n'] := by
  match node with
  | .scalar _ _ | .list [] | .mapping [] => cases line; rfl

theorem valueText_of_lineText {node : Node} {text : List Char} (line : node.lineText? = some text)
    (column : Nat) : valueText column node = ' ' :: (text ++ ['\n']) := by
  match node with
  | .scalar _ _ | .list [] | .mapping [] => cases line; simp [valueText]

theorem afterDash_cases (column : Nat) (item : Node) :
    afterDash column item = ' ' :: blockText (column + 2) item ∨
    afterDash column item = '\n' :: (spaces (column + 2) ++ blockText (column + 2) item) := by
  match item with
  | .scalar _ _ => exact .inl (by simp [afterDash, valueText, blockText])
  | .list [] => exact .inl (by simp [afterDash, valueText, blockText])
  | .list (item :: items) => exact .inr (by simp [afterDash, valueText, itemsText_cons])
  | .mapping [] => exact .inl (by simp [afterDash, valueText, blockText])
  | .mapping (entry :: entries) => exact .inl rfl

/-! ### Beginnings -/

theorem Node.IsKey.eq_scalar {key : Node} (isKey : key.IsKey) :
    ∃ style text, key = .scalar style text ∧ fitsStyle text style = true := by
  cases key with
  | scalar style text => exact ⟨style, text, rfl, isKey⟩
  | list => cases isKey
  | mapping => cases isKey

theorem beginsNode_blockText {node : Node} (legible : node.IsLegible) (column : Nat)
    (rest : List Char) (start : Nat) :
    Cursor.BeginsNode ⟨blockText column node ++ rest, start⟩ := by
  match node, legible with
  | .scalar style text, .scalar fits =>
    rw [blockText, List.append_assoc]
    exact beginsNode_scalarText fits _
  | .list [], _ => exact Cursor.beginsNode_cons (by decide) (by decide)
  | .list (item :: items), _ => exact Cursor.beginsNode_cons (by decide) (by decide)
  | .mapping [], _ => exact Cursor.beginsNode_cons (by decide) (by decide)
  | .mapping ((key, value) :: entries), .mapping keys _ =>
    obtain ⟨style, text, rfl, fits⟩ := (keys _ (.head _)).eq_scalar
    rw [blockText_mapping, List.append_assoc]
    exact beginsNode_scalarText fits _

theorem isEnd_blockText {node : Node} (legible : node.IsLegible) (column : Nat)
    (rest : List Char) (start : Nat) :
    Cursor.isEnd ⟨blockText column node ++ rest, start⟩ = false := by
  match node, legible with
  | .scalar style text, .scalar fits =>
    obtain ⟨first, more, written, -⟩ := scalarText_cons fits
    simp [Cursor.isEnd, blockText]
  | .list [], _ | .list (item :: items), _ | .mapping [], _ => rfl
  | .mapping ((key, value) :: entries), _ => simp [Cursor.isEnd, blockText_mapping]

/-- Where a node begins the document does not end, except that in the first
column the node must not be taken for a marker. -/
theorem isDocumentEnd_blockText {node : Node} (legible : node.IsLegible) {column start : Nat}
    {rest : List Char}
    (noMarker : Cursor.isMarker ⟨blockText column node ++ rest, start⟩ = false) :
    Cursor.isDocumentEnd ⟨blockText column node ++ rest, start⟩ = false := by
  rw [Cursor.isDocumentEnd, isEnd_blockText legible, noMarker, Bool.or_self]

theorem startsWithGap_afterDash (column : Nat) (item : Node) (rest : List Char) :
    startsWithGap (afterDash column item ++ rest) = true := by
  rcases afterDash_cases column item with equal | equal <;> rw [equal] <;> rfl

theorem isDash_items (column : Nat) (item : Node) (items : List Node) (rest : List Char)
    (start : Nat) :
    Cursor.isDash ⟨blockText column (.list (item :: items)) ++ rest, start⟩ = true := by
  rw [blockText, List.cons_append, List.append_assoc]
  exact startsWithGap_afterDash column item _

/-- A dash is not taken for a marker between documents. -/
theorem isMarker_items (column : Nat) (item : Node) (items : List Node) (rest : List Char)
    (start : Nat) :
    Cursor.isMarker ⟨blockText column (.list (item :: items)) ++ rest, start⟩ = false := by
  rcases afterDash_cases column item with equal | equal <;>
    simp [Cursor.isMarker, blockText, equal]

theorem isDash_lineText {node : Node} (legible : node.IsLegible) {text : List Char}
    (line : node.lineText? = some text) (rest : List Char) (column : Nat) :
    Cursor.isDash ⟨text ++ rest, column⟩ = false := by
  match node, legible with
  | .scalar _ _, .scalar fits =>
    cases line
    exact isDash_scalarText fits rest
  | .list [], _ =>
    cases line
    rfl
  | .mapping [], _ =>
    cases line
    rfl

theorem length_blockText_lt_afterDash (column : Nat) (item : Node) :
    (blockText (column + 2) item).length < (afterDash column item).length := by
  rcases afterDash_cases column item with equal | equal
  · rw [equal]
    exact Nat.lt_succ_self _
  · rw [equal, List.length_cons, List.length_append]
    omega

theorem startsWithGap_valueText (column : Nat) (node : Node) (rest : List Char) :
    startsWithGap (valueText column node ++ rest) = true := by
  match node with
  | .scalar _ _ | .list [] | .list (_ :: _) | .mapping [] | .mapping (_ :: _) =>
    simp [valueText, startsWithGap, isGap, isBlank, isBreak]

section Key

variable {key : Node} (isKey : key.IsKey) {rest : List Char} (separated : startsWithGap rest = true)

include isKey

theorem beginsNode_keyText (column : Nat) :
    Cursor.BeginsNode ⟨keyText key ++ ':' :: rest, column⟩ := by
  obtain ⟨style, text, rfl, fits⟩ := isKey.eq_scalar
  exact beginsNode_scalarText fits _

theorem isDash_keyText (column : Nat) :
    Cursor.isDash ⟨keyText key ++ ':' :: rest, column⟩ = false := by
  obtain ⟨style, text, rfl, fits⟩ := isKey.eq_scalar
  exact isDash_scalarText fits _

include separated

/-- A key is not taken for a marker between documents. -/
theorem isMarker_keyText (column : Nat) :
    Cursor.isMarker ⟨keyText key ++ ':' :: rest, column⟩ = false := by
  obtain ⟨style, text, rfl, fits⟩ := isKey.eq_scalar
  have ends : EndsScalar 0 (':' :: rest) := .colon separated
  exact isMarker_scalarText fits ends

theorem isDocumentEnd_keyText (column : Nat) :
    Cursor.isDocumentEnd ⟨keyText key ++ ':' :: rest, column⟩ = false := by
  rw [Cursor.isDocumentEnd, isMarker_keyText isKey separated, Bool.or_false]
  simp [Cursor.isEnd]

end Key

/-! ### Allowed characters -/

/-- Whether every character of a text may occur in a document. -/
def IsAllowedText (text : List Char) : Prop :=
  ∀ char ∈ text, isAllowed char = true

theorem isAllowedText_append {front back : List Char} :
    IsAllowedText (front ++ back) ↔ IsAllowedText front ∧ IsAllowedText back := by
  simp [IsAllowedText, or_imp, forall_and]

theorem isAllowedText_cons {char : Char} {rest : List Char} :
    IsAllowedText (char :: rest) ↔ isAllowed char = true ∧ IsAllowedText rest := by
  simp [IsAllowedText]

theorem isAllowedText_spaces (count : Nat) : IsAllowedText (spaces count) := by
  intro char mem
  rw [List.eq_of_mem_replicate mem]
  decide

theorem isAllowedText_keyText {key : Node} (isKey : key.IsKey) : IsAllowedText (keyText key) := by
  obtain ⟨style, text, rfl, fits⟩ := isKey.eq_scalar
  exact isAllowed_of_mem_scalarText fits

theorem isAllowedText_valueText {node : Node}
    (block : ∀ column, IsAllowedText (blockText column node)) (column : Nat) :
    IsAllowedText (valueText column node) := by
  have gap : isAllowed ' ' = true ∧ isAllowed '\n' = true := by decide
  match node with
  | .scalar _ _ | .list [] | .mapping [] =>
    simpa [valueText, blockText, isAllowedText_append, isAllowedText_cons, gap] using block column
  | .list (item :: items) =>
    simpa [valueText, itemsText_cons, isAllowedText_append, isAllowedText_cons, gap,
      isAllowedText_spaces] using block column
  | .mapping (entry :: entries) =>
    simpa [valueText, entriesText_cons, isAllowedText_append, isAllowedText_cons, gap,
      isAllowedText_spaces] using block (column + 2)

theorem isAllowedText_itemsText {items : List Node}
    (all : ∀ item ∈ items, ∀ column, IsAllowedText (blockText column item)) (column : Nat) :
    IsAllowedText (itemsText column items) := by
  have marks : isAllowed ' ' = true ∧ isAllowed '\n' = true ∧ isAllowed '-' = true := by decide
  induction items with
  | nil => simp [itemsText, IsAllowedText]
  | cons item items ih =>
    have rest := ih (fun other mem => all other (.tail _ mem))
    have here := all item (.head _) (column + 2)
    rcases afterDash_cases column item with equal | equal <;>
      simp [itemsText_cons, blockText_list, equal, isAllowedText_append, isAllowedText_cons, marks,
        isAllowedText_spaces, here, rest]

theorem isAllowedText_entriesText {entries : List (Node × Node)}
    (all : ∀ entry ∈ entries, entry.1.IsKey ∧ ∀ column, IsAllowedText (blockText column entry.2))
    (column : Nat) : IsAllowedText (entriesText column true entries) := by
  have colon : isAllowed ':' = true := by decide
  induction entries with
  | nil => simp [entriesText, IsAllowedText]
  | cons entry entries ih =>
    obtain ⟨isKey, value⟩ := all entry (.head _)
    have rest := ih (fun other mem => all other (.tail _ mem))
    simp [entriesText, isAllowedText_append, isAllowedText_cons, isAllowedText_spaces, colon,
      isAllowedText_keyText isKey, isAllowedText_valueText value, rest]

theorem isAllowedText_blockText {node : Node} (legible : node.IsLegible) (column : Nat) :
    IsAllowedText (blockText column node) := by
  induction legible generalizing column with
  | scalar fits =>
    have lineEnd : IsAllowedText ['\n'] := by simp [IsAllowedText, isAllowed]
    exact isAllowedText_append.mpr ⟨isAllowed_of_mem_scalarText fits, lineEnd⟩
  | @list items all ih =>
    cases items with
    | nil => simp [blockText, IsAllowedText, isAllowed]
    | cons item items =>
      have whole := isAllowedText_itemsText ih column
      rw [itemsText_cons] at whole
      exact (isAllowedText_append.mp whole).2
  | @mapping entries keys values ih =>
    cases entries with
    | nil => simp [blockText, IsAllowedText, isAllowed]
    | cons entry entries =>
      have all := fun other mem => And.intro (keys other mem) (ih other mem)
      have whole := isAllowedText_entriesText all column
      rw [entriesText_cons] at whole
      exact (isAllowedText_append.mp whole).2

end Yaml
end VirtualRadio
