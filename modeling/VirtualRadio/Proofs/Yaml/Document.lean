import VirtualRadio.Proofs.Yaml.Layout

namespace VirtualRadio
namespace Yaml

/-!
# Documents that were written

A document whose scalars fit their styles and whose keys are scalars is read
back from what is written for it.  The induction is on the document; what it
carries along is that a node is read up to the position behind it, both where
a block may begin and behind the colon of a key.  The fuel that a reader needs
is four times the length of the text, and a little more for the readers that
call another one at the same position.
-/

/-! ### Reading -/

/-- A node is read back where a list or mapping may begin. -/
def Node.ReadsBlock (node : Node) : Prop :=
  ∀ {column minimum fuel : Nat} {next : Cursor}, minimum ≤ column → next.EndsBlock minimum →
    4 * (blockText column node ++ next.line).length + 2 ≤ fuel →
    readBlock fuel minimum ⟨blockText column node ++ next.line, column⟩ = some (node, next)

/-- A node is read back as the value of a key in a column. -/
def Node.ReadsValue (node : Node) : Prop :=
  ∀ {column start fuel : Nat} {next : Cursor}, column ≤ start → next.EndsValue column →
    4 * (valueText column node ++ next.line).length ≤ fuel →
    readValue fuel column ⟨valueText column node ++ next.line, start⟩ = some (node, next)

theorem readAtom_lineText {node : Node} (legible : node.IsLegible) {text stop : List Char}
    (line : node.lineText? = some text) {minimum column : Nat} (ends : EndsScalar minimum stop)
    (indented : minimum ≤ column + 1) (fuel : Nat) :
    readAtom false minimum (fuel + 2) ⟨text ++ stop, column⟩
      = some ⟨node, ⟨stop, column + text.length⟩, false⟩ := by
  match node, legible with
  | .scalar style _, .scalar fits =>
    cases line
    exact readAtom_scalarText fits ends indented (fuel + 1)
  | .list [], _ =>
    cases line
    rfl
  | .mapping [], _ =>
    cases line
    rfl

theorem readsBlock_of_lineText {node : Node} (legible : node.IsLegible) {text : List Char}
    (line : node.lineText? = some text) : node.ReadsBlock := by
  intro column minimum fuel next indented ends enough
  obtain ⟨fuel, rfl⟩ : ∃ less, fuel = less + 3 := by
    refine ⟨fuel - 3, ?_⟩
    simp [blockText_of_lineText line] at enough
    omega
  have atom := readAtom_lineText legible line (.line ends) (Nat.le_succ_of_le indented) fuel
  rw [blockText_of_lineText line, List.append_assoc, readBlock,
    isDash_lineText legible line _ column]
  simp [atom, skip_newline ends.begins]

theorem readsValue_of_lineText {node : Node} (legible : node.IsLegible) {text : List Char}
    (line : node.lineText? = some text) : node.ReadsValue := by
  intro column start fuel next behind ends enough
  obtain ⟨fuel, rfl⟩ : ∃ less, fuel = less + 3 := by
    refine ⟨fuel - 3, ?_⟩
    simp [valueText_of_lineText line] at enough
    omega
  have atom := readAtom_lineText legible line (.line ends.endsBlock)
    (show column + 1 ≤ start + 1 + 1 by omega) fuel
  have skipped := skip_space (beginsNode_blockText legible column next.line (start + 1))
  have written := blockText_of_lineText line column
  have noMarker : Cursor.isMarker ⟨blockText column node ++ next.line, start + 1⟩ = false :=
    isMarker_eq_false (Nat.succ_pos _)
  have goesOn := isDocumentEnd_blockText legible noMarker
  rw [written, List.append_assoc] at skipped goesOn
  rw [valueText_of_lineText line, List.cons_append, List.append_assoc, readValue]
  simp only [skipped, goesOn, Bool.false_eq_true, if_false, Bool.not_false, if_true, readLineAtom]
  simp [atom, skip_newline ends.begins]

/-! ### Items -/

/-- An item is read from behind its dash on. -/
theorem skipIndent_afterDash {item : Node} (legible : item.IsLegible) (column : Nat)
    (rest : List Char) :
    ∃ crossed, Cursor.skipIndent ⟨afterDash column item ++ rest, column + 1⟩
      = ⟨crossed, ⟨blockText (column + 2) item ++ rest, column + 2⟩⟩ := by
  have begins := beginsNode_blockText legible (column + 2) rest (column + 2)
  rcases afterDash_cases column item with equal | equal
  · refine ⟨false, ?_⟩
    have skipped := skipGap_spaces false false false (column + 1) 1
      (blockText (column + 2) item ++ rest)
    rw [equal]
    exact skipped.trans (skipGap_eq_of_beginsNode begins false false false)
  · refine ⟨true, ?_⟩
    rw [equal, List.cons_append, List.append_assoc]
    exact skipGap_newline begins false false false (column + 1)

/-- One item is read, and the position behind it decides how the list goes on. -/
theorem readItems_item {item : Node} (reads : item.ReadsBlock) (legible : item.IsLegible)
    {column fuel : Nat} (shared : Bool) {next : Cursor} (ends : next.EndsBlock (column + 1))
    (enough : 4 * ('-' :: (afterDash column item ++ next.line)).length + 1 ≤ fuel + 1) :
    readItems (fuel + 1) column shared ⟨'-' :: (afterDash column item ++ next.line), column⟩
      = (if next.isDocumentEnd || next.column < column then some ([item], next)
        else if next.column = column then
          if next.isDash then
            (readItems fuel column shared next).map (fun (items, after) => (item :: items, after))
          else if shared then some ([item], next)
          else none
        else none) := by
  obtain ⟨crossed, skipped⟩ := skipIndent_afterDash legible column next.line
  have noMarker : Cursor.isMarker ⟨blockText (column + 2) item ++ next.line, column + 2⟩ = false :=
    isMarker_eq_false (Nat.succ_pos _)
  have goesOn := isDocumentEnd_blockText legible noMarker
  have read : readBlock fuel (column + 1) ⟨blockText (column + 2) item ++ next.line, column + 2⟩
      = some (item, next) := by
    apply reads (show column + 1 ≤ column + 2 by omega) ends
    have shorter := length_blockText_lt_afterDash column item
    simp at enough ⊢
    omega
  have advanced : Cursor.advance ⟨'-' :: (afterDash column item ++ next.line), column⟩ 1
      = ⟨afterDash column item ++ next.line, column + 1⟩ := rfl
  rw [readItems, advanced, skipped]
  simp [goesOn, read, show ¬ column + 2 ≤ column by omega]

theorem readItems_blockText {item : Node} {items : List Node}
    (all : ∀ other ∈ item :: items, other.ReadsBlock ∧ other.IsLegible)
    {column fuel : Nat} {shared : Bool} {next : Cursor} (ends : next.EndsValue column)
    (alone : shared = false → next.EndsBlock column)
    (enough : 4 * (blockText column (.list (item :: items)) ++ next.line).length + 1 ≤ fuel) :
    readItems fuel column shared ⟨blockText column (.list (item :: items)) ++ next.line, column⟩
      = some (item :: items, next) := by
  induction items generalizing item fuel with
  | nil =>
    obtain ⟨reads, legible⟩ := all item (.head _)
    obtain _ | fuel := fuel
    · cases enough
    have text : blockText column (.list [item]) ++ next.line
        = '-' :: (afterDash column item ++ next.line) := by
      simp [blockText, itemsText]
    rw [text] at enough ⊢
    rw [readItems_item reads legible shared ends.endsBlock enough]
    rcases ends.outside with last | outside | ⟨same, noDash⟩
    · simp [Cursor.isDocumentEnd, last]
    · simp [outside]
    · cases shared with
      | true => simp [same, noDash]
      | false =>
        rcases (alone rfl).outside with last | outside
        · simp [Cursor.isDocumentEnd, last]
        · simp [outside]
  | cons other items ih =>
    obtain ⟨reads, legible⟩ := all item (.head _)
    obtain _ | fuel := fuel
    · cases enough
    have otherLegible : Node.IsLegible (.list (other :: items)) :=
      .list (fun node mem => (all node (.tail _ mem)).2)
    have follows := beginsNode_blockText otherLegible column next.line column
    have text : blockText column (.list (item :: other :: items)) ++ next.line
        = '-' :: (afterDash column item
          ++ Cursor.line ⟨blockText column (.list (other :: items)) ++ next.line, column⟩) := by
      simp [blockText, itemsText_cons, Cursor.line]
    have goesOn := isDocumentEnd_blockText otherLegible
      (isMarker_items column other items next.line column)
    rw [text] at enough ⊢
    rw [readItems_item reads legible shared ⟨follows, .inr (Nat.lt_succ_self _)⟩ enough]
    have shorter :
        4 * (blockText column (.list (other :: items)) ++ next.line).length + 1 ≤ fuel := by
      simp [Cursor.line] at enough ⊢
      omega
    have rest := ih (fun node mem => all node (.tail _ mem)) shorter
    simp [goesOn, isDash_items, rest]

/-! ### Entries -/

theorem readAtom_keyText {key : Node} (isKey : key.IsKey) {rest : List Char}
    (separated : startsWithGap rest = true) {minimum column : Nat} (indented : minimum ≤ column + 1)
    (fuel : Nat) :
    readAtom false minimum (fuel + 1) ⟨keyText key ++ ':' :: rest, column⟩
      = some ⟨key, ⟨':' :: rest, column + (keyText key).length⟩, false⟩ := by
  obtain ⟨style, text, rfl, fits⟩ := isKey.eq_scalar
  exact readAtom_scalarText fits (.colon separated) indented fuel

/-- One entry is read, and then the key of the next one. -/
theorem readEntries_entry {key value otherKey : Node} (reads : value.ReadsValue)
    (isKey : otherKey.IsKey) {rest : List Char} (separated : startsWithGap rest = true)
    {column start fuel : Nat} (behind : column ≤ start)
    (enough : 4 * (valueText column value
      ++ Cursor.line ⟨keyText otherKey ++ ':' :: rest, column⟩).length ≤ fuel + 1) :
    readEntries (fuel + 2) column key
        ⟨valueText column value ++ Cursor.line ⟨keyText otherKey ++ ':' :: rest, column⟩, start⟩
      = (readEntries (fuel + 1) column otherKey ⟨rest, column + (keyText otherKey).length + 1⟩).map
          (fun (entries, after) => ((key, value) :: entries, after)) := by
  have read := reads behind
    ⟨beginsNode_keyText isKey column, .inr (.inr ⟨rfl, isDash_keyText isKey column⟩)⟩ enough
  have atom := readAtom_keyText isKey separated (Nat.le_refl (column + 1)) fuel
  rw [readEntries, read]
  simp [isDocumentEnd_keyText isKey separated, atom, skip_colon, Cursor.isColon, separated,
    Cursor.advance]

theorem readEntries_valueText (key : Node) {value : Node} {entries : List (Node × Node)}
    (reads : value.ReadsValue)
    (all : ∀ entry ∈ entries, entry.1.IsKey ∧ entry.2.ReadsValue)
    {column start fuel : Nat} {next : Cursor} (behind : column ≤ start)
    (ends : next.EndsBlock column)
    (enough : 4 * (valueText column value ++ (entriesText column true entries ++ next.line)).length
      + 1 ≤ fuel) :
    readEntries fuel column key
        ⟨valueText column value ++ (entriesText column true entries ++ next.line), start⟩
      = some ((key, value) :: entries, next) := by
  induction entries generalizing key value start fuel with
  | nil =>
    obtain _ | fuel := fuel
    · cases enough
    have read := reads behind ends.endsValue (Nat.le_of_succ_le_succ enough)
    rw [entriesText, List.nil_append, readEntries, read]
    rcases ends.outside with last | outside
    · simp [Cursor.isDocumentEnd, last]
    · simp [outside]
  | cons entry entries ih =>
    obtain ⟨isKey, otherReads⟩ := all entry (.head _)
    obtain ⟨otherKey, otherValue⟩ := entry
    have text : entriesText column true ((otherKey, otherValue) :: entries) ++ next.line
        = Cursor.line ⟨keyText otherKey ++ ':' :: (valueText column otherValue
            ++ (entriesText column true entries ++ next.line)), column⟩ := by
      simp [entriesText_cons, blockText_mapping, Cursor.line]
    rw [text] at enough ⊢
    obtain ⟨fuel, rfl⟩ : ∃ less, fuel = less + 2 := by
      refine ⟨fuel - 2, ?_⟩
      simp [Cursor.line] at enough
      omega
    have rest := ih otherKey otherReads (fun other mem => all other (.tail _ mem))
      (show column ≤ column + (keyText otherKey).length + 1 by omega)
      (show 4 * (valueText column otherValue ++ (entriesText column true entries
          ++ next.line)).length + 1 ≤ fuel + 1 by
        simp [Cursor.line] at enough ⊢
        omega)
    rw [readEntries_entry reads isKey (startsWithGap_valueText column otherValue _) behind
      (Nat.le_of_succ_le_succ enough), rest]
    rfl

/-! ### Nodes -/

theorem readsBlock_list {item : Node} {items : List Node}
    (all : ∀ other ∈ item :: items, other.ReadsBlock ∧ other.IsLegible) :
    Node.ReadsBlock (.list (item :: items)) := by
  intro column minimum fuel next indented ends enough
  obtain _ | fuel := fuel
  · cases enough
  have ends := ends.mono indented
  have alone : false = false → next.EndsBlock column := fun _ => ends
  have read := readItems_blockText all ends.endsValue alone (Nat.le_of_succ_le_succ enough)
  rw [readBlock, isDash_items]
  simp [read]

theorem readsValue_list {item : Node} {items : List Node}
    (all : ∀ other ∈ item :: items, other.ReadsBlock ∧ other.IsLegible) :
    Node.ReadsValue (.list (item :: items)) := by
  intro column start fuel next behind ends enough
  have legible : Node.IsLegible (.list (item :: items)) :=
    .list (fun other mem => (all other mem).2)
  have text : valueText column (.list (item :: items)) ++ next.line
      = '\n' :: Cursor.line ⟨blockText column (.list (item :: items)) ++ next.line, column⟩ := by
    simp [valueText, itemsText_cons, Cursor.line]
  rw [text] at enough ⊢
  obtain _ | fuel := fuel
  · cases enough
  have follows := beginsNode_blockText legible column next.line column
  have goesOn := isDocumentEnd_blockText legible
    (isMarker_items column item items next.line column)
  have shared : true = false → next.EndsBlock column := by simp
  have read := readItems_blockText all ends shared
    (show 4 * (blockText column (.list (item :: items)) ++ next.line).length + 1 ≤ fuel by
      simp [Cursor.line] at enough ⊢
      omega)
  rw [readValue, skip_newline follows]
  simp [goesOn, isDash_items, read]

theorem readsBlock_mapping {entry : Node × Node} {entries : List (Node × Node)}
    (all : ∀ other ∈ entry :: entries, other.1.IsKey ∧ other.2.ReadsValue) :
    Node.ReadsBlock (.mapping (entry :: entries)) := by
  intro column minimum fuel next indented ends enough
  obtain ⟨isKey, reads⟩ := all entry (.head _)
  obtain ⟨key, value⟩ := entry
  have text : blockText column (.mapping ((key, value) :: entries)) ++ next.line
      = keyText key ++ ':' :: (valueText column value
          ++ (entriesText column true entries ++ next.line)) := by
    simp [blockText_mapping]
  rw [text] at enough ⊢
  obtain ⟨fuel, rfl⟩ : ∃ less, fuel = less + 2 := ⟨fuel - 2, by omega⟩
  have separated := startsWithGap_valueText column value
    (entriesText column true entries ++ next.line)
  have atom := readAtom_keyText isKey separated (Nat.le_succ_of_le indented) fuel
  have read := readEntries_valueText key reads (fun other mem => all other (.tail _ mem))
    (show column ≤ column + (keyText key).length + 1 by omega) (ends.mono indented)
    (show 4 * (valueText column value ++ (entriesText column true entries ++ next.line)).length + 1
        ≤ fuel + 1 by
      simp at enough ⊢
      omega)
  rw [readBlock, isDash_keyText isKey]
  simp [atom, skip_colon, Cursor.isColon, Cursor.isEnd, separated, Cursor.advance, read]

theorem readsValue_mapping {entry : Node × Node} {entries : List (Node × Node)}
    (block : Node.ReadsBlock (.mapping (entry :: entries)))
    (legible : Node.IsLegible (.mapping (entry :: entries))) :
    Node.ReadsValue (.mapping (entry :: entries)) := by
  intro column start fuel next behind ends enough
  have text : valueText column (.mapping (entry :: entries)) ++ next.line
      = '\n' :: Cursor.line
          ⟨blockText (column + 2) (.mapping (entry :: entries)) ++ next.line, column + 2⟩ := by
    simp [valueText, entriesText_cons, Cursor.line]
  rw [text] at enough ⊢
  obtain _ | fuel := fuel
  · cases enough
  have follows := beginsNode_blockText legible (column + 2) next.line (column + 2)
  have noMarker : Cursor.isMarker
      ⟨blockText (column + 2) (.mapping (entry :: entries)) ++ next.line, column + 2⟩ = false :=
    isMarker_eq_false (Nat.succ_pos _)
  have read := block (show column + 1 ≤ column + 2 by omega) ends.endsBlock
    (show 4 * (blockText (column + 2) (.mapping (entry :: entries)) ++ next.line).length + 2
        ≤ fuel by
      simp [Cursor.line] at enough ⊢
      omega)
  rw [readValue, skip_newline follows]
  simp [isDocumentEnd_blockText legible noMarker, show column < column + 2 by omega, read]

theorem Node.IsLegible.reads {node : Node} (legible : node.IsLegible) :
    node.ReadsBlock ∧ node.ReadsValue := by
  induction legible with
  | scalar fits =>
    exact ⟨readsBlock_of_lineText (.scalar fits) rfl, readsValue_of_lineText (.scalar fits) rfl⟩
  | @list items all ih =>
    cases items with
    | nil =>
      exact ⟨readsBlock_of_lineText (.list all) rfl, readsValue_of_lineText (.list all) rfl⟩
    | cons item items =>
      have each : ∀ other ∈ item :: items, other.ReadsBlock ∧ other.IsLegible :=
        fun other mem => ⟨(ih other mem).1, all other mem⟩
      exact ⟨readsBlock_list each, readsValue_list each⟩
  | @mapping entries keys values ih =>
    cases entries with
    | nil =>
      exact ⟨readsBlock_of_lineText (.mapping keys values) rfl,
        readsValue_of_lineText (.mapping keys values) rfl⟩
    | cons entry entries =>
      have block : Node.ReadsBlock (.mapping (entry :: entries)) :=
        readsBlock_mapping (fun other mem => ⟨keys other mem, (ih other mem).2⟩)
      exact ⟨block, readsValue_mapping block (.mapping keys values)⟩

/-! ### Whole documents -/

theorem dropByteOrderMark_eq {text : List Char} (allowed : IsAllowedText text) :
    dropByteOrderMark text = text := by
  cases text with
  | nil => rfl
  | cons char rest =>
    have noMark : char ≠ '\uFEFF' := by
      rintro rfl
      exact absurd (allowed _ (.head _)) (by decide)
    simp [dropByteOrderMark, noMark]

theorem isFinished_end (fuel column : Nat) : isFinished (fuel + 1) ⟨[], column⟩ = true :=
  rfl

/-- A document is read back from what is written for it. -/
theorem read?_render {entry : Node × Node} {entries : List (Node × Node)}
    (legible : Node.IsLegible (.mapping (entry :: entries))) :
    read? (render (entry :: entries)).toList = some (.mapping (entry :: entries)) := by
  have begins := beginsNode_blockText legible 0 [] 0
  have nonempty := isEnd_blockText legible 0 [] 0
  have noMarker : Cursor.isMarker ⟨blockText 0 (.mapping (entry :: entries)) ++ [], 0⟩ = false := by
    obtain ⟨key, value⟩ := entry
    have isKey : key.IsKey := by
      cases legible with
      | mapping keys _ => exact keys _ (.head _)
    rw [blockText_mapping, List.append_assoc, List.cons_append, List.append_assoc]
    exact isMarker_keyText isKey (startsWithGap_valueText _ _ _) 0
  have read : ∀ fuel, 4 * (blockText 0 (.mapping (entry :: entries)) ++ []).length + 2 ≤ fuel →
      readBlock fuel 0 ⟨blockText 0 (.mapping (entry :: entries)) ++ [], 0⟩
        = some (.mapping (entry :: entries), ⟨[], 0⟩) := by
    intro fuel enough
    have ends : Cursor.EndsBlock 0 ⟨[], 0⟩ := ⟨by simp [Cursor.BeginsNode], .inl rfl⟩
    exact legible.reads.1 (Nat.le_refl 0) ends enough
  have written :
      (render (entry :: entries)).toList = blockText 0 (.mapping (entry :: entries)) := by
    rw [render, String.toList_ofList, entriesText_cons]
    rfl
  have allowed := isAllowedText_blockText legible 0
  rw [List.append_nil] at begins nonempty noMarker read
  have start : Cursor.skipIndent (Cursor.start (blockText 0 (.mapping (entry :: entries))))
      = ⟨false, ⟨blockText 0 (.mapping (entry :: entries)), 0⟩⟩ :=
    skipGap_eq_of_beginsNode begins false false false
  have all : (blockText 0 (.mapping (entry :: entries))).all isAllowed = true :=
    List.all_eq_true.mpr allowed
  rw [written, read?, dropByteOrderMark_eq allowed]
  simp [start, all, nonempty, noMarker, read _ (Nat.add_le_add_left (by decide : 2 ≤ 8) _),
    isFinished_end]

end Yaml
end VirtualRadio
