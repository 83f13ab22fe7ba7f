import VirtualRadio.Yaml.Chars

namespace VirtualRadio
namespace Yaml

/-!
# Positions in a document

Indentation has a meaning, so a position is the text that is left together with
its column.  Spaces, comments and line ends separate; a tab separates too, but
not where indentation counts.
-/

/-- The text from a position on, and the column of the position. -/
structure Cursor where
  text : List Char
  column : Nat
  deriving DecidableEq, Repr, Inhabited

namespace Cursor

/-- The beginning of a document. -/
def start (text : List Char) : Cursor := ⟨text, 0⟩

/-- Whether nothing is left. -/
def isEnd (cursor : Cursor) : Bool :=
  cursor.text.isEmpty

/-- The position after some characters of the same line. -/
def advance (cursor : Cursor) (count : Nat) : Cursor :=
  ⟨cursor.text.drop count, cursor.column + count⟩

/-- Whether a marker between documents stands here. -/
def isMarker (cursor : Cursor) : Bool :=
  cursor.column = 0
    && (cursor.text.take 3 = ['-', '-', '-'] || cursor.text.take 3 = ['.', '.', '.'])
    && startsWithGap (cursor.text.drop 3)

/-- Whether the document ends here. -/
def isDocumentEnd (cursor : Cursor) : Bool :=
  cursor.isEnd || cursor.isMarker

/-- Whether a list item begins here. -/
def isDash (cursor : Cursor) : Bool :=
  match cursor.text with
  | '-' :: rest => startsWithGap rest
  | _ => false

/-- Whether the mark between a key and its value stands here. -/
def isColon (cursor : Cursor) : Bool :=
  match cursor.text with
  | ':' :: rest => startsWithGap rest
  | _ => false

end Cursor

/-- Where the separation ends, and whether it went over the end of a line. -/
structure Skipped where
  crossed : Bool
  cursor : Cursor

/-- Skip separation.  `inFlow` says that the position is inside brackets, where
indentation does not count; `tabs` that tabs separate on the present line. -/
def skipGap (inFlow tabs inComment crossed : Bool) (column : Nat) : List Char → Skipped
  | [] => ⟨crossed, ⟨[], column⟩⟩
  | char :: rest =>
    if isBreak char then
      skipGap inFlow inFlow false true 0 rest
    else if inComment || char = ' ' || (tabs && char = '\t') then
      skipGap inFlow tabs inComment crossed (column + 1) rest
    else if char = '#' then
      skipGap inFlow tabs true crossed (column + 1) rest
    else
      ⟨crossed, ⟨char :: rest, column⟩⟩

namespace Cursor

/-- Skip separation where tabs are allowed on the present line. -/
def skip (cursor : Cursor) : Skipped :=
  skipGap false true false false cursor.column cursor.text

/-- Skip separation where the present column counts as indentation. -/
def skipIndent (cursor : Cursor) : Skipped :=
  skipGap false false false false cursor.column cursor.text

/-- Skip separation inside brackets. -/
def skipFlow (cursor : Cursor) : Skipped :=
  skipGap true true false false cursor.column cursor.text

end Cursor

/-! ### Folding

Text that goes over several lines is folded: one line end counts as a space,
and of more than one all but the first are kept. -/

/-- The line ends in a separation. -/
def breaksOf : List Char → List Char
  | [] => []
  | '\r' :: '\n' :: rest => '\n' :: breaksOf rest
  | char :: rest =>
    if char = '\u2028' ∨ char = '\u2029' then
      char :: breaksOf rest
    else if isBreak char then
      '\n' :: breaksOf rest
    else
      breaksOf rest

/-- The text that a separation inside a scalar stands for. -/
def fold (gap : List Char) : List Char :=
  match breaksOf gap with
  | [] => gap
  | ['\n'] => [' ']
  | '\n' :: more => more
  | breaks => breaks

/-- The column after a separation that began at a column. -/
def columnAfter (column : Nat) : List Char → Nat
  | [] => column
  | char :: rest => columnAfter (if isBreak char then 0 else column + 1) rest

/-- Whether a separation goes over the end of a line. -/
def crossesLine (gap : List Char) : Bool :=
  gap.any isBreak

/-- Whether a tab stands where the indentation of a following line is missing. -/
def breaksIndent (minimum : Nat) (crossed : Bool) (column : Nat) : List Char → Bool
  | [] => false
  | char :: rest =>
    if isBreak char then
      breaksIndent minimum true 0 rest
    else
      (crossed && char = '\t' && column < minimum)
        || breaksIndent minimum crossed (column + 1) rest

end Yaml
end VirtualRadio
