import VirtualRadio.Yaml.Quoted

namespace VirtualRadio
namespace Yaml

/-!
# Plain scalars

A plain scalar has no quotes.  It ends before a colon or a comment mark that
separation sets off, inside brackets also before a comma or a bracket, and
where the indentation of a following line is missing.
-/

/-- Whether a plain scalar begins here. -/
def startsPlain (inFlow : Bool) : List Char → Bool
  | [] => false
  | char :: rest =>
    if char = '-' then !startsWithGap rest
    else if char = '?' ∨ char = ':' then !inFlow && !startsWithGap rest
    else !isGap char && !isLeadIndicator char

/-- Whether a colon is stuck to a mark, which is refused inside brackets. -/
def isStuckColon (char : Char) (rest : List Char) : Bool :=
  char = ':' && rest.head?.any (fun next => next = '?' || isFlowMark next)

/-- The characters of a plain scalar up to the next separation or its end. -/
def plainChunk (inFlow : Bool) : List Char → Option (List Char × List Char)
  | [] => some ([], [])
  | char :: rest =>
    if isGap char then some ([], char :: rest)
    else if inFlow && isStuckColon char rest then none
    else if char = ':' && startsWithGap rest then some ([], char :: rest)
    else if inFlow && isFlowMark char then some ([], char :: rest)
    else (plainChunk inFlow rest).map (fun (chunk, after) => (char :: chunk, after))

/-- Read a plain scalar, or go on with one.  `minimum` is the least column of a
line that belongs to it. -/
def readPlain (inFlow : Bool) (minimum : Nat) : Nat → Cursor → Option ScalarRead
  | 0, _ => none
  | fuel + 1, cursor =>
    match plainChunk inFlow cursor.text with
    | none => none
    | some (chunk, after) =>
      let stop : Cursor := ⟨after, cursor.column + chunk.length⟩
      let gap := after.takeWhile isGap
      let next : Cursor := ⟨after.dropWhile isGap, columnAfter stop.column gap⟩
      if gap.isEmpty || next.isEnd || next.isMarker || next.text.head? = some '#' then
        some ⟨chunk, stop, false⟩
      else if !inFlow && breaksIndent minimum false stop.column gap then
        none
      else if !inFlow && next.column < minimum then
        some ⟨chunk, stop, false⟩
      else
        match readPlain inFlow minimum fuel next with
        | none => none
        | some read =>
          if read.text.isEmpty then some ⟨chunk, stop, false⟩
          else some ((read.prepend (chunk ++ fold gap)).acrossLines (crossesLine gap))

/-! ### Texts that can be written plain -/

/-- Whether some place of a text makes it unfit to be written plain: a colon
before separation, or a comment mark after it. -/
def hasInnerMark (afterGap : Bool) : List Char → Bool
  | [] => false
  | char :: rest =>
    (char = ':' && startsWithGap rest) || (char = '#' && afterGap)
      || hasInnerMark (isGap char) rest

/-- Whether a text that is no number, truth value or nothing can be written
plain outside brackets. -/
def fitsPlain (text : List Char) : Bool :=
  match text with
  | [] => false
  | first :: rest =>
    !isLeadIndicator first
      && !((first = '?' || first = ':' || first = '-') && startsWithGap rest)
      && !hasInnerMark false text
      && first ≠ ' ' && text.getLast? ≠ some ' '
      && !text.any isBreak
      && text.take 3 ≠ ['-', '-', '-'] && text.take 3 ≠ ['.', '.', '.']
      && text.all isPrintable

/-- Whether a text can be written between single quotes. -/
def fitsSingle (text : List Char) : Bool :=
  text.all (fun char => isPrintable char && !isBreak char)

end Yaml
end VirtualRadio
