namespace VirtualRadio
namespace Text

/-!
# Splitting at marks

A text splits into one more part than it has marks.  Parts may be empty, and
joining them with the marks that were found gives the text back.
-/

/-- The parts of a text between the characters that `isMark` selects. -/
def splitAt (isMark : Char → Bool) : List Char → List (List Char)
  | [] => [[]]
  | char :: rest =>
    match splitAt isMark rest with
    | [] => [[]]
    | part :: parts =>
      if isMark char then [] :: part :: parts else (char :: part) :: parts

theorem splitAt_ne_nil (isMark : Char → Bool) (text : List Char) :
    splitAt isMark text ≠ [] := by
  cases text with
  | nil => simp [splitAt]
  | cons char rest =>
    rw [splitAt]
    split
    · simp
    · split <;> simp

end Text
end VirtualRadio
