namespace VirtualRadio
namespace Yaml

/-!
# Characters

The classes of character that decide how a document is read and written.
-/

/-- A character that ends a line. -/
def isBreak (char : Char) : Bool :=
  char = '\n' || char = '\r' || char = '\x85' || char = '\u2028' || char = '\u2029'

/-- A character that separates within a line. -/
def isBlank (char : Char) : Bool :=
  char = ' ' || char = '\t'

/-- A character that separates. -/
def isGap (char : Char) : Bool :=
  isBlank char || isBreak char

/-- Whether a text ends here or goes on with a character that separates. -/
def startsWithGap : List Char → Bool
  | [] => true
  | char :: _ => isGap char

/-- A character that may occur in a document at all. -/
def isAllowed (char : Char) : Bool :=
  let code := char.toNat
  code = 0x09 || code = 0x0A || code = 0x0D || (0x20 ≤ code && code ≤ 0x7E) || code = 0x85
    || (0xA0 ≤ code && code ≤ 0xD7FF)
    || (0xE000 ≤ code && code ≤ 0xFFFD && code ≠ 0xFEFF)
    || (0x10000 ≤ code && code ≤ 0x10FFFF)

/-- A character that is written as itself.  Characters beyond the basic plane
are written as escapes. -/
def isPrintable (char : Char) : Bool :=
  let code := char.toNat
  code = 0x0A || (0x20 ≤ code && code ≤ 0x7E)
    || (0xA0 ≤ code && code ≤ 0xFFFD && code ≠ 0xFEFF)

/-- A character that cannot begin plain text, because it has a meaning there. -/
def isLeadIndicator (char : Char) : Bool :=
  char = '#' || char = ',' || char = '[' || char = ']' || char = '\x7b' || char = '\x7d'
    || char = '&' || char = '*' || char = '!' || char = '|' || char = '>' || char = '\''
    || char = '"' || char = '%' || char = '@' || char = '\x60'

/-- A character that ends plain text inside brackets. -/
def isFlowMark (char : Char) : Bool :=
  char = ',' || char = '[' || char = ']' || char = '\x7b' || char = '\x7d'

end Yaml
end VirtualRadio
