import VirtualRadio.Text.Hex
import VirtualRadio.Yaml.Cursor

namespace VirtualRadio
namespace Yaml

/-!
# Quoted scalars

Between single quotes every character stands for itself, and a quote is written
twice.  Between double quotes a backslash begins an escape.  In both, a line
end is folded.
-/

/-- A scalar that was read: its text, the position after it, and whether it
goes over several lines. -/
structure ScalarRead where
  text : List Char
  after : Cursor
  crossed : Bool

namespace ScalarRead

/-- Put text in front of what was read. -/
def prepend (front : List Char) (read : ScalarRead) : ScalarRead :=
  { read with text := front ++ read.text }

/-- Take note that what was read lies on several lines. -/
def acrossLines (crossed : Bool) (read : ScalarRead) : ScalarRead :=
  { read with crossed := crossed || read.crossed }

end ScalarRead

/-! ### Single quotes -/

/-- Read up to the closing single quote.  `gap` is the separation that was seen
since the last other character. -/
def readSingle (column : Nat) (gap : List Char) : List Char → Option ScalarRead
  | [] => none
  | '\'' :: '\'' :: rest =>
    (readSingle (column + 2) [] rest).map (fun read =>
      (read.prepend (fold gap ++ ['\''])).acrossLines (crossesLine gap))
  | char :: rest =>
    if isGap char then
      readSingle (columnAfter column [char]) (gap ++ [char]) rest
    else if (Cursor.mk (char :: rest) column).isMarker then
      none
    else if char = '\'' then
      some ⟨fold gap, ⟨rest, column + 1⟩, crossesLine gap⟩
    else
      (readSingle (column + 1) [] rest).map (fun read =>
        (read.prepend (fold gap ++ [char])).acrossLines (crossesLine gap))

/-- Text between single quotes, without the quotes. -/
def encodeSingle (text : List Char) : List Char :=
  text.flatMap (fun char => if char = '\'' then ['\'', '\''] else [char])

/-! ### Double quotes -/

/-- The character that a one-letter escape stands for. -/
def letterEscape? : Char → Option Char
  | '0' => some '\x00'
  | 'a' => some '\x07'
  | 'b' => some '\x08'
  | 't' => some '\t'
  | '\t' => some '\t'
  | 'n' => some '\n'
  | 'v' => some '\x0B'
  | 'f' => some '\x0C'
  | 'r' => some '\r'
  | 'e' => some '\x1B'
  | ' ' => some ' '
  | '"' => some '"'
  | '/' => some '/'
  | '\\' => some '\\'
  | 'N' => some '\x85'
  | '_' => some '\xA0'
  | 'L' => some '\u2028'
  | 'P' => some '\u2029'
  | _ => none

/-- How many digits follow a letter that begins a numeric escape. -/
def escapeWidth? : Char → Option Nat
  | 'x' => some 2
  | 'u' => some 4
  | 'U' => some 8
  | _ => none

/-- The value of hexadecimal digits. -/
def hexValue? (digits : List Char) : Option Nat :=
  digits.foldlM (fun value char =>
    (Text.hexDigit? char).map (fun digit => 16 * value + digit)) 0

/-- The character that an escape stands for, and the length of the escape
without its backslash. -/
def escape? (text : List Char) : Option (Char × Nat) :=
  match text with
  | [] => none
  | letter :: rest =>
    match letterEscape? letter with
    | some char => some (char, 1)
    | none =>
      match escapeWidth? letter with
      | none => none
      | some width =>
        if rest.length < width then
          none
        else
          match hexValue? (rest.take width) with
          | none => none
          | some code =>
            if (0xD800 ≤ code ∧ code ≤ 0xDFFF) ∨ 0x10FFFF < code then none
            else some (Char.ofNat code, width + 1)

/-- Read up to the closing double quote.  A line end after a backslash is left
out, together with the separation around it. -/
def readDouble : Nat → Cursor → Option ScalarRead
  | 0, _ => none
  | fuel + 1, cursor =>
    let gap := cursor.text.takeWhile isGap
    let here : Cursor :=
      ⟨cursor.text.dropWhile isGap, columnAfter cursor.column gap⟩
    if here.isMarker then
      none
    else
      match here.text with
      | [] => none
      | '"' :: rest => some ⟨fold gap, ⟨rest, here.column + 1⟩, crossesLine gap⟩
      | '\\' :: rest =>
        if rest.head?.any isBreak then
          let skipped := rest.takeWhile isGap
          (readDouble fuel ⟨rest.dropWhile isGap, columnAfter here.column skipped⟩).map
            (fun read =>
              (read.prepend (fold gap ++ (breaksOf skipped).drop 1)).acrossLines true)
        else
          match escape? rest with
          | none => none
          | some (char, length) =>
            (readDouble fuel (here.advance (length + 1))).map (fun read =>
              (read.prepend (fold gap ++ [char])).acrossLines (crossesLine gap))
      | char :: _ =>
        (readDouble fuel (here.advance 1)).map (fun read =>
          (read.prepend (fold gap ++ [char])).acrossLines (crossesLine gap))

/-- The upper-case digits of a number, padded with zeros to a width. -/
def paddedHex (width value : Nat) : List Char :=
  let digits := (Nat.toDigits 16 value).map Char.toUpper
  List.replicate (width - digits.length) '0' ++ digits

/-- A character between double quotes. -/
def encodeDoubleChar (char : Char) : List Char :=
  if char = '"' ∨ char = '\\' then ['\\', char]
  else if isPrintable char ∧ ¬ isBreak char then [char]
  else
    match char with
    | '\x00' => ['\\', '0']
    | '\x07' => ['\\', 'a']
    | '\x08' => ['\\', 'b']
    | '\t' => ['\\', 't']
    | '\n' => ['\\', 'n']
    | '\x0B' => ['\\', 'v']
    | '\x0C' => ['\\', 'f']
    | '\r' => ['\\', 'r']
    | '\x1B' => ['\\', 'e']
    | '\x85' => ['\\', 'N']
    | '\u2028' => ['\\', 'L']
    | '\u2029' => ['\\', 'P']
    | _ =>
      if char.toNat ≤ 0xFF then ['\\', 'x'] ++ paddedHex 2 char.toNat
      else if char.toNat ≤ 0xFFFF then ['\\', 'u'] ++ paddedHex 4 char.toNat
      else ['\\', 'U'] ++ paddedHex 8 char.toNat

/-- Text between double quotes, without the quotes. -/
def encodeDouble (text : List Char) : List Char :=
  text.flatMap encodeDoubleChar

end Yaml
end VirtualRadio
