import VirtualRadio.Yaml.Plain
import VirtualRadio.Yaml.Scalar

namespace VirtualRadio
namespace Yaml

/-!
# Writing documents

Collections are laid out by indentation: two spaces for a nested mapping, and
the dashes of a list in the column of its key.  Text is written plain wherever
it would be read as the same text, else between single quotes, or between
double quotes if it holds characters that must be escaped.
-/

/-- How a text is written so that it is read as the same text. -/
def styleOf (text : List Char) : ScalarStyle :=
  if !fitsSingle text then .double
  else if isAmbiguous text || isForeignTruth text || !fitsPlain text then .single
  else .plain

/-- A text as a scalar. -/
def Node.ofText (text : String) : Node :=
  .scalar (styleOf text.toList) text.toList

/-- A number as a scalar. -/
def Node.ofNat (value : Nat) : Node :=
  .scalar .plain (Text.decimal value)

/-- A truth value as a scalar. -/
def Node.ofBool (value : Bool) : Node :=
  .scalar .plain (if value then "true".toList else "false".toList)

/-- A scalar as it is written. -/
def scalarText (style : ScalarStyle) (text : List Char) : List Char :=
  match style with
  | .plain => text
  | .single => ['\''] ++ encodeSingle text ++ ['\'']
  | .double => ['"'] ++ encodeDouble text ++ ['"']

/-- The spaces in front of a line. -/
def spaces (indent : Nat) : List Char :=
  List.replicate indent ' '

/-- A key as it is written; keys that are no scalars are not written. -/
def keyText : Node → List Char
  | .scalar style text => scalarText style text
  | _ => []

mutual

/-- A value behind its key or dash, to the end of its last line.  Nested lines
are indented by `indent`. -/
def valueText (indent : Nat) : Node → List Char
  | .scalar style text => [' '] ++ scalarText style text ++ ['\n']
  | .list [] => " []\n".toList
  | .list items => ['\n'] ++ itemsText indent items
  | .mapping [] => [' ', '\x7b', '\x7d', '\n']
  | .mapping entries => ['\n'] ++ entriesText (indent + 2) true entries

/-- The items of a list. -/
def itemsText (indent : Nat) : List Node → List Char
  | [] => []
  | .mapping (entry :: entries) :: rest =>
    spaces indent ++ ['-', ' '] ++ entriesText (indent + 2) false (entry :: entries)
      ++ itemsText indent rest
  | item :: rest => spaces indent ++ ['-'] ++ valueText (indent + 2) item ++ itemsText indent rest

/-- The entries of a mapping.  If not `indented`, the first one follows a dash
on its line. -/
def entriesText (indent : Nat) (indented : Bool) : List (Node × Node) → List Char
  | [] => []
  | (key, value) :: rest =>
    (if indented then spaces indent else []) ++ keyText key ++ [':'] ++ valueText indent value
      ++ entriesText indent true rest

end

/-- A mapping as a document. -/
def render (entries : List (Node × Node)) : String :=
  String.ofList (entriesText 0 true entries)

end Yaml
end VirtualRadio
