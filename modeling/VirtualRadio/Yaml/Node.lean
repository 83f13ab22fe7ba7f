namespace VirtualRadio
namespace Yaml

/-!
# Documents

A document is a tree of scalars, lists and mappings.  A scalar remembers
whether it was quoted, because a quoted scalar is always text while a plain one
may stand for a number, a truth value or nothing.
-/

/-- How a scalar is written. -/
inductive ScalarStyle where
  | plain
  | single
  | double
  deriving DecidableEq, Repr

/-- A document, or a part of one. -/
inductive Node where
  | scalar (style : ScalarStyle) (text : List Char)
  | list (items : List Node)
  | mapping (entries : List (Node × Node))
  deriving Repr, Inhabited

namespace Node

/-- The node that stands where nothing is written. -/
def nothing : Node :=
  .scalar .plain []

end Node

/-- A reader of documents: the document that a text stands for, if it takes the text. -/
abbrev Reader : Type :=
  String → Option Node

end Yaml
end VirtualRadio
