import VirtualRadio.Yaml.Node
import VirtualRadio.Yaml.Plain

namespace VirtualRadio
namespace Yaml

/-!
# Reading documents

A document is one node: a scalar, a collection in brackets, or a list or
mapping laid out by indentation.  The readers below take a position and give
back what they read and where they stopped.  Each takes some fuel, of which
there is always enough: every call that does not fail moves forward in the
text, and between two steps forward there are at most four calls.

Anchors, tags, explicit keys and block scalars are refused.  Where settings are
loaded, any other reader may take the place of this one.
-/

/-- A node that was read inside a line or a pair of brackets: where it ends, and
whether it goes over several lines. -/
structure Atom where
  node : Node
  after : Cursor
  crossed : Bool

/-- A scalar as an atom. -/
def ScalarRead.toAtom (read : ScalarRead) (style : ScalarStyle) : Atom :=
  ⟨.scalar style read.text, read.after, read.crossed⟩

/-- Read a scalar. -/
def readScalar (inFlow : Bool) (minimum : Nat) (cursor : Cursor) : Option Atom :=
  match cursor.text with
  | '\'' :: rest => (readSingle (cursor.column + 1) [] rest).map (·.toAtom .single)
  | '"' :: rest =>
    (readDouble (rest.length + 1) ⟨rest, cursor.column + 1⟩).map (·.toAtom .double)
  | text =>
    if startsPlain inFlow text then
      (readPlain inFlow minimum (text.length + 1) cursor).map (·.toAtom .plain)
    else
      none

/-! ### Inside brackets -/

mutual

/-- Read a scalar or a collection in brackets. -/
def readAtom (inFlow : Bool) (minimum : Nat) : Nat → Cursor → Option Atom
  | 0, _ => none
  | fuel + 1, cursor =>
    match cursor.text with
    | '[' :: _ =>
      (readFlowItems fuel (cursor.advance 1)).map (fun (items, after, crossed) =>
        ⟨.list items, after, crossed⟩)
    | '\x7b' :: _ =>
      (readFlowEntries fuel (cursor.advance 1)).map (fun (entries, after, crossed) =>
        ⟨.mapping entries, after, crossed⟩)
    | _ => readScalar inFlow minimum cursor

/-- Read a node inside brackets that may be followed by a colon and a value.
The third component tells whether there was a colon; a key lies on the line of
its colon. -/
def readFlowPair : Nat → Cursor → Option (Node × Option Node × Cursor × Bool)
  | 0, _ => none
  | fuel + 1, cursor =>
    match readAtom true 0 fuel cursor with
    | none => none
    | some key =>
      let next := key.after.skipFlow
      match next.cursor.text with
      | ':' :: _ =>
        if key.crossed || next.crossed then
          none
        else
          let start := (next.cursor.advance 1).skipFlow
          if start.cursor.text.head?.any (fun char => char = ',' || char = ']' || char = '\x7d')
          then some (key.node, some .nothing, start.cursor, start.crossed)
          else
            match readAtom true 0 fuel start.cursor with
            | none => none
            | some value =>
              let next := value.after.skipFlow
              some (key.node, some value.node, next.cursor,
                start.crossed || value.crossed || next.crossed)
      | _ => some (key.node, none, next.cursor, key.crossed || next.crossed)

/-- Read the items of a list up to its closing bracket. -/
def readFlowItems : Nat → Cursor → Option (List Node × Cursor × Bool)
  | 0, _ => none
  | fuel + 1, cursor =>
    let start := cursor.skipFlow
    if start.cursor.isDocumentEnd then
      none
    else if start.cursor.text.head? = some ']' then
      some ([], start.cursor.advance 1, start.crossed)
    else
      match readFlowPair fuel start.cursor with
      | none => none
      | some (first, second?, next, crossed) =>
        let item := match second? with
          | none => first
          | some second => .mapping [(first, second)]
        match next.text with
        | ',' :: _ =>
          (readFlowItems fuel (next.advance 1)).map (fun (items, after, more) =>
            (item :: items, after, start.crossed || crossed || more))
        | ']' :: _ => some ([item], next.advance 1, start.crossed || crossed)
        | _ => none

/-- Read the entries of a mapping up to its closing brace. -/
def readFlowEntries : Nat → Cursor → Option (List (Node × Node) × Cursor × Bool)
  | 0, _ => none
  | fuel + 1, cursor =>
    let start := cursor.skipFlow
    if start.cursor.isDocumentEnd then
      none
    else if start.cursor.text.head? = some '\x7d' then
      some ([], start.cursor.advance 1, start.crossed)
    else
      match readFlowPair fuel start.cursor with
      | none => none
      | some (key, value?, next, crossed) =>
        let entry := (key, value?.getD .nothing)
        match next.text with
        | ',' :: _ =>
          (readFlowEntries fuel (next.advance 1)).map (fun (entries, after, more) =>
            (entry :: entries, after, start.crossed || crossed || more))
        | '\x7d' :: _ => some ([entry], next.advance 1, start.crossed || crossed)
        | _ => none

end

/-! ### Laid out by indentation -/

/-- Read an atom that ends its line; the position is that of the next node. -/
def readLineAtom (minimum fuel : Nat) (cursor : Cursor) : Option (Node × Cursor) :=
  match readAtom false minimum fuel cursor with
  | none => none
  | some atom =>
    let next := atom.after.skip
    if next.crossed || next.cursor.isEnd then some (atom.node, next.cursor) else none

mutual

/-- Read a node that begins where a list or mapping may begin.  Lines that
belong to a scalar are indented to `minimum` at least. -/
def readBlock : Nat → Nat → Cursor → Option (Node × Cursor)
  | 0, _, _ => none
  | fuel + 1, minimum, cursor =>
    if cursor.isDash then
      (readItems fuel cursor.column false cursor).map (fun (items, next) => (.list items, next))
    else
      match readAtom false minimum fuel cursor with
      | none => none
      | some atom =>
        let next := atom.after.skip
        if next.crossed || next.cursor.isEnd then
          some (atom.node, next.cursor)
        else if next.cursor.isColon && !atom.crossed then
          (readEntries fuel cursor.column atom.node (next.cursor.advance 1)).map
            (fun (entries, next) => (.mapping entries, next))
        else
          none

/-- Read the items of a list whose dashes stand in one column.  If `shared`,
the column is also that of a mapping which the list belongs to, and an entry of
the mapping ends it. -/
def readItems : Nat → Nat → Bool → Cursor → Option (List Node × Cursor)
  | 0, _, _, _ => none
  | fuel + 1, column, shared, cursor =>
    let start := (cursor.advance 1).skipIndent
    let item? :=
      if start.cursor.isDocumentEnd then
        some (.nothing, start.cursor)
      else if start.crossed && start.cursor.column ≤ column then
        some (.nothing, start.cursor)
      else
        readBlock fuel (column + 1) start.cursor
    match item? with
    | none => none
    | some (item, next) =>
      if next.isDocumentEnd || next.column < column then
        some ([item], next)
      else if next.column = column then
        if next.isDash then
          (readItems fuel column shared next).map (fun (items, after) => (item :: items, after))
        else if shared then
          some ([item], next)
        else
          none
      else
        none

/-- Read the entries of a mapping whose keys stand in one column, from behind
the colon of the first key. -/
def readEntries : Nat → Nat → Node → Cursor → Option (List (Node × Node) × Cursor)
  | 0, _, _, _ => none
  | fuel + 1, column, key, cursor =>
    match readValue fuel column cursor with
    | none => none
    | some (value, next) =>
      if next.isDocumentEnd || next.column < column then
        some ([(key, value)], next)
      else if next.column = column then
        match readAtom false (column + 1) fuel next with
        | none => none
        | some atom =>
          let colon := atom.after.skip
          if colon.cursor.isColon && !atom.crossed && !colon.crossed then
            (readEntries fuel column atom.node (colon.cursor.advance 1)).map
              (fun (entries, after) => ((key, value) :: entries, after))
          else
            none
      else
        none

/-- Read the value of an entry of a mapping in a column.  On the line of its key
it is an atom; on a later line it is indented further, except that the dashes
of a list may stand in the column of the key. -/
def readValue : Nat → Nat → Cursor → Option (Node × Cursor)
  | 0, _, _ => none
  | fuel + 1, column, cursor =>
    let start := cursor.skip
    if start.cursor.isDocumentEnd then
      some (.nothing, start.cursor)
    else if !start.crossed then
      readLineAtom (column + 1) fuel start.cursor
    else if column < start.cursor.column then
      readBlock fuel (column + 1) start.cursor
    else if start.cursor.column = column && start.cursor.isDash then
      (readItems fuel column true start.cursor).map (fun (items, next) => (.list items, next))
    else
      some (.nothing, start.cursor)

end

/-- Whether nothing but separation and closing markers follows. -/
def isFinished : Nat → Cursor → Bool
  | 0, _ => false
  | fuel + 1, cursor =>
    cursor.isEnd
      || (cursor.isMarker && cursor.text.head? = some '.'
        && (let next := (cursor.advance 3).skip
            (next.crossed || next.cursor.isEnd) && isFinished fuel next.cursor))

/-- Drop the mark that some editors put in front of a text. -/
def dropByteOrderMark : List Char → List Char
  | '\uFEFF' :: rest => rest
  | text => text

/-- Read the only document of a text.  A text without one reads as nothing. -/
def read? (document : List Char) : Option Node :=
  let text := dropByteOrderMark document
  if !text.all isAllowed then
    none
  else
    let fuel := 4 * text.length + 8
    let start := (Cursor.start text).skipIndent.cursor
    let root? :=
      if start.isEnd then
        some (.nothing, start)
      else if start.isMarker then
        if start.text.head? = some '.' then
          none
        else
          let next := (start.advance 3).skip
          if next.cursor.isDocumentEnd then some (.nothing, next.cursor)
          else if next.crossed then readBlock fuel 0 next.cursor
          else readLineAtom 0 fuel next.cursor
      else
        readBlock fuel 0 start
    match root? with
    | none => none
    | some (node, next) => if isFinished fuel next then some node else none

/-- The reader of this library. -/
def reader : Reader :=
  fun text => read? text.toList

end Yaml
end VirtualRadio
