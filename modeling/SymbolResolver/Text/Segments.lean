/-!
# Dotted texts

A qualified name is a text whose segments stand between dots. The functions here cut such texts at
the separator, join segments back, and compare texts segment by segment.
-/

namespace SymbolResolver

namespace Text

/-- The character between two segments. -/
def separator : Char := '.'

/-- Puts a character in front of the first piece. -/
def consFirst (char : Char) : List (List Char) → List (List Char)
  | [] => [[char]]
  | piece :: pieces => (char :: piece) :: pieces

/-- The pieces between separators. There is always one more piece than there are separators. -/
def pieces : List Char → List (List Char)
  | [] => [[]]
  | char :: chars =>
    if char = separator then [] :: pieces chars else consFirst char (pieces chars)

@[simp] theorem pieces_nil : pieces [] = [[]] := rfl

@[simp] theorem pieces_separator (chars : List Char) :
    pieces (separator :: chars) = [] :: pieces chars := by
  simp [pieces]

/-- The segments of a text. The empty text has none. -/
def segments (text : String) : List String :=
  if text.toList = [] then [] else (pieces text.toList).map String.ofList

@[simp] theorem segments_empty : segments "" = [] := by
  simp [segments]

/-- Adds one segment. Only a stem that is not empty is followed by a separator. -/
def appendPiece (stem piece : List Char) : List Char :=
  if stem = [] then piece else stem ++ separator :: piece

/-- Adds segments to a stem, one after the other. -/
def appendPieces (stem : List Char) (parts : List (List Char)) : List Char :=
  parts.foldl appendPiece stem

@[simp] theorem appendPieces_nil (stem : List Char) : appendPieces stem [] = stem := rfl

@[simp] theorem appendPieces_cons (stem part : List Char) (parts : List (List Char)) :
    appendPieces stem (part :: parts) = appendPieces (appendPiece stem part) parts := rfl

/-- Adds segments to a stem text. -/
def appendSegments (stem : String) (parts : List String) : String :=
  String.ofList (appendPieces stem.toList (parts.map String.toList))

@[simp] theorem toList_appendSegments (stem : String) (parts : List String) :
    (appendSegments stem parts).toList = appendPieces stem.toList (parts.map String.toList) := by
  simp [appendSegments]

/-- Cuts at the first separator: what stands before it, and what follows if there is one. -/
def cutFirst : List Char → List Char × Option (List Char)
  | [] => ([], none)
  | char :: chars =>
    if char = separator then ([], some chars)
    else (char :: (cutFirst chars).1, (cutFirst chars).2)

/-- Cuts at the last separator: what stands before it if there is one, and what follows. -/
def cutLast : List Char → Option (List Char) × List Char
  | [] => (none, [])
  | char :: chars =>
    match cutLast chars with
    | (some stem, last) => (some (char :: stem), last)
    | (none, last) => if char = separator then (some [], last) else (none, char :: last)

/-- What follows the first separator. -/
def afterFirst? (text : String) : Option String :=
  (cutFirst text.toList).2.map String.ofList

/-- What stands before the last separator. -/
def beforeLast? (text : String) : Option String :=
  (cutLast text.toList).1.map String.ofList

/-- The last segment, or the whole of a text without separators. -/
def lastSegment (text : String) : String :=
  String.ofList (cutLast text.toList).2

/-- Whether the stem ends where a segment of the text ends. -/
def startsWithPieces (chars stem : List Char) : Bool :=
  stem == [] ||
    match stem.isPrefixOf? chars with
    | some [] => true
    | some (char :: _) => char == separator
    | none => false

/-- Whether the tail begins where a segment of the text begins. -/
def endsWithPieces (chars tail : List Char) : Bool :=
  startsWithPieces chars.reverse tail.reverse

/-- Segment-wise beginning: `a.b.c` starts with `a.b` but not with `a.bc`. -/
def startsWithSegments (text stem : String) : Bool :=
  startsWithPieces text.toList stem.toList

/-- Segment-wise end: `a.b.c` ends with `b.c` but not with `.c`. -/
def endsWithSegments (text tail : String) : Bool :=
  endsWithPieces text.toList tail.toList

end Text

end SymbolResolver
