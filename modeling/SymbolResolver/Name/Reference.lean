import SymbolResolver.Language
import SymbolResolver.Name.Simple
import SymbolResolver.Text.Blank
import SymbolResolver.Text.Segments

/-!
# Reference names

A name as it is written where it is used, with the language of that place.
-/

namespace SymbolResolver

/-- A written name and the language it is written in. -/
structure ReferenceName where
  /-- The name as written. -/
  text : String
  /-- The language of the place of use. -/
  language : Language
deriving DecidableEq, Repr

namespace ReferenceName

/-- A reference from its source text, without the blanks around it. -/
def ofText (text : String) (language : Language) : ReferenceName := ⟨Text.trim text, language⟩

/-- The segments of the written name. -/
def segments (reference : ReferenceName) : List String := Text.segments reference.text

/-- The first segment, if any. -/
def firstSegment? (reference : ReferenceName) : Option String := reference.segments.head?

/-- The last segment, or the whole of an unqualified name. -/
def shortName (reference : ReferenceName) : String := Text.lastSegment reference.text

/-- Whether there is a separator. -/
def isQualified (reference : ReferenceName) : Bool :=
  reference.text.toList.contains Text.separator

/-- Segment-wise beginning. -/
def startsWith (reference : ReferenceName) (stem : String) : Bool :=
  Text.startsWithSegments reference.text stem

/-- Segment-wise end. -/
def endsWith (reference : ReferenceName) (tail : String) : Bool :=
  Text.endsWithSegments reference.text tail

/-- A member of what this refers to. -/
def append (reference : ReferenceName) (name : SimpleName) : ReferenceName :=
  { reference with text := Text.appendSegments reference.text [name.text] }

/-- All but the last segment of a qualified name. -/
def parent? (reference : ReferenceName) : Option ReferenceName :=
  (Text.beforeLast? reference.text).map fun stem => { reference with text := stem }

/-- Puts another text in the place of the first segment and keeps the rest. -/
def replaceFirstSegment (reference : ReferenceName) (replacement : String) : ReferenceName :=
  { reference with
    text := Text.appendSegments replacement (Text.afterFirst? reference.text).toList }

/-- The same language with another text. -/
def resolved (reference : ReferenceName) (text : String) : ReferenceName :=
  ofText text reference.language

/-- The same text in another language. -/
def withLanguage (reference : ReferenceName) (language : Language) : ReferenceName :=
  { reference with language := language }

/-- The text with the language after it. -/
def display (reference : ReferenceName) : String :=
  reference.text ++ " (" ++ reference.language.tag ++ ")"

/-- References are ordered by text, then by language. -/
instance : Ord ReferenceName where
  compare left right :=
    (compare left.text right.text).then (compare left.language right.language)

end ReferenceName

end SymbolResolver
