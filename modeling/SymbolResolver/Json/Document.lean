/-!
# JSON documents

A JSON text as a tree. Reading never fails: where a text stops being well-formed the tree ends in a
`broken` leaf, so that whoever interprets the tree meets the problems of a text in the order in which
they are written. Numbers are kept as they are spelled.
-/

namespace SymbolResolver

namespace Json

/-- A JSON value, up to the point where its text is well-formed. -/
inductive Document
  /-- The null value. -/
  | null
  /-- A truth value. -/
  | boolean (value : Bool)
  /-- A number, as spelled. -/
  | number (literal : String)
  /-- A string. -/
  | text (content : String)
  /-- A string that holds half of a surrogate pair and therefore spells no text. -/
  | unreadable
  /-- A list of values. -/
  | list (items : List Document)
  /-- Keys with values, in the order of the text. A key without readable text is `none`. -/
  | record (entries : List (Option String × Document))
  /-- The text is not well-formed here. -/
  | broken
deriving Repr, Inhabited

namespace Document

mutual

/-- Whether the text of a document is well-formed to its end. -/
def isWhole : Document → Bool
  | null | boolean _ | number _ | text _ | unreadable => true
  | list items => itemsWhole items
  | record entries => entriesWhole entries
  | broken => false

/-- Whether every item is well-formed. -/
def itemsWhole : List Document → Bool
  | [] => true
  | item :: items => item.isWhole && itemsWhole items

/-- Whether every value is well-formed. -/
def entriesWhole : List (Option String × Document) → Bool
  | [] => true
  | (_, value) :: entries => value.isWhole && entriesWhole entries

end

mutual

/-- How deep lists and records are nested. -/
def depth : Document → Nat
  | list items => itemsDepth items + 1
  | record entries => entriesDepth entries + 1
  | _ => 0

/-- The depth of the deepest item. -/
def itemsDepth : List Document → Nat
  | [] => 0
  | item :: items => max item.depth (itemsDepth items)

/-- The depth of the deepest value. -/
def entriesDepth : List (Option String × Document) → Nat
  | [] => 0
  | (_, value) :: entries => max value.depth (entriesDepth entries)

end

/-- A number without sign, fraction and exponent. -/
def natural (value : Nat) : Document := .number (String.ofList (Nat.toDigits 10 value))

/-- A record whose keys are all readable. -/
def fields (entries : List (String × Document)) : Document :=
  .record (entries.map fun entry => (some entry.1, entry.2))

/-- A value that may be absent, with null for absence. -/
def optional {α : Type} (write : α → Document) : Option α → Document
  | some value => write value
  | none => .null

/-- A list of texts. -/
def texts (contents : List String) : Document := .list (contents.map .text)

end Document

end Json

end SymbolResolver
