import SymbolResolver.Json.Scan
import SymbolResolver.Name.Fault
import SymbolResolver.Table

/-!
# Interpreting documents

A reader turns a document into a value or says why it cannot. Readers visit a document in the order of
its text and stop at the first problem, and a broken leaf is a problem like any other.
-/

namespace SymbolResolver

namespace Json

/-- Why a text does not denote a value. -/
inductive ReadError
  /-- The text is not JSON, or not JSON of the expected shape. -/
  | malformed
  /-- The shape is right, and the names in it are not. -/
  | invalid (fault : NameFault)
deriving DecidableEq, Repr

/-- The text that is shown for a read error. -/
def ReadError.message : ReadError → String
  | malformed => "the text does not have the expected form"
  | invalid fault => fault.toError.display

/-- An interpretation of documents. -/
abbrev Reader (α : Type) := Document → Except ReadError α

/-- The value of a whole text: its document, and nothing after it. -/
def readText {α : Type} (reader : Reader α) (text : String) : Except ReadError α := do
  let (document, atEnd) := scan text
  let value ← reader document
  if atEnd then return value else throw .malformed

namespace Reader

/-- Work on names as part of a reader. -/
def named {α : Type} : Except NameFault α → Except ReadError α
  | .ok value => .ok value
  | .error fault => .error (.invalid fault)

/-- A string. -/
def text : Reader String
  | .text content => .ok content
  | _ => .error .malformed

/-- A truth value. -/
def boolean : Reader Bool
  | .boolean value => .ok value
  | _ => .error .malformed

/-- A natural number below a bound. -/
def naturalBelow (bound : Nat) : Reader Nat
  | .number literal =>
    match naturalValue? literal with
    | some value => if value < bound then .ok value else .error .malformed
    | none => .error .malformed
  | _ => .error .malformed

/-- A value, or null for its absence. -/
def optional {α : Type} (reader : Reader α) : Reader (Option α)
  | .null => .ok none
  | document => (reader document).map some

/-- A list. -/
def list {α : Type} (reader : Reader α) : Reader (List α)
  | .list items => items.mapM reader
  | _ => .error .malformed

/-- A record from texts to texts. Of two entries with one key the later one counts. -/
def table : Reader TextTable
  | .record entries => do
    let pairs ← entries.mapM fun entry =>
      match entry.1 with
      | some key => (text entry.2).map fun value => (key, value)
      | none => .error .malformed
    return .ofList pairs
  | _ => .error .malformed

/-- One of several tags, given as a string or as the key of a record whose only value is null. -/
def tagged {α : Type} (ofTag? : String → Option α) : Reader α
  | .text tag => (ofTag? tag).elim (.error .malformed) .ok
  | .record [(some tag, .null)] => (ofTag? tag).elim (.error .malformed) .ok
  | _ => .error .malformed

/-! ## Records with known fields -/

/-- A known field: its name, and the check that its value can be read. -/
structure Field where
  /-- The name. -/
  name : String
  /-- The check of its value. -/
  check : Document → Except ReadError Unit

/-- A field that is read by a reader. -/
def field {α : Type} (name : String) (reader : Reader α) : Field :=
  ⟨name, fun document => (reader document).map fun _ => ()⟩

/-- Visits the entries of a record in order. A known field may come once and its value has to be
readable; the value of any other key only has to be well-formed. -/
def visit (known : List Field) :
    List String → List (Option String × Document) → Except ReadError Unit
  | _, [] => .ok ()
  | _, (none, _) :: _ => .error .malformed
  | seen, (some key, value) :: entries =>
    match known.find? (·.name == key) with
    | some expected =>
      if seen.contains key then .error .malformed
      else do
        expected.check value
        visit known (key :: seen) entries
    | none => if value.isWhole then visit known seen entries else .error .malformed

/-- The entries of a record. A list stands for a record as well: it holds the values of the known
fields in order, and nothing else. -/
def entriesOf (known : List Field) : Reader (List (Option String × Document))
  | .record entries => .ok entries
  | .list items =>
    let entries := (known.map fun expected => some expected.name).zip items
    .ok (if items.length ≤ known.length then entries else entries ++ [(none, .broken)])
  | _ => .error .malformed

/-- The entries of a record whose known fields are all readable. -/
def fieldsOf (known : List Field) : Reader (List (Option String × Document)) := fun document => do
  let entries ← entriesOf known document
  visit known [] entries
  return entries

/-- The value of a field that has to be present. -/
def required {α : Type} (entries : List (Option String × Document)) (name : String)
    (reader : Reader α) : Except ReadError α :=
  match entries.lookup (some name) with
  | some document => reader document
  | none => .error .malformed

/-- The value of a field that may be left out. -/
def defaulted {α : Type} (entries : List (Option String × Document)) (name : String)
    (absent : α) (reader : Reader α) : Except ReadError α :=
  match entries.lookup (some name) with
  | some document => reader document
  | none => .ok absent

/-! ## Variants told apart by a tag -/

mutual

/-- Whether a document can be held back until its tag is known: it is well-formed, its strings are
readable and its numbers are finite. -/
def isHoldable : Document → Bool
  | .null | .boolean _ | .text _ => true
  | .number literal => isFiniteLiteral literal
  | .unreadable | .broken => false
  | .list items => itemsHoldable items
  | .record entries => entriesHoldable entries

/-- Whether every item can be held back. -/
def itemsHoldable : List Document → Bool
  | [] => true
  | item :: items => isHoldable item && itemsHoldable items

/-- Whether every entry can be held back. -/
def entriesHoldable : List (Option String × Document) → Bool
  | [] => true
  | (key, value) :: entries => key.isSome && isHoldable value && entriesHoldable entries

end

mutual

/-- A document as it is read after it was held back: an empty record that is the only value of a record
counts as null, so that it can stand behind a tag. -/
def relaxed : Document → Document
  | .record [(key, .record [])] => .record [(key, .null)]
  | .record entries => .record (relaxedEntries entries)
  | .list items => .list (relaxedItems items)
  | document => document

/-- The items as they are read after they were held back. -/
def relaxedItems : List Document → List Document
  | [] => []
  | item :: items => relaxed item :: relaxedItems items

/-- The entries as they are read after they were held back. -/
def relaxedEntries : List (Option String × Document) → List (Option String × Document)
  | [] => []
  | (key, value) :: entries => (key, relaxed value) :: relaxedEntries entries

end

/-- How deep a document may be nested that is held back. -/
def maximalDepth : Nat := 127

/-- The tag of a document and the document without it. The tag is the value of the key `kind`, which
comes once, or the first item of a list. -/
def splitTag : Reader (String × Document)
  | .record entries =>
    match entries.filter (·.1 == some "kind") with
    | [(_, .text tag)] => .ok (tag, .record (entries.filter (·.1 != some "kind")))
    | _ => .error .malformed
  | .list (.text tag :: items) => .ok (tag, .list items)
  | _ => .error .malformed

/-- A value of one of several variants. The whole document is held back until the tag has chosen the
reader of the variant. -/
def variant {α : Type} (readerOf? : String → Option (Reader α)) : Reader α := fun document => do
  if isHoldable document && document.depth ≤ maximalDepth then
    let (tag, content) ← splitTag document
    match readerOf? tag with
    | some reader => reader (relaxed content)
    | none => .error .malformed
  else .error .malformed

end Reader

end Json

end SymbolResolver
