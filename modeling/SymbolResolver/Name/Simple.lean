import SymbolResolver.Name.Fault
import SymbolResolver.Text.Alphabetic
import SymbolResolver.Text.Numeric
import SymbolResolver.Text.Slice

/-!
# Simple names

One segment of a qualified name: a plain identifier, or any text between backticks that stays on
its line and holds none of the characters with a meaning in paths and signatures.
-/

namespace SymbolResolver

namespace Identifier

/-- The quote around an escaped identifier. -/
def backtick : Char := '\x60'

/-- Letters and the underscore can begin a plain identifier. -/
def isInitial (char : Char) : Bool :=
  Text.isAlphabetic char || char == '_'

/-- Letters, numbers and the underscore can continue a plain identifier. -/
def isContinuing (char : Char) : Bool :=
  Text.isAlphabetic char || Text.isNumeric char || char == '_'

/-- Plain identifiers, as characters. -/
def isPlainChars : List Char → Bool
  | [] => false
  | initial :: rest => isInitial initial && rest.all isContinuing

/-- The characters that an escaped identifier cannot hold. -/
def forbidden : List Char :=
  [backtick, '\r', '\n', '.', ';', '[', ']', '/', '<', '>', ':', '\\']

/-- What stands between the backticks of a text that begins and ends with one of its own. -/
def inner? : List Char → Option (List Char)
  | [] => none
  | first :: rest =>
    if first = backtick ∧ rest.getLast? = some backtick then some rest.dropLast else none

/-- Escaped identifiers, as characters. -/
def isEscapedChars (chars : List Char) : Bool :=
  match inner? chars with
  | some inner => inner != [] && inner.all fun char => !forbidden.contains char
  | none => false

/-- A letter or underscore, then letters, numbers and underscores. -/
def isPlain (text : String) : Bool := isPlainChars text.toList

/-- A text between backticks that is not empty and holds no forbidden character. -/
def isEscaped (text : String) : Bool := isEscapedChars text.toList

theorem inner?_eq_some_iff {chars inner : List Char} :
    inner? chars = some inner ↔ chars = backtick :: inner ++ [backtick] := by
  cases chars with
  | nil => simp [inner?]
  | cons first rest =>
      rw [inner?, List.cons_append, List.cons.injEq]
      constructor
      · intro found
        split at found
        · rename_i quoted
          obtain ⟨middle, rfl⟩ := List.getLast?_eq_some_iff.mp quoted.2
          rw [List.dropLast_concat, Option.some.injEq] at found
          exact ⟨quoted.1, by rw [found]⟩
        · cases found
      · rintro ⟨rfl, rfl⟩
        rw [if_pos ⟨rfl, List.getLast?_concat⟩, List.dropLast_concat]

theorem toList_quoted (bare : String) :
    ("`" ++ bare ++ "`").toList = backtick :: bare.toList ++ [backtick] := by
  simp [backtick]

/-- An escaped identifier is a pair of backticks with something harmless in between. A single
backtick is not a pair. -/
theorem isEscaped_iff {text : String} :
    isEscaped text = true ↔ ∃ bare, text = "`" ++ bare ++ "`" ∧ bare ≠ "" ∧
      ∀ char ∈ bare.toList, char ∉ forbidden := by
  constructor
  · intro escaped
    unfold isEscaped isEscapedChars at escaped
    split at escaped
    · rename_i inner found
      rw [Bool.and_eq_true, bne_iff_ne, List.all_eq_true] at escaped
      refine ⟨String.ofList inner, ?_, by simpa using escaped.1, by simpa using escaped.2⟩
      rw [← String.toList_inj, inner?_eq_some_iff.mp found, toList_quoted, String.toList_ofList]
    · cases escaped
  · rintro ⟨bare, rfl, bare_ne, harmless⟩
    have found : inner? ("`" ++ bare ++ "`").toList = some bare.toList :=
      inner?_eq_some_iff.mpr (toList_quoted bare)
    rw [isEscaped, isEscapedChars, found]
    simpa using ⟨bare_ne, harmless⟩

theorem head?_of_isEscaped {text : String} (escaped : isEscaped text = true) :
    text.toList.head? = some backtick := by
  obtain ⟨bare, rfl, -⟩ := isEscaped_iff.mp escaped
  rw [toList_quoted, List.cons_append, List.head?_cons]

theorem isContinuing_of_isInitial {char : Char} (initial : isInitial char = true) :
    isContinuing char = true := by
  rw [isInitial, Bool.or_eq_true] at initial
  rw [isContinuing, Bool.or_eq_true, Bool.or_eq_true]
  exact initial.imp_left .inl

theorem all_isContinuing {chars : List Char} (plain : isPlainChars chars = true) :
    ∀ char ∈ chars, isContinuing char = true := by
  cases chars with
  | nil => cases plain
  | cons initial rest =>
      rw [isPlainChars, Bool.and_eq_true, List.all_eq_true] at plain
      exact List.forall_mem_cons.mpr ⟨isContinuing_of_isInitial plain.1, plain.2⟩

theorem not_mem_of_isPlain {text : String} {char : Char} (plain : isPlain text = true)
    (outside : isContinuing char = false) : char ∉ text.toList := by
  intro member
  rw [all_isContinuing plain char member] at outside
  cases outside

theorem backtick_not_isContinuing : isContinuing backtick = false := by decide

/-- A backtick is neither a letter nor a number, so no identifier is both plain and escaped. -/
theorem backtick_not_mem {text : String} (plain : isPlain text = true) : backtick ∉ text.toList :=
  not_mem_of_isPlain plain backtick_not_isContinuing

end Identifier

/-- A single identifier. -/
structure SimpleName where
  /-- The identifier as written, with its backticks. -/
  text : String
  /-- It is plain or escaped. -/
  valid : (Identifier.isPlain text || Identifier.isEscaped text) = true
deriving DecidableEq, Repr

namespace SimpleName

/-- Checks a text against the two forms of identifiers. -/
def ofText (text : String) : Except NameFault SimpleName :=
  if valid : (Identifier.isPlain text || Identifier.isEscaped text) = true then .ok ⟨text, valid⟩
  else .error (.notIdentifier text)

theorem ofText_text (name : SimpleName) : ofText name.text = .ok name := by
  simp only [ofText, name.valid, dite_true]

/-- Whether the identifier is written between backticks. -/
def isEscaped (name : SimpleName) : Bool :=
  name.text.toList.head? == some Identifier.backtick

/-- The first character tells an escaped identifier from a plain one. -/
theorem isEscaped_eq (name : SimpleName) : name.isEscaped = Identifier.isEscaped name.text := by
  rw [Bool.eq_iff_iff, isEscaped, beq_iff_eq]
  constructor
  · intro quoted
    have valid := name.valid
    rw [Bool.or_eq_true] at valid
    exact valid.resolve_left fun plain =>
      Identifier.backtick_not_mem plain (List.mem_of_head? quoted)
  · exact Identifier.head?_of_isEscaped

theorem isPlain_eq (name : SimpleName) : Identifier.isPlain name.text = !name.isEscaped := by
  have valid := name.valid
  rw [← name.isEscaped_eq] at valid
  cases escaped : name.isEscaped with
  | false => rwa [escaped, Bool.or_false] at valid
  | true =>
      rw [isEscaped, beq_iff_eq] at escaped
      rw [Bool.not_true, ← Bool.not_eq_true]
      exact fun plain => Identifier.backtick_not_mem plain (List.mem_of_head? escaped)

/-- A simple name without a backtick in front is a plain identifier. -/
theorem isPlain_of_not_isEscaped {name : SimpleName} (plain : name.isEscaped = false) :
    Identifier.isPlain name.text = true := by
  rw [name.isPlain_eq, plain, Bool.not_false]

/-- What is left of the identifier between its backticks. It is found by offsets, the backticks being
one byte each. -/
def unescaped? (name : SimpleName) : Option String :=
  if name.isEscaped then Text.slice? name.text 1 (name.text.utf8ByteSize - 1) else some name.text

theorem unescaped?_of_plain {name : SimpleName} (plain : name.isEscaped = false) :
    name.unescaped? = some name.text := by
  rw [unescaped?, plain, if_neg Bool.false_ne_true]

theorem unescaped?_of_quoted {name : SimpleName} {bare : String}
    (quoted : name.text = "`" ++ bare ++ "`") : name.unescaped? = some bare := by
  have escaped : name.isEscaped = true := by
    rw [isEscaped, quoted, Identifier.toList_quoted]
    rfl
  rw [unescaped?, if_pos escaped, Text.slice?_eq_some_iff]
  have size : ("`" ++ bare ++ "`").utf8ByteSize = ("`" ++ bare).utf8ByteSize + 1 :=
    String.utf8ByteSize_append
  exact ⟨"`", "`", quoted, rfl, by rw [quoted, size, Nat.add_sub_cancel]⟩

theorem isSome_unescaped? (name : SimpleName) : name.unescaped?.isSome = true := by
  cases escaped : name.isEscaped with
  | false => rw [unescaped?_of_plain escaped, Option.isSome_some]
  | true =>
      rw [isEscaped_eq] at escaped
      obtain ⟨bare, quoted, -⟩ := Identifier.isEscaped_iff.mp escaped
      rw [unescaped?_of_quoted quoted, Option.isSome_some]

/-- The identifier without its backticks. -/
def unescaped (name : SimpleName) : String := name.unescaped?.get name.isSome_unescaped?

/-- Simple names are ordered by their texts. -/
instance : Ord SimpleName where
  compare left right := compare left.text right.text

end SimpleName

end SymbolResolver
