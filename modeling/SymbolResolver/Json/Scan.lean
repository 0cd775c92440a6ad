import SymbolResolver.Json.Document
import SymbolResolver.Json.Number

/-!
# Reading JSON text

Recursive descent over the characters of a text. Every function returns what it could read together
with the characters that are left; no characters are returned once the text has stopped being
well-formed, and the tree that was read then ends in a broken leaf.
-/

namespace SymbolResolver

namespace Json

/-- The characters that may stand between tokens. -/
def isSpace (char : Char) : Bool :=
  char == ' ' || char == '\t' || char == '\n' || char == '\r'

/-- Skips the characters between tokens. -/
def skipSpaces (chars : List Char) : List Char := chars.dropWhile isSpace

/-! ## Strings -/

/-- One element of a string: a character, or half of a surrogate pair given by its number. -/
inductive StringUnit
  /-- A character. -/
  | char (char : Char)
  /-- Half of a surrogate pair. -/
  | surrogate (code : Nat)
deriving DecidableEq, Repr

/-- The value of a hexadecimal digit. -/
def hexValue? (char : Char) : Option Nat :=
  if '0' ≤ char ∧ char ≤ '9' then some (char.toNat - '0'.toNat)
  else if 'a' ≤ char ∧ char ≤ 'f' then some (char.toNat - 'a'.toNat + 10)
  else if 'A' ≤ char ∧ char ≤ 'F' then some (char.toNat - 'A'.toNat + 10)
  else none

/-- The unit that four hexadecimal digits name. -/
def hexUnit? (first second third fourth : Char) : Option StringUnit := do
  let code := 4096 * (← hexValue? first) + 256 * (← hexValue? second) +
    16 * (← hexValue? third) + (← hexValue? fourth)
  if 0xD800 ≤ code ∧ code ≤ 0xDFFF then some (.surrogate code) else some (.char (Char.ofNat code))

/-- The character that a short escape stands for. -/
def shortEscape? (char : Char) : Option Char :=
  match char with
  | '\"' => some '\"'
  | '\\' => some '\\'
  | '/' => some '/'
  | 'b' => some '\x08'
  | 'f' => some '\x0c'
  | 'n' => some '\n'
  | 'r' => some '\r'
  | 't' => some '\t'
  | _ => none

/-- Puts a unit in front of the units of a string. -/
def consUnit (unit : StringUnit) :
    Option (List StringUnit × List Char) → Option (List StringUnit × List Char)
  | some (units, rest) => some (unit :: units, rest)
  | none => none

/-- The units of a string after its opening quote, and what follows the closing quote. -/
def scanUnits : List Char → Option (List StringUnit × List Char)
  | [] => none
  | '\"' :: rest => some ([], rest)
  | '\\' :: 'u' :: first :: second :: third :: fourth :: rest =>
    match hexUnit? first second third fourth with
    | some unit => consUnit unit (scanUnits rest)
    | none => none
  | '\\' :: escape :: rest =>
    match shortEscape? escape with
    | some char => consUnit (.char char) (scanUnits rest)
    | none => none
  | char :: rest =>
    if char = '\\' ∨ char.toNat < 0x20 then none else consUnit (.char char) (scanUnits rest)

/-- The characters that units spell, if no half of a surrogate pair stands alone. -/
def spell? : List StringUnit → Option (List Char)
  | [] => some []
  | .char char :: units => (spell? units).map (char :: ·)
  | .surrogate high :: .surrogate low :: units =>
    if high ≤ 0xDBFF ∧ 0xDC00 ≤ low then
      (spell? units).map (Char.ofNat (0x10000 + 0x400 * (high - 0xD800) + (low - 0xDC00)) :: ·)
    else none
  | .surrogate _ :: _ => none

/-- The text of a string after its opening quote, `none` inside if it cannot be read, and what follows
the closing quote. -/
def scanString (chars : List Char) : Option (Option String × List Char) :=
  (scanUnits chars).map fun (units, rest) => ((spell? units).map String.ofList, rest)

/-! ## Numbers -/

/-- A run of digits that is not empty. -/
def scanDigits (chars : List Char) : Option (List Char × List Char) :=
  match chars.takeWhile isDigit with
  | [] => none
  | digits => some (digits, chars.dropWhile isDigit)

/-- The part of a number before its point: no digit follows a leading zero. -/
def scanWhole : List Char → Option (List Char × List Char)
  | '0' :: rest => some (['0'], rest)
  | chars => scanDigits chars

/-- The point and the digits after it, if there is a point. -/
def scanFraction : List Char → Option (List Char × List Char)
  | '.' :: rest => (scanDigits rest).map fun (digits, rest) => ('.' :: digits, rest)
  | chars => some ([], chars)

/-- The sign of an exponent, if there is one. -/
def scanSign : List Char → List Char × List Char
  | '+' :: rest => (['+'], rest)
  | '-' :: rest => (['-'], rest)
  | chars => ([], chars)

/-- The exponent, if there is one. -/
def scanExponent : List Char → Option (List Char × List Char)
  | mark :: rest =>
    if mark = 'e' ∨ mark = 'E' then
      let (sign, rest) := scanSign rest
      (scanDigits rest).map fun (digits, rest) => (mark :: sign ++ digits, rest)
    else some ([], mark :: rest)
  | [] => some ([], [])

/-- A number without its sign. -/
def scanUnsigned (chars : List Char) : Option (List Char × List Char) := do
  let (whole, rest) ← scanWhole chars
  let (fraction, rest) ← scanFraction rest
  let (exponent, rest) ← scanExponent rest
  return (whole ++ fraction ++ exponent, rest)

/-- A number. -/
def scanNumber : List Char → Option (List Char × List Char)
  | '-' :: rest => (scanUnsigned rest).map fun (literal, rest) => ('-' :: literal, rest)
  | chars => scanUnsigned chars

/-! ## Values -/

mutual

/-- One value. Fuel bounds the number of nested calls. -/
def scanValue : Nat → List Char → Document × Option (List Char)
  | 0, _ => (.broken, none)
  | fuel + 1, chars =>
    match skipSpaces chars with
    | '\"' :: rest =>
      match scanString rest with
      | some (some content, rest) => (.text content, some rest)
      | some (none, rest) => (.unreadable, some rest)
      | none => (.broken, none)
    | '[' :: rest =>
      match skipSpaces rest with
      | ']' :: rest => (.list [], some rest)
      | rest =>
        let (items, rest) := scanItems fuel rest
        (.list items, rest)
    | '\x7b' :: rest =>
      match skipSpaces rest with
      | '\x7d' :: rest => (.record [], some rest)
      | rest =>
        let (entries, rest) := scanEntries fuel rest
        (.record entries, rest)
    | 'n' :: 'u' :: 'l' :: 'l' :: rest => (.null, some rest)
    | 't' :: 'r' :: 'u' :: 'e' :: rest => (.boolean true, some rest)
    | 'f' :: 'a' :: 'l' :: 's' :: 'e' :: rest => (.boolean false, some rest)
    | chars =>
      match scanNumber chars with
      | some (literal, rest) => (.number (String.ofList literal), some rest)
      | none => (.broken, none)

/-- The items of a list after its bracket, at least one. -/
def scanItems : Nat → List Char → List Document × Option (List Char)
  | 0, _ => ([.broken], none)
  | fuel + 1, chars =>
    match scanValue fuel chars with
    | (item, none) => ([item], none)
    | (item, some rest) =>
      match skipSpaces rest with
      | ',' :: rest =>
        let (items, rest) := scanItems fuel rest
        (item :: items, rest)
      | ']' :: rest => ([item], some rest)
      | _ => ([item, .broken], none)

/-- The entries of a record after its brace, at least one. -/
def scanEntries : Nat → List Char → List (Option String × Document) × Option (List Char)
  | 0, _ => ([(none, .broken)], none)
  | fuel + 1, chars =>
    match skipSpaces chars with
    | '\"' :: rest =>
      match scanString rest with
      | none => ([(none, .broken)], none)
      | some (key, rest) =>
        match skipSpaces rest with
        | ':' :: rest =>
          match scanValue fuel rest with
          | (value, none) => ([(key, value)], none)
          | (value, some rest) =>
            match skipSpaces rest with
            | ',' :: rest =>
              let (entries, rest) := scanEntries fuel rest
              ((key, value) :: entries, rest)
            | '\x7d' :: rest => ([(key, value)], some rest)
            | _ => ([(key, value), (none, .broken)], none)
        | _ => ([(key, .broken)], none)
    | _ => ([(none, .broken)], none)

end

/-- The document at the beginning of a text, and whether nothing but spaces follows it. -/
def scan (text : String) : Document × Bool :=
  let chars := text.toList
  match scanValue (2 * chars.length + 2) chars with
  | (document, some rest) => (document, skipSpaces rest == [])
  | (document, none) => (document, false)

end Json

end SymbolResolver
