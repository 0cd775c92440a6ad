/-!
# Number literals

How the literals of JSON numbers are read. A literal of digits alone spells a natural number. Any other
one stands for a double precision number, which is put together from a significand of 64 bits and a
power of ten. Both are rounded to double precision before they are multiplied, so a literal close to
the largest finite number can be out of range although its exact value is not.
-/

namespace SymbolResolver

namespace Json

/-- A decimal digit. -/
def isDigit (char : Char) : Bool := '0' ≤ char && char ≤ '9'

/-- The number that a digit stands for. -/
def digitValue (digit : Char) : Nat := digit.toNat - '0'.toNat

/-- The number that decimal digits spell. -/
def digitsValue (digits : List Char) : Nat :=
  digits.foldl (fun value digit => 10 * value + digitValue digit) 0

/-- The value of a literal without sign, fraction and exponent. -/
def naturalValue? (literal : String) : Option Nat :=
  if literal.toList ≠ [] ∧ literal.toList.all isDigit then some (digitsValue literal.toList)
  else none

/-! ## Rounding to double precision -/

/-- The nearest number that 53 binary digits and a power of two can express. Halfway between two of
them it is the one whose last digit is even. -/
def nearestDouble (value : Nat) : Nat :=
  let excess := value.log2 - 52
  let kept := value >>> excess
  let dropped := value - (kept <<< excess)
  let unit := 1 <<< excess
  if unit < 2 * dropped ∨ (2 * dropped = unit ∧ kept % 2 = 1) then (kept + 1) <<< excess
  else kept <<< excess

/-- The least number that rounds to infinity: half a unit above the largest finite double. -/
def doubleOverflow : Nat := (1 <<< 1024) - (1 <<< 970)

/-! ## Significands and powers of ten -/

/-- A significand and the power of ten that scales it. -/
structure Scaled where
  /-- The significand. -/
  significand : Nat
  /-- The power of ten. -/
  exponent : Int
deriving DecidableEq, Repr

/-- Appends digits to a significand as long as it stays below `2 ^ 64`. The result tells which digits
were left over. -/
def appendDigits : Nat → List Char → Nat × List Char
  | significand, [] => (significand, [])
  | significand, digit :: digits =>
    if 10 * significand + digitValue digit < UInt64.size then
      appendDigits (10 * significand + digitValue digit) digits
    else (significand, digit :: digits)

/-- The number of the exponent of a literal, given everything after its mark. -/
def exponentValue : List Char → Int
  | '-' :: digits => -(digitsValue digits : Int)
  | '+' :: digits => digitsValue digits
  | digits => digitsValue digits

/-- Reads a literal without its sign. Digits of the whole part that do not fit into the significand
still scale it, and such digits of the fraction are dropped. -/
def Scaled.ofLiteral (literal : List Char) : Scaled :=
  let whole := literal.takeWhile isDigit
  let afterWhole := literal.dropWhile isDigit
  let fraction := match afterWhole with
    | '.' :: rest => rest.takeWhile isDigit
    | _ => []
  let exponent := exponentValue ((afterWhole.dropWhile fun char => char != 'e' && char != 'E').drop 1)
  let (wholeValue, wholeRest) := appendDigits 0 whole
  let (significand, fractionRest) := appendDigits wholeValue fraction
  ⟨significand, exponent + wholeRest.length - (fraction.length - fractionRest.length : Nat)⟩

/-- Whether a significand stays finite under its power of ten. Powers of ten above the largest one
that is finite are out of range for everything but zero. -/
def Scaled.isFinite (scaled : Scaled) : Bool :=
  if scaled.significand = 0 ∨ scaled.exponent ≤ 0 then true
  else if 308 < scaled.exponent then false
  else
    nearestDouble scaled.significand * nearestDouble (Nat.pow 10 scaled.exponent.toNat) <
      doubleOverflow

/-- Whether the number that a literal stands for is finite. -/
def isFiniteLiteral (literal : String) : Bool :=
  match literal.toList with
  | '-' :: unsigned => (Scaled.ofLiteral unsigned).isFinite
  | unsigned => (Scaled.ofLiteral unsigned).isFinite

end Json

end SymbolResolver
