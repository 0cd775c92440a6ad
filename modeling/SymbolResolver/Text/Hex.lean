/-!
# Hexadecimal digits

Digests, escapes and inspected texts spell numbers in base sixteen, with letters in lower case.
-/

namespace SymbolResolver

namespace Text

/-- A hexadecimal digit in lower case. -/
def hexDigit (value : Nat) : Char :=
  if value < 10 then Char.ofNat (0x30 + value) else Char.ofNat (0x57 + value)

/-- The last digits of a number, as many as asked for. -/
def fixedHexDigits (count number : Nat) : List Char :=
  (List.range count).reverse.map fun position => hexDigit ((number >>> (4 * position)) % 16)

/-- The digits of a number without leading zeros. -/
def hexDigits (number : Nat) : List Char := Nat.toDigits 16 number

end Text

end SymbolResolver
