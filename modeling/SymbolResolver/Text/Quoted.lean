import SymbolResolver.Text.Extending
import SymbolResolver.Text.Hex
import SymbolResolver.Text.Unprintable

/-!
# Quoted texts

The form in which a text is shown for inspection: between double quotes, with short escapes for the
common controls and the code point of every character that would not be visible by itself.
-/

namespace SymbolResolver

namespace Text

namespace Quoted

/-- A character by its code point. -/
def codePoint (char : Char) : List Char :=
  '\\' :: 'u' :: '\x7b' :: hexDigits char.toNat ++ ['\x7d']

/-- How one character is shown. -/
def escape (char : Char) : List Char :=
  match char with
  | '\x00' => ['\\', '0']
  | '\t' => ['\\', 't']
  | '\n' => ['\\', 'n']
  | '\r' => ['\\', 'r']
  | '\"' => ['\\', '\"']
  | '\\' => ['\\', '\\']
  | other => if isExtending other || isUnprintable other then codePoint other else [other]

end Quoted

/-- A text between double quotes, with its invisible characters escaped. -/
def quoted (text : String) : String :=
  String.ofList ('\"' :: text.toList.flatMap Quoted.escape ++ ['\"'])

end Text

end SymbolResolver
