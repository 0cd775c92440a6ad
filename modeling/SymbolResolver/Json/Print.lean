import SymbolResolver.Json.Document
import SymbolResolver.Text.Hex

/-!
# Writing JSON text

Documents are written compactly, or with one line for every item and an indentation of two blanks.
Only quotes, backslashes and control characters are escaped.
-/

namespace SymbolResolver

namespace Json

/-- How a character is written in a string. -/
def escapeChar (char : Char) : List Char :=
  match char with
  | '\"' => ['\\', '\"']
  | '\\' => ['\\', '\\']
  | '\x08' => ['\\', 'b']
  | '\x0c' => ['\\', 'f']
  | '\n' => ['\\', 'n']
  | '\r' => ['\\', 'r']
  | '\t' => ['\\', 't']
  | other =>
    if other.toNat < 0x20 then
      '\\' :: 'u' :: Text.fixedHexDigits 4 other.toNat
    else [other]

/-- A string with its quotes. -/
def stringChars (content : String) : List Char :=
  '\"' :: content.toList.flatMap escapeChar ++ ['\"']

/-- A line break with the indentation of a depth. -/
def newLine (depth : Nat) : List Char := '\n' :: List.replicate (2 * depth) ' '

namespace Document

mutual

/-- A document without any spaces. -/
def compactChars : Document → List Char
  | null | broken => ['n', 'u', 'l', 'l']
  | boolean true => ['t', 'r', 'u', 'e']
  | boolean false => ['f', 'a', 'l', 's', 'e']
  | number literal => literal.toList
  | text content => stringChars content
  | unreadable => stringChars ""
  | list items => '[' :: compactItems items ++ [']']
  | record entries => '\x7b' :: compactEntries entries ++ ['\x7d']

/-- Items between commas. -/
def compactItems : List Document → List Char
  | [] => []
  | [item] => item.compactChars
  | item :: items => item.compactChars ++ ',' :: compactItems items

/-- Entries between commas. -/
def compactEntries : List (Option String × Document) → List Char
  | [] => []
  | [(key, value)] => stringChars (key.getD "") ++ ':' :: value.compactChars
  | (key, value) :: entries =>
    stringChars (key.getD "") ++ ':' :: value.compactChars ++ ',' :: compactEntries entries

end

mutual

/-- A document over several lines, at a depth of indentation. -/
def prettyChars (depth : Nat) : Document → List Char
  | list [] => ['[', ']']
  | record [] => ['\x7b', '\x7d']
  | list items => '[' :: prettyItems (depth + 1) items ++ newLine depth ++ [']']
  | record entries => '\x7b' :: prettyEntries (depth + 1) entries ++ newLine depth ++ ['\x7d']
  | null => compactChars .null
  | boolean value => compactChars (.boolean value)
  | number literal => compactChars (.number literal)
  | text content => compactChars (.text content)
  | unreadable => compactChars .unreadable
  | broken => compactChars .broken

/-- Items on lines of their own. -/
def prettyItems (depth : Nat) : List Document → List Char
  | [] => []
  | [item] => newLine depth ++ item.prettyChars depth
  | item :: items => newLine depth ++ item.prettyChars depth ++ ',' :: prettyItems depth items

/-- Entries on lines of their own. -/
def prettyEntries (depth : Nat) : List (Option String × Document) → List Char
  | [] => []
  | [(key, value)] =>
    newLine depth ++ stringChars (key.getD "") ++ ':' :: ' ' :: value.prettyChars depth
  | (key, value) :: entries =>
    newLine depth ++ stringChars (key.getD "") ++ ':' :: ' ' :: value.prettyChars depth ++
      ',' :: prettyEntries depth entries

end

/-- The text of a document on one line. -/
def compact (document : Document) : String := String.ofList document.compactChars

/-- The text of a document over several lines. -/
def pretty (document : Document) : String := String.ofList (document.prettyChars 0)

end Document

end Json

end SymbolResolver
