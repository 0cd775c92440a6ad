import SymbolResolver.Text.CodeRange

/-!
# Blank characters

The characters with the Unicode property `White_Space`, and the removal of blanks around a text.
-/

namespace SymbolResolver

namespace Text

/-- The blank code points, in increasing order. -/
def blankRanges : List CodeRange :=
  [(0x9, 0xD), (0x20, 0x20), (0x85, 0x85), (0xA0, 0xA0), (0x1680, 0x1680), (0x2000, 0x200A),
   (0x2028, 0x2029), (0x202F, 0x202F), (0x205F, 0x205F), (0x3000, 0x3000)]

/-- A character that only separates others. -/
def isBlank (char : Char) : Bool :=
  covered blankRanges char.toNat

/-- Drops the longest run of characters with a property from the end. -/
def dropEndWhile (drops : Char → Bool) (chars : List Char) : List Char :=
  (chars.reverse.dropWhile drops).reverse

/-- Drops the blanks at both ends. -/
def trimChars (chars : List Char) : List Char :=
  dropEndWhile isBlank (chars.dropWhile isBlank)

/-- A text without the blanks around it. -/
def trim (text : String) : String :=
  String.ofList (trimChars text.toList)

@[simp] theorem toList_trim (text : String) : (trim text).toList = trimChars text.toList := by
  simp [trim]

theorem dropWhile_dropWhile (drops : Char → Bool) (chars : List Char) :
    (chars.dropWhile drops).dropWhile drops = chars.dropWhile drops := by
  induction chars with
  | nil => rfl
  | cons char chars ih => by_cases dropped : drops char <;> simp [List.dropWhile, dropped, ih]

/-- Dropping from the end keeps a beginning that nothing is dropped from. -/
theorem dropWhile_dropEndWhile {drops : Char → Bool} {chars : List Char}
    (kept : chars.dropWhile drops = chars) :
    (dropEndWhile drops chars).dropWhile drops = dropEndWhile drops chars := by
  cases chars with
  | nil => rfl
  | cons char chars =>
      have char_kept : drops char = false := by
        cases dropped : drops char with
        | false => rfl
        | true =>
            have shorter := (List.dropWhile_sublist drops (l := chars)).length_le
            rw [List.dropWhile_cons_of_pos dropped] at kept
            rw [kept, List.length_cons] at shorter
            exact absurd shorter (Nat.not_succ_le_self _)
      have beginning : ∃ rest, dropEndWhile drops (char :: chars) = char :: rest := by
        simp only [dropEndWhile, List.reverse_cons, List.dropWhile_append]
        split <;> simp [List.dropWhile, char_kept]
      obtain ⟨rest, begins⟩ := beginning
      rw [begins, List.dropWhile_cons_of_neg (by simp [char_kept])]

@[simp] theorem trimChars_trimChars (chars : List Char) :
    trimChars (trimChars chars) = trimChars chars := by
  rw [trimChars, trimChars, dropWhile_dropEndWhile (dropWhile_dropWhile isBlank chars)]
  simp [dropEndWhile, dropWhile_dropWhile]

@[simp] theorem trim_trim (text : String) : trim (trim text) = trim text := by
  rw [trim, toList_trim, trimChars_trimChars, trim]

end Text

end SymbolResolver
