import SymbolResolver.Proofs.EnclosingNames

/-!
# Blanks in package names

A package that is made or read has no blanks around its text. The package that encloses another one
is cut out of a text, though, and may end with a blank. What every step keeps is that no blank stands
at the beginning, and no step keeps more: every such text belongs to a package that can be obtained
(`PackageName.obtainable_iff`). So only the default package has a blank text
(`PackageName.default_iff_blank`).
-/

namespace SymbolResolver

namespace Text

theorem startsBlank_eq_false_iff {text : String} :
    startsBlank text.toList = false ↔
      text = "" ∨ ∃ first rest, text.toList = first :: rest ∧ isBlank first = false := by
  rw [← String.toList_eq_nil_iff]
  cases text.toList with
  | nil => simp [startsBlank]
  | cons first rest => simp [startsBlank]

/-- Trimming leaves nothing exactly of the texts that hold nothing but blanks. -/
theorem trim_eq_empty_iff {text : String} :
    trim text = "" ↔ ∀ char ∈ text.toList, isBlank char = true := by
  rw [← String.toList_eq_nil_iff, toList_trim, trimChars, dropEndWhile, List.reverse_eq_nil_iff,
    List.dropWhile_eq_nil_iff]
  constructor
  · intro blank
    -- What the front leaves does not begin with a blank, so it is empty.
    have solid := startsBlank_dropWhile text.toList
    cases left : text.toList.dropWhile isBlank with
    | nil => exact List.dropWhile_eq_nil_iff.mp left
    | cons first rest =>
        have first_blank : isBlank first = true := blank first (by simp [left])
        rw [left, startsBlank, List.head?_cons, Option.any_some, first_blank] at solid
        cases solid
  · intro blank char member
    exact blank char ((List.dropWhile_sublist _).subset (List.mem_reverse.mp member))

end Text

namespace PackageName

variable {package : PackageName}

/-- The texts of the packages that can be obtained are those that do not begin with a blank. Each is
left over when the last segment is taken from a text without blanks around it. -/
theorem obtainable_iff : package.Obtainable ↔ Text.startsBlank package.text.toList = false := by
  constructor
  · exact Obtainable.startsBlank
  · intro solid
    obtain ⟨name⟩ : Nonempty SimpleName := ⟨⟨"x", by rfl⟩⟩
    have trimmed : Text.trim (package.child name).text = (package.child name).text :=
      Text.trim_appendSegments solid name.tidy_text.trim_eq
    have made : package.child name = ofText? (some (package.child name).text) :=
      congrArg PackageName.mk trimmed.symm
    have inner_obtained : (package.child name).Obtainable := by
      rw [made]
      exact .ofText? _
    exact .parent inner_obtained (parent?_child package name)

theorem isDefault_iff : package.isDefault = true ↔ package.text = "" := by
  rw [isDefault, beq_iff_eq]

/-- A text that holds nothing but blanks and does not begin with one is empty. -/
theorem isDefault_iff_trim (solid : Text.startsBlank package.text.toList = false) :
    package.isDefault = true ↔ Text.trim package.text = "" := by
  rw [isDefault_iff]
  constructor
  · intro unnamed
    rw [unnamed]
    rfl
  · intro blank
    rcases Text.startsBlank_eq_false_iff.mp solid with unnamed | ⟨first, rest, begins, solid_first⟩
    · exact unnamed
    · have first_blank := Text.trim_eq_empty_iff.mp blank first (by simp [begins])
      rw [solid_first] at first_blank
      cases first_blank

/-- The text of a package that can be obtained is empty or begins with a character that is not a
blank, and every such text is the text of one. So such a package is the default package exactly if
nothing is left of its text without the blanks, that is, if it holds nothing but blanks. -/
theorem default_iff_blank (package : PackageName) :
    (package.Obtainable ↔ package.text = "" ∨
      ∃ first rest, package.text.toList = first :: rest ∧ Text.isBlank first = false) ∧
    (package.Obtainable →
      (package.isDefault = true ↔ Text.trim package.text = "") ∧
      (package.isDefault = true ↔ ∀ char ∈ package.text.toList, Text.isBlank char = true)) := by
  rw [← Text.startsBlank_eq_false_iff, ← Text.trim_eq_empty_iff]
  refine ⟨obtainable_iff, fun obtained => ?_⟩
  have blank_iff := isDefault_iff_trim (obtainable_iff.mp obtained)
  exact ⟨blank_iff, blank_iff⟩

/-- A package that ends with a blank, since it is cut out of another text, and a text that begins
with one, which no package has. -/
theorem default_iff_blank_cut :
    ∃ package, (ofText " a .b").parent? = some package ∧ package.text = "a " ∧
      package.Obtainable ∧ package.isDefault = false ∧ Text.trim package.text ≠ "" ∧
      ¬ Obtainable ⟨" a"⟩ := by
  have encloses : (ofText " a .b").parent? = some ⟨"a "⟩ := by rfl
  have obtained : Obtainable ⟨"a "⟩ := .parent (.ofText? (some " a .b")) encloses
  have named : isDefault ⟨"a "⟩ = false := by decide
  obtain ⟨-, blank_iff⟩ := default_iff_blank ⟨"a "⟩
  have not_blank : Text.trim "a " ≠ "" := by
    rw [ne_eq, ← (blank_iff obtained).1, named]
    exact Bool.false_ne_true
  have unobtainable : ¬ Obtainable ⟨" a"⟩ := by
    rw [(default_iff_blank ⟨" a"⟩).1]
    rintro (empty | ⟨first, rest, begins, solid⟩)
    · exact absurd empty (by decide)
    · cases begins
      exact absurd solid (by decide)
  exact ⟨⟨"a "⟩, encloses, rfl, obtained, named, not_blank, unobtainable⟩

end PackageName

end SymbolResolver
