import Mathlib.Data.List.Infix
import Mathlib.Order.Defs.Unbundled
import SymbolResolver.Proofs.DottedNames

/-!
# Beginnings and ends of dotted texts

Whether a text begins or ends with another one, segment by segment, is decided by its characters: the
other text is cut off, and what is left has to be empty or to go on with a separator. This is the same
as comparing the lists of segments (`Text.startsWithSegments_iff`, `Text.endsWithSegments_iff`),
whatever runs of separators the texts have. So containment of packages is a partial order
(`Text.contained_by_segments`).
-/

namespace SymbolResolver

namespace Text

/-! ## The tests on characters -/

theorem startsWithPieces_iff {chars stem : List Char} :
    startsWithPieces chars stem = true ↔
      stem = [] ∨ chars = stem ∨ ∃ rest, chars = stem ++ separator :: rest := by
  rw [startsWithPieces, Bool.or_eq_true, beq_iff_eq]
  refine or_congr_right ?_
  cases cut : stem.isPrefixOf? chars with
  | none =>
      have no_rest : ∀ rest, chars ≠ stem ++ rest := by
        rintro rest rfl
        rw [List.isPrefixOf?_eq_some_iff_append_eq.mpr rfl] at cut
        cases cut
      refine iff_of_false nofun ?_
      rintro (same | ⟨rest, split⟩)
      · exact no_rest [] (by rw [same, List.append_nil])
      · exact no_rest _ split
  | some rest =>
      obtain rfl := List.isPrefixOf?_eq_some_iff_append_eq.mp cut
      cases rest <;> simp

theorem endsWithPieces_iff {chars tail : List Char} :
    endsWithPieces chars tail = true ↔
      tail = [] ∨ chars = tail ∨ ∃ front, chars = front ++ separator :: tail := by
  rw [endsWithPieces, startsWithPieces_iff, List.reverse_eq_nil_iff, List.reverse_inj]
  refine or_congr_right (or_congr_right ⟨?_, ?_⟩)
  · rintro ⟨rest, split⟩
    refine ⟨rest.reverse, ?_⟩
    rw [List.reverse_eq_append_iff] at split
    simpa using split
  · rintro ⟨front, rfl⟩
    exact ⟨front.reverse, by simp⟩

/-! ## Segments at the ends -/

theorem toList_intercalate_append {front back : List String} (front_ne : front ≠ [])
    (back_ne : back ≠ []) : (".".intercalate (front ++ back)).toList =
      (".".intercalate front).toList ++ separator :: (".".intercalate back).toList := by
  rw [String.intercalate_append_of_ne_nil front_ne back_ne]
  simp [separator]

/-- The segments of a text begin with those of another one if it goes on after that with a
separator. -/
theorem segments_prefix_iff {text stem : String} : segments stem <+: segments text ↔
    stem = "" ∨ text = stem ∨ ∃ rest, text.toList = stem.toList ++ separator :: rest := by
  by_cases blank : stem = ""
  · simp [blank]
  · rw [or_iff_right blank]
    constructor
    · rintro ⟨others, split⟩
      by_cases whole : others = []
      · rw [whole, List.append_nil] at split
        exact .inl (eq_of_segments_eq split.symm)
      · right
        rw [← intercalate_segments text, ← split,
          toList_intercalate_append (segments_ne_nil blank) whole, intercalate_segments]
        exact ⟨_, rfl⟩
    · rintro (rfl | ⟨rest, split⟩)
      · exact List.prefix_rfl
      · rw [segments_of_separated split, ← segments_of_ne blank]
        exact List.prefix_append _ _

/-- The segments of a text end with those of another one if that stands in it behind a separator. -/
theorem segments_suffix_iff {text tail : String} : segments tail <:+ segments text ↔
    tail = "" ∨ text = tail ∨ ∃ front, text.toList = front ++ separator :: tail.toList := by
  by_cases blank : tail = ""
  · simp [blank]
  · rw [or_iff_right blank]
    constructor
    · rintro ⟨others, split⟩
      by_cases whole : others = []
      · rw [whole, List.nil_append] at split
        exact .inl (eq_of_segments_eq split.symm)
      · right
        rw [← intercalate_segments text, ← split,
          toList_intercalate_append whole (segments_ne_nil blank), intercalate_segments]
        exact ⟨_, rfl⟩
    · rintro (rfl | ⟨front, split⟩)
      · exact List.suffix_rfl
      · rw [segments_of_separated split, ← segments_of_ne blank]
        exact List.suffix_append _ _

/-- A text begins with another one exactly if its segments begin with those of the other one. -/
theorem startsWithSegments_iff {text stem : String} :
    startsWithSegments text stem = true ↔ segments stem <+: segments text := by
  rw [startsWithSegments, startsWithPieces_iff, segments_prefix_iff, String.toList_inj,
    String.toList_eq_nil_iff]

/-- A text ends with another one exactly if its segments end with those of the other one. -/
theorem endsWithSegments_iff {text tail : String} :
    endsWithSegments text tail = true ↔ segments tail <:+ segments text := by
  rw [endsWithSegments, endsWithPieces_iff, segments_suffix_iff, String.toList_inj,
    String.toList_eq_nil_iff]

end Text

namespace PackageName

theorem eq_of_segments {package other : PackageName} (same : package.segments = other.segments) :
    package = other := by
  rcases package with ⟨text⟩
  rcases other with ⟨_⟩
  cases Text.eq_of_segments_eq same
  rfl

theorem startsWith_iff {package outer : PackageName} :
    package.startsWith outer = true ↔ outer.segments <+: package.segments :=
  Text.startsWithSegments_iff

/-- Packages are partially ordered by containment. -/
theorem isPartialOrder_startsWith :
    IsPartialOrder PackageName fun outer package => package.startsWith outer = true where
  refl _ := startsWith_iff.mpr List.prefix_rfl
  trans _ _ _ first second :=
    startsWith_iff.mpr ((startsWith_iff.mp first).trans (startsWith_iff.mp second))
  antisymm _ _ forth back := by
    have begins := startsWith_iff.mp forth
    have shorter := (startsWith_iff.mp back).length_le
    exact eq_of_segments (begins.eq_of_length_le shorter)

end PackageName

/-- A text begins with a text exactly if its segments begin with the segments of that text, and it
ends with a text exactly if its segments end with them. Packages are partially ordered by their
beginnings. -/
theorem Text.contained_by_segments :
    (∀ text stem : String, startsWithSegments text stem = true ↔ segments stem <+: segments text) ∧
    (∀ text tail : String, endsWithSegments text tail = true ↔ segments tail <:+ segments text) ∧
    IsPartialOrder PackageName fun outer package => package.startsWith outer = true :=
  ⟨fun _ _ => startsWithSegments_iff, fun _ _ => endsWithSegments_iff,
    PackageName.isPartialOrder_startsWith⟩

/-- An empty segment stands between two separators. -/
example : Text.startsWithSegments "a..b" "a." = true ∧ Text.startsWithSegments "a.b" "a." = false ∧
    Text.endsWithSegments "a..b" ".b" = true ∧ Text.endsWithSegments "a.b" ".b" = false := by
  decide

end SymbolResolver
