import Mathlib.Logic.Function.Iterate
import SymbolResolver.Proofs.DeclaredNames
import SymbolResolver.Proofs.SegmentContainment

/-!
# Enclosing names

A simple name is added to a package, to a declared name or to a reference, and taken off again by
going to what encloses the result. The three do so in their own ways: packages and references cut
their text at its last separator, a declared name drops its last simple name and puts its text together
anew. Each undoes what was added (`enclosing_undoes_nesting`), and what encloses a name has a shorter
text, so going outwards ends (`hasOutermost_of_size`).
-/

namespace SymbolResolver

namespace Text

/-! ## Adding one segment -/

variable {stem part : String}

/-- A segment without separators is added behind the segments of a text. -/
theorem segments_append_part (nonempty : part ≠ "") (single : separator ∉ part.toList) :
    segments (appendSegments stem [part]) = segments stem ++ [part] := by
  rw [appendSegments_singleton]
  by_cases blank : stem = ""
  · have alone : joined "" [part] = part := by simp [joined]
    rw [blank, alone, segments_empty, List.nil_append, segments_of_not_mem nonempty single]
  · exact segments_joined blank (by simpa using single)

theorem toList_append_part (nonempty : stem ≠ "") :
    (appendSegments stem [part]).toList = stem.toList ++ separator :: part.toList := by
  have chars_ne : stem.toList ≠ [] := by simpa using nonempty
  rw [toList_appendSegments, List.map_singleton, appendPieces_cons, appendPieces_nil, appendPiece,
    if_neg chars_ne]

/-- A text without separators is not cut. -/
theorem beforeLast?_of_not_mem (single : separator ∉ part.toList) : beforeLast? part = none := by
  have uncut : (cutLast part.toList).1 = none :=
    (cutLast_spec part.toList).1.mpr (by rw [pieces_of_not_mem single, List.tail_cons])
  rw [beforeLast?, uncut, Option.map_none]

/-- What stands before an added segment is the text that it was added to. -/
theorem beforeLast?_append_part (nonempty : stem ≠ "") (single : separator ∉ part.toList) :
    beforeLast? (appendSegments stem [part]) = some stem := by
  obtain ⟨uncut, last⟩ := cutLast_spec (stem.toList ++ separator :: part.toList)
  rw [pieces_separated, pieces_of_not_mem single] at uncut last
  have cuts : (cutLast (stem.toList ++ separator :: part.toList)).1 ≠ none := by
    rw [ne_eq, uncut]
    obtain ⟨first, rest, split⟩ := List.exists_cons_of_ne_nil (pieces_ne_nil stem.toList)
    simp [split]
  obtain ⟨front, cut⟩ := Option.ne_none_iff_exists'.mp cuts
  have split := cutLast_eq cut
  rw [List.getLast?_concat, Option.some.injEq] at last
  rw [← last, List.append_cancel_right_eq] at split
  rw [beforeLast?, toList_append_part nonempty, cut, ← split, Option.map_some, String.ofList_toList]

/-- What stands before the last separator is shorter than the text. -/
theorem length_beforeLast?_lt {text : String} (cut : beforeLast? text = some stem) :
    stem.length < text.length := by
  obtain ⟨chars, cut_chars, rfl⟩ := Option.map_eq_some_iff.mp cut
  rw [← String.length_toList, ← String.length_toList (s := text), cutLast_eq cut_chars,
    String.toList_ofList, List.length_append, List.length_cons]
  omega

end Text

/-! ## Going outwards -/

/-- Going from a value to what is around it, again and again, comes to an end. -/
def HasOutermost {α : Type} (around? : α → Option α) : Prop :=
  ∀ value, ∃ count, (fun reached => reached.bind around?)^[count] (some value) = none

/-- Where everything is smaller than what it is around, going outwards ends. -/
theorem hasOutermost_of_size {α : Type} {around? : α → Option α} (size : α → Nat)
    (shrinks : ∀ value outer, around? value = some outer → size outer < size value) :
    HasOutermost around? := by
  intro value
  induction bound : size value using Nat.strong_induction_on generalizing value with
  | _ _ ih =>
      subst bound
      cases step : around? value with
      | none => exact ⟨1, step⟩
      | some outer =>
          obtain ⟨count, ended⟩ := ih (size outer) (shrinks value outer step) outer rfl
          refine ⟨count + 1, ?_⟩
          rw [Function.iterate_succ_apply, Option.bind_some, step]
          exact ended

/-! ## Packages -/

namespace PackageName

variable {package outer : PackageName}

theorem segments_child (package : PackageName) (name : SimpleName) :
    (package.child name).segments = package.segments ++ [name.text] :=
  Text.segments_append_part name.text_ne_empty name.shape.1

theorem startsWith_child (package : PackageName) (name : SimpleName) :
    (package.child name).startsWith package = true := by
  rw [startsWith_iff, segments_child]
  exact List.prefix_append _ _

theorem parent?_child (package : PackageName) (name : SimpleName) :
    (package.child name).parent? = some package := by
  rcases package with ⟨text⟩
  have child_ne : (child ⟨text⟩ name).text ≠ "" := by
    intro blank
    have none_left := segments_child ⟨text⟩ name
    rw [segments, blank, Text.segments_empty] at none_left
    simp at none_left
  rw [parent?_eq, if_neg child_ne]
  by_cases unnamed : text = ""
  · subst unnamed
    have alone : (child ⟨""⟩ name).text = name.text := by
      simp [child, append, Text.appendSegments, Text.appendPiece]
    rw [alone, Text.beforeLast?_of_not_mem name.shape.1, Option.getD_none]
  · rw [child, append, Text.beforeLast?_append_part unnamed name.shape.1, Option.getD_some]

theorem length_parent?_lt (encloses : package.parent? = some outer) :
    outer.text.length < package.text.length := by
  rw [parent?_eq] at encloses
  split at encloses
  · cases encloses
  · rename_i named
    cases encloses
    cases cut : Text.beforeLast? package.text with
    | none => simpa [Nat.pos_iff_ne_zero] using named
    | some stem => exact Text.length_beforeLast?_lt cut

end PackageName

/-! ## Declared names -/

namespace DeclaredName

variable {declared outer : DeclaredName}

theorem parent?_append (coherent : declared.Coherent) (name : SimpleName) :
    (declared.append name).parent? = some declared := by
  rw [parent?_eq_some_iff, make_eq_ok_iff]
  have names_pos := List.length_pos_of_ne_nil declared.names_ne_nil
  refine ⟨?_, coherent, rfl, ?_, rfl⟩
  · rw [append, List.length_append, List.length_singleton]
    omega
  · rw [append, List.dropLast_concat]

theorem shortName_append (declared : DeclaredName) (name : SimpleName) :
    (declared.append name).shortName = name :=
  List.getLast_concat

theorem startsWith_append (declared : DeclaredName) (name : SimpleName) :
    (declared.append name).startsWith declared.qualified = true := by
  rw [startsWith, Text.startsWithSegments_iff, append,
    Text.segments_append_part name.text_ne_empty name.shape.1]
  exact List.prefix_append _ _

theorem length_names_parent?_lt (encloses : declared.parent? = some outer) :
    outer.names.length < declared.names.length := by
  obtain ⟨nested, made⟩ := parent?_eq_some_iff.mp encloses
  rw [(make_eq_ok_iff.mp made).2.2.1, List.length_dropLast]
  omega

/-- What a declaration is nested in has a shorter text. -/
theorem length_qualified_parent?_lt (coherent : declared.Coherent)
    (encloses : declared.parent? = some outer) :
    outer.qualified.length < declared.qualified.length := by
  obtain ⟨-, made⟩ := parent?_eq_some_iff.mp encloses
  obtain ⟨outer_coherent, package_eq, names_eq, -⟩ := make_eq_ok_iff.mp made
  have outer_text : outer.qualified = qualify declared.package declared.names.dropLast := by
    rw [outer_coherent.qualified, package_eq, names_eq]
  have outer_ne : outer.qualified ≠ "" := by
    rw [outer_coherent.qualified]
    exact qualify_ne_empty outer.package outer.names_ne_nil
  have text : declared.qualified =
      Text.appendSegments outer.qualified [declared.shortName.text] := by
    rw [coherent.qualified, outer_text, ← qualify_concat, shortName, List.dropLast_concat_getLast]
  exact Text.length_beforeLast?_lt
    (text ▸ Text.beforeLast?_append_part outer_ne declared.shortName.shape.1)

end DeclaredName

/-! ## References -/

namespace ReferenceName

variable {reference outer : ReferenceName}

theorem parent?_append (nonempty : reference.text ≠ "") (name : SimpleName) :
    (reference.append name).parent? = some reference := by
  rw [parent?, append, Text.beforeLast?_append_part nonempty name.shape.1, Option.map_some]

theorem endsWith_append (reference : ReferenceName) (name : SimpleName) :
    (reference.append name).endsWith name.text = true := by
  rw [endsWith, Text.endsWithSegments_iff, append,
    Text.segments_append_part name.text_ne_empty name.shape.1,
    Text.segments_of_not_mem name.text_ne_empty name.shape.1]
  exact List.suffix_append _ _

theorem shortName_append (reference : ReferenceName) (name : SimpleName) :
    (reference.append name).shortName = name.text := by
  rw [shortName, Text.lastSegment_eq, append,
    Text.segments_append_part name.text_ne_empty name.shape.1, List.getLast?_concat,
    Option.getD_some]

/-- Added to a reference without text, a simple name is all there is. -/
theorem append_of_empty (blank : reference.text = "") (name : SimpleName) :
    (reference.append name).text = name.text ∧ (reference.append name).parent? = none := by
  have text : (reference.append name).text = name.text := by
    simp [append, blank, Text.appendSegments, Text.appendPiece]
  refine ⟨text, ?_⟩
  rw [parent?, text, Text.beforeLast?_of_not_mem name.shape.1, Option.map_none]

theorem length_parent?_lt (encloses : reference.parent? = some outer) :
    outer.text.length < reference.text.length := by
  obtain ⟨stem, cut, rfl⟩ := Option.map_eq_some_iff.mp encloses
  exact Text.length_beforeLast?_lt cut

end ReferenceName

/-- A simple name that is added to a package, to a declared name that can be obtained or to a reference
with a text is the last part of the result, and what encloses the result is what it was added to.
Added to a reference without text, it stands alone. Whatever encloses a name is shorter, so going
outwards ends. -/
theorem enclosing_undoes_nesting (name : SimpleName) :
    (∀ package : PackageName, (package.child name).parent? = some package ∧
      (package.child name).segments = package.segments ++ [name.text] ∧
      (package.child name).startsWith package = true) ∧
    (∀ declared : DeclaredName, declared.Obtainable →
      (declared.append name).parent? = some declared ∧
      (declared.append name).shortName = name ∧
      (declared.append name).startsWith declared.qualified = true) ∧
    (∀ reference : ReferenceName, reference.text ≠ "" →
      (reference.append name).parent? = some reference ∧
      (reference.append name).shortName = name.text ∧
      (reference.append name).endsWith name.text = true) ∧
    (∀ reference : ReferenceName, reference.text = "" →
      (reference.append name).text = name.text ∧ (reference.append name).parent? = none) ∧
    (∀ package outer : PackageName, package.parent? = some outer →
      outer.text.length < package.text.length) ∧
    (∀ declared outer : DeclaredName, declared.Obtainable → declared.parent? = some outer →
      outer.names.length < declared.names.length ∧
      outer.qualified.length < declared.qualified.length) ∧
    (∀ reference outer : ReferenceName, reference.parent? = some outer →
      outer.text.length < reference.text.length) ∧
    HasOutermost PackageName.parent? ∧ HasOutermost DeclaredName.parent? ∧
      HasOutermost ReferenceName.parent? := by
  refine ⟨fun package => ?_, fun declared obtained => ?_, fun reference nonempty => ?_,
    fun reference blank => ReferenceName.append_of_empty blank name,
    fun _ _ => PackageName.length_parent?_lt, fun declared outer obtained encloses => ?_,
    fun _ _ => ReferenceName.length_parent?_lt, ?_, ?_, ?_⟩
  · exact ⟨package.parent?_child name, package.segments_child name, package.startsWith_child name⟩
  · exact ⟨DeclaredName.parent?_append obtained.coherent name, declared.shortName_append name,
      declared.startsWith_append name⟩
  · exact ⟨ReferenceName.parent?_append nonempty name, reference.shortName_append name,
      reference.endsWith_append name⟩
  · exact ⟨DeclaredName.length_names_parent?_lt encloses,
      DeclaredName.length_qualified_parent?_lt obtained.coherent encloses⟩
  · exact hasOutermost_of_size (·.text.length) fun _ _ => PackageName.length_parent?_lt
  · exact hasOutermost_of_size (·.names.length) fun _ _ => DeclaredName.length_names_parent?_lt
  · exact hasOutermost_of_size (·.text.length) fun _ _ => ReferenceName.length_parent?_lt

/-- An escaped identifier in a package that ends with a separator, in a nested declaration, and behind
references with a text and without one. -/
theorem enclosing_undoes_nesting_escaped :
    ∃ (name : SimpleName) (declared : DeclaredName), name.text = "`a b`" ∧
      DeclaredName.parse "com" "Outer.Inner" .all = .ok declared ∧
      (PackageName.child ⟨"com."⟩ name).parent? = some ⟨"com."⟩ ∧
      (declared.append name).parent? = some declared ∧
      (∃ outer, declared.parent? = some outer ∧
        outer.qualified.length < declared.qualified.length) ∧
      ((⟨"x.y", .java⟩ : ReferenceName).append name).parent? = some ⟨"x.y", .java⟩ ∧
      ((⟨"", .java⟩ : ReferenceName).append name).parent? = none ∧
      (∃ outer, (⟨"x.y", .java⟩ : ReferenceName).parent? = some outer ∧
        outer.text.length < "x.y".length) ∧
      ∃ outer, (⟨"com.app"⟩ : PackageName).parent? = some outer ∧
        outer.text.length < "com.app".length := by
  obtain ⟨declared, parsed⟩ : ∃ declared,
      DeclaredName.parse "com" "Outer.Inner" .all = .ok declared := ⟨_, rfl⟩
  have obtained : declared.Obtainable := .parse parsed
  obtain ⟨coherent, -, names_eq, -⟩ := DeclaredName.parse_eq_ok_iff.mp parsed
  have nested : 2 ≤ declared.names.length := by
    have count := congrArg List.length names_eq
    rw [List.length_map] at count
    rw [count]
    decide
  obtain ⟨outer, encloses⟩ :=
    DeclaredName.exists_parent?_iff.mpr ⟨nested, coherent.visible⟩
  obtain ⟨packages, declarations, references, unnamed, shorter_packages, shorter_declarations,
    shorter_references, -⟩ := enclosing_undoes_nesting ⟨"`a b`", by rfl⟩
  exact ⟨⟨"`a b`", by rfl⟩, declared, rfl, parsed, (packages ⟨"com."⟩).1,
    (declarations declared obtained).1,
    ⟨outer, encloses, (shorter_declarations declared outer obtained encloses).2⟩,
    (references ⟨"x.y", .java⟩ (by decide)).1, (unnamed ⟨"", .java⟩ rfl).2,
    ⟨⟨"x", .java⟩, by rfl, shorter_references ⟨"x.y", .java⟩ _ (by rfl)⟩,
    ⟨⟨"com"⟩, by rfl, shorter_packages ⟨"com.app"⟩ _ (by rfl)⟩⟩

end SymbolResolver
