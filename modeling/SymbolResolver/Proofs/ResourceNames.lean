import Mathlib.Data.List.DropRight
import SymbolResolver.Proofs.DottedNames

/-!
# Resource names

A resource name is derived from two references: a namespace root, which may or may not end in the
resource class, and a resource reference, which may or may not begin with it. Derivation succeeds
exactly if the resource reference spells a type and a name (`ResourceName.Spells`), and its result
depends on nothing but the package of the root, the type and the name (`derive_eq_ok_iff`). So both
forms of a root and both forms of a resource reference give the same declared name
(`ResourceName.derivation_normalizes`).
-/

namespace SymbolResolver

namespace Text

theorem dropEndWhile_eq_rdropWhile (drops : Char → Bool) (chars : List Char) :
    dropEndWhile drops chars = chars.rdropWhile drops := rfl

/-- The last segment of a text is what follows its last separator. -/
theorem lastSegment_separated {text : String} {front back : List Char} (single : separator ∉ back)
    (split : text.toList = front ++ separator :: back) : lastSegment text = String.ofList back := by
  have last := (cutLast_spec text.toList).2
  rw [split, pieces_separated, pieces_of_not_mem single, List.getLast?_concat,
    Option.some.injEq] at last
  rw [lastSegment, split, ← last]

theorem segments_separated {text : String} {front back : List Char} (single : separator ∉ front)
    (split : text.toList = front ++ separator :: back) :
    segments text = String.ofList front :: (pieces back).map String.ofList := by
  rw [segments_of_separated split, pieces_of_not_mem single, List.map_singleton,
    List.singleton_append]

end Text

namespace ResourceName

/-! ## The package of a root -/

/-- A root that does not name the resource class is the package itself. -/
theorem rootPackage_of_ne {root : String} (other : Text.lastSegment root ≠ namespaceClass) :
    rootPackage root = root := by
  unfold rootPackage
  split
  · rename_i rest found
    have split_eq : root.toList = rest ++ ['R'] :=
      (List.isSuffixOf?_eq_some_iff_append_eq.mp found).symm
    refine if_neg fun named => other ?_
    rcases named with rfl | separated
    · rw [Text.lastSegment, split_eq]
      rfl
    · obtain ⟨front, rfl⟩ := List.getLast?_eq_some_iff.mp separated
      rw [List.append_assoc, List.singleton_append] at split_eq
      exact Text.lastSegment_separated (by decide) split_eq
  · rfl

/-- The resource class behind a separator is taken off again. -/
theorem rootPackage_append {root : String} (open_end : root.toList.getLast? ≠ some Text.separator) :
    rootPackage (root ++ ".R") = root := by
  have found : ['R'].isSuffixOf? (root ++ ".R").toList =
      some (root.toList ++ [Text.separator]) := by
    rw [List.isSuffixOf?_eq_some_iff_append_eq]
    simp [Text.separator]
  have kept : root.toList.rdropWhile (· == Text.separator) = root.toList := by
    rw [List.rdropWhile_eq_self_iff]
    intro nonempty last
    apply open_end
    rw [List.getLast?_eq_some_getLast nonempty, eq_of_beq last]
  have dropped : Text.dropEndWhile (· == Text.separator) (root.toList ++ [Text.separator]) =
      root.toList := by
    rw [Text.dropEndWhile_eq_rdropWhile, List.rdropWhile_concat_pos _ _ _ (by simp), kept]
  simp only [rootPackage, found, List.getLast?_concat, or_true, if_true, dropped,
    String.ofList_toList]

/-! ## The parts of a resource reference -/

/-- A text spells a resource: its segments are a type and a name, after the resource class or
without it. -/
def Spells (text : String) (kind ident : SimpleName) : Prop :=
  Text.segments text = [namespaceClass, kind.text, ident.text] ∨
    Text.segments text = [kind.text, ident.text] ∧ kind.text ≠ namespaceClass

theorem resourceParts_eq_iff {text kind ident : String} :
    resourceParts text = [kind, ident] ↔
      Text.segments text = [namespaceClass, kind, ident] ∨
        Text.segments text = [kind, ident] ∧ kind ≠ namespaceClass := by
  unfold resourceParts
  cases Text.segments text with
  | nil => simp
  | cons first rest =>
      by_cases named : first = namespaceClass
      · simp only [named, if_true, List.cons.injEq, true_and]
        constructor
        · exact .inl
        · rintro (parts | ⟨⟨rfl, -⟩, different⟩)
          · exact parts
          · exact absurd rfl different
      · simp only [named, if_false, List.cons.injEq, false_and, false_or]
        constructor
        · rintro ⟨rfl, parts⟩
          exact ⟨⟨rfl, parts⟩, named⟩
        · exact And.left

theorem toList_append_class (root : String) :
    (root ++ ".R").toList = root.toList ++ Text.separator :: ['R'] := by
  simp [Text.separator]

theorem toList_class_append (resource : String) :
    ("R." ++ resource).toList = ['R'] ++ Text.separator :: resource.toList := by
  simp [Text.separator]

/-- The resource class may stand in front of a resource reference that does not name it. -/
theorem spells_append_iff {text : String} (other : (Text.segments text).head? ≠ some namespaceClass)
    {kind ident : SimpleName} : Spells ("R." ++ text) kind ident ↔ Spells text kind ident := by
  have parts_iff : Spells ("R." ++ text) kind ident ↔
      (Text.pieces text.toList).map String.ofList = [kind.text, ident.text] := by
    have segments_eq : Text.segments ("R." ++ text) =
        namespaceClass :: (Text.pieces text.toList).map String.ofList :=
      Text.segments_separated (by decide) (toList_class_append text)
    rw [Spells, segments_eq, List.cons.injEq, and_iff_right rfl, List.cons.injEq]
    refine ⟨?_, .inl⟩
    rintro (parts | ⟨⟨same, -⟩, different⟩)
    · exact parts
    · exact absurd same.symm different
  rw [parts_iff]
  by_cases blank : text = ""
  · subst blank
    simp [Spells]
  · rw [← Text.segments_of_ne blank, Spells]
    constructor
    · intro parts
      refine .inr ⟨parts, fun named => other ?_⟩
      rw [parts, List.head?_cons, named]
    · rintro (parts | ⟨parts, -⟩)
      · rw [parts] at other
        exact absurd rfl other
      · exact parts

/-! ## Derivation -/

/-- The simple name of the class that holds the resources. -/
def classSegment : SimpleName := ⟨namespaceClass, by decide⟩

/-- The name of a resource field in a package, seen by every language. -/
def fieldIn (package : PackageName) (kind ident : SimpleName) : DeclaredName where
  package := package
  names := [classSegment, kind, ident]
  languages := .all
  qualified := DeclaredName.qualify package [classSegment, kind, ident]
  names_ne_nil := List.cons_ne_nil _ _

theorem make_field (package : PackageName) (kind ident : SimpleName) :
    DeclaredName.make package [classSegment, kind, ident] .all = .ok (fieldIn package kind ident) :=
  rfl

/-- What derivation gives, and when. -/
theorem derive_eq_ok_iff {root resource : ReferenceName} {name : ResourceName} :
    derive root resource = .ok name ↔ ∃ kind ident, Spells resource.text kind ident ∧
      name = ⟨fieldIn (.ofText (rootPackage root.text)) kind ident, [root, resource]⟩ := by
  constructor
  · intro derived
    unfold derive at derived
    split at derived
    · rename_i kindText identText parts
      obtain ⟨names, names_made, rest⟩ := bind_eq_ok.mp derived
      obtain ⟨declared, made, same⟩ := bind_eq_ok.mp rest
      cases same
      have texts := SimpleName.mapM_ofText_eq_ok_iff.mp names_made
      obtain ⟨first, kind, ident, rfl⟩ : ∃ first kind ident, names = [first, kind, ident] := by
        rw [← List.length_eq_three]
        simpa using congrArg List.length texts
      simp only [List.map_cons, List.map_nil, List.cons.injEq, and_true] at texts
      obtain ⟨first_text, rfl, rfl⟩ := texts
      obtain rfl : first = classSegment := SimpleName.eq_of_text first_text
      rw [make_field] at made
      obtain rfl := Except.ok.inj made
      exact ⟨kind, ident, resourceParts_eq_iff.mp parts, rfl⟩
    · cases derived
  · rintro ⟨kind, ident, spells, rfl⟩
    have parts := resourceParts_eq_iff.mpr spells
    have names : [namespaceClass, kind.text, ident.text].mapM SimpleName.ofText =
        .ok [classSegment, kind, ident] := SimpleName.mapM_ofText_eq_ok_iff.mpr rfl
    rw [derive, parts]
    exact bind_eq_ok.mpr ⟨_, names, bind_eq_ok.mpr ⟨_, make_field _ kind ident, rfl⟩⟩

/-- The declared name that is derived, if one is. -/
def declared? (root resource : ReferenceName) : Option DeclaredName :=
  (derive root resource).toOption.map declared

theorem declared?_eq_some_iff {root resource : ReferenceName} {name : DeclaredName} :
    declared? root resource = some name ↔ ∃ kind ident, Spells resource.text kind ident ∧
      name = fieldIn (.ofText (rootPackage root.text)) kind ident := by
  have derived_iff : declared? root resource = some name ↔
      ∃ derived, derive root resource = .ok derived ∧ derived.declared = name := by
    rw [declared?]
    cases derive root resource <;> simp [Except.toOption]
  rw [derived_iff]
  constructor
  · rintro ⟨_, derived, rfl⟩
    obtain ⟨kind, ident, spells, rfl⟩ := derive_eq_ok_iff.mp derived
    exact ⟨kind, ident, spells, rfl⟩
  · rintro ⟨kind, ident, spells, rfl⟩
    exact ⟨_, derive_eq_ok_iff.mpr ⟨kind, ident, spells, rfl⟩, rfl⟩

/-- The declared name depends on the package of the root and on what the resource spells. -/
theorem declared?_congr {root other resource same : ReferenceName}
    (packages : PackageName.ofText (rootPackage root.text) = .ofText (rootPackage other.text))
    (spelled : ∀ kind ident, Spells resource.text kind ident ↔ Spells same.text kind ident) :
    declared? root resource = declared? other same := by
  apply Option.ext
  intro name
  rw [declared?_eq_some_iff, declared?_eq_some_iff, packages]
  simp only [spelled]

theorem Spells.unique {text : String} {kind ident otherKind otherIdent : SimpleName}
    (spells : Spells text kind ident) (again : Spells text otherKind otherIdent) :
    kind = otherKind ∧ ident = otherIdent := by
  have texts : kind.text = otherKind.text ∧ ident.text = otherIdent.text := by
    have parts := resourceParts_eq_iff.mpr spells
    rw [resourceParts_eq_iff.mpr again] at parts
    simpa [eq_comm] using parts
  exact ⟨SimpleName.eq_of_text texts.1, SimpleName.eq_of_text texts.2⟩

/-- A name behind the root or in front of the resource brings no blank to an end. -/
theorem trim_append_class {root : String} (trimmed : Text.trim root = root) :
    Text.trim (root ++ ".R") = root ++ ".R" := by
  rw [Text.trim_eq_iff, toList_append_class, Text.startsBlank_separated, Text.endsBlank_separated]
  exact ⟨(Text.trim_eq_iff.mp trimmed).1, by decide⟩

theorem trim_class_append {resource : String} (trimmed : Text.trim resource = resource) :
    Text.trim ("R." ++ resource) = "R." ++ resource := by
  rw [Text.trim_eq_iff, toList_class_append, Text.startsBlank_separated, Text.endsBlank_separated]
  exact ⟨by decide, (Text.trim_eq_iff.mp trimmed).2⟩

/-- Derivation succeeds exactly for a type and a name, and neither the resource class behind the
root nor the one in front of the resource makes a difference to the declared name. -/
theorem derivation_normalizes {rootText resourceText : String}
    {rootLanguage resourceLanguage : Language} {root resource : ReferenceName}
    (root_made : root = .ofText rootText rootLanguage)
    (resource_made : resource = .ofText resourceText resourceLanguage) :
    ((∃ name, derive root resource = .ok name) ↔ ∃ kind ident, Spells resource.text kind ident) ∧
    (∀ name kind ident, derive root resource = .ok name → Spells resource.text kind ident →
      name.declared.visibleFrom .java = true ∧ name.declared.visibleFrom .kotlin = true ∧
      name.declared.names.map SimpleName.text = ["R", kind.text, ident.text] ∧
      name.sources = [root, resource]) ∧
    (root.text.toList.getLast? ≠ some '.' → Text.lastSegment root.text ≠ "R" →
      (∀ name, derive root resource = .ok name → name.declared.package.text = root.text) ∧
      ∀ language, declared? (.ofText (root.text ++ ".R") language) resource =
        declared? root resource) ∧
    ((Text.segments resource.text).head? ≠ some "R" →
      ∀ language, declared? root (.ofText ("R." ++ resource.text) language) =
        declared? root resource) := by
  have root_trimmed : Text.trim root.text = root.text := by
    rw [root_made]
    exact Text.trim_trim rootText
  have resource_trimmed : Text.trim resource.text = resource.text := by
    rw [resource_made]
    exact Text.trim_trim resourceText
  refine ⟨?_, ?_, ?_, ?_⟩
  · simp only [derive_eq_ok_iff]
    constructor
    · rintro ⟨_, kind, ident, spells, -⟩
      exact ⟨kind, ident, spells⟩
    · rintro ⟨kind, ident, spells⟩
      exact ⟨_, kind, ident, spells, rfl⟩
  · intro name kind ident derived spells
    obtain ⟨_, _, spelled, rfl⟩ := derive_eq_ok_iff.mp derived
    obtain ⟨rfl, rfl⟩ := spells.unique spelled
    exact ⟨rfl, rfl, rfl, rfl⟩
  · intro open_end other
    have package_eq : rootPackage root.text = root.text := rootPackage_of_ne other
    constructor
    · intro name derived
      obtain ⟨kind, ident, -, rfl⟩ := derive_eq_ok_iff.mp derived
      rw [fieldIn, package_eq]
      exact root_trimmed
    · intro language
      apply declared?_congr _ fun _ _ => Iff.rfl
      rw [ReferenceName.ofText, trim_append_class root_trimmed, rootPackage_append open_end,
        package_eq]
  · intro other language
    apply declared?_congr rfl
    intro kind ident
    rw [ReferenceName.ofText, trim_class_append resource_trimmed]
    exact spells_append_iff other

/-- A root and a resource without the resource class, written with blanks around them. -/
theorem derivation_normalizes_title :
    (⟨"com.app", .kotlin⟩ : ReferenceName) = .ofText " com.app" .kotlin ∧
    (⟨"string.title", .java⟩ : ReferenceName) = .ofText "string.title\n" .java ∧
    Text.lastSegment "com.app" ≠ "R" ∧ (Text.segments "string.title").head? ≠ some "R" ∧
    (∃ name, derive ⟨"com.app", .kotlin⟩ ⟨"string.title", .java⟩ = .ok name ∧
      name.declared.package.text = "com.app") ∧
    declared? (.ofText "com.app.R" .java) ⟨"string.title", .java⟩ =
      declared? ⟨"com.app", .kotlin⟩ ⟨"string.title", .java⟩ ∧
    declared? ⟨"com.app", .kotlin⟩ (.ofText "R.string.title" .kotlin) =
      declared? ⟨"com.app", .kotlin⟩ ⟨"string.title", .java⟩ := by
  have root_made : (⟨"com.app", .kotlin⟩ : ReferenceName) = .ofText " com.app" .kotlin := by decide
  have resource_made : (⟨"string.title", .java⟩ : ReferenceName) =
      .ofText "string.title\n" .java := by decide
  have root_other : Text.lastSegment "com.app" ≠ "R" := by decide
  have resource_other : (Text.segments "string.title").head? ≠ some "R" := by decide
  have spells : Spells "string.title" ⟨"string", by rfl⟩ ⟨"title", by rfl⟩ :=
    .inr (by decide)
  obtain ⟨succeeds, -, root_forms, resource_forms⟩ := derivation_normalizes root_made resource_made
  obtain ⟨package, class_behind⟩ := root_forms (by decide) root_other
  obtain ⟨name, derived⟩ := succeeds.mpr ⟨_, _, spells⟩
  exact ⟨root_made, resource_made, root_other, resource_other,
    ⟨name, derived, package name derived⟩, class_behind .java,
    resource_forms resource_other .kotlin⟩

end ResourceName

end SymbolResolver
