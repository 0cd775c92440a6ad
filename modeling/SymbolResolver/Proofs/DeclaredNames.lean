import Mathlib.Data.Set.List
import SymbolResolver.Proofs.NameEquality
import SymbolResolver.Proofs.ResourceNames

/-!
# Declared names and their parts

A declared name keeps its qualified text beside its parts. Some steps build the text anew and others
add to the one that is there, and all of them agree: every declared name that can be obtained has a
language that sees it, and its qualified text is that of its parts (`DeclaredName.Coherent`). So its
segments are those of its package followed by its simple names, and reading dotted simple names is
the inverse of writing them (`DeclaredName.representation_kept`).

No package that can be obtained begins with a blank, although one that encloses another may end with
one. The qualified text of a declaration ends with an identifier, so nothing is trimmed when a
reference is made of it, and the reference denotes the declaration
(`DeclaredName.own_reference_denotes`).
-/

namespace SymbolResolver

/-! ## Packages -/

namespace PackageName

/-- Packages that can be made, taken from others or read. -/
inductive Obtainable : PackageName → Prop
  | ofText? (text : Option String) : Obtainable (ofText? text)
  | ofSegments (names : List SimpleName) : Obtainable (ofSegments names)
  | child {package : PackageName} (obtained : Obtainable package) (name : SimpleName) :
      Obtainable (package.child name)
  | parent {package outer : PackageName} (obtained : Obtainable package)
      (encloses : package.parent? = some outer) : Obtainable outer
  | read {document : Json.Document} {package : PackageName} (found : read document = .ok package) :
      Obtainable package

theorem startsBlank_of_trim {package : PackageName} (trimmed : Text.trim package.text = package.text) :
    Text.startsBlank package.text.toList = false :=
  (Text.trim_eq_iff.mp trimmed).1

theorem startsBlank_parent? {package outer : PackageName}
    (solid : Text.startsBlank package.text.toList = false)
    (encloses : package.parent? = some outer) :
    Text.startsBlank outer.text.toList = false := by
  rw [parent?_eq] at encloses
  split at encloses
  · cases encloses
  · cases encloses
    cases cut : Text.beforeLast? package.text with
    | none => rfl
    | some stem =>
        -- What stands before the last separator is the front of the text.
        obtain ⟨chars, cut_chars, rfl⟩ := Option.map_eq_some_iff.mp cut
        rw [Text.cutLast_eq cut_chars, Text.startsBlank_separated] at solid
        rwa [Option.getD_some, String.toList_ofList]

/-- A package never begins with a blank. -/
theorem Obtainable.startsBlank {package : PackageName} (obtained : package.Obtainable) :
    Text.startsBlank package.text.toList = false := by
  induction obtained with
  | ofText? text => exact startsBlank_of_trim (survives_iff.mp (survives_ofText? text))
  | ofSegments names => exact startsBlank_of_trim (tidy_ofSegments names).trim_eq
  | child _ name ih => exact startsBlank_of_trim (Text.trim_appendSegments ih name.tidy_text.trim_eq)
  | parent _ encloses ih => exact startsBlank_parent? ih encloses
  | read found => exact startsBlank_of_trim (trim_of_read found)

end PackageName

namespace DeclaredName

/-! ## Coherent names -/

/-- Some language sees the declaration, and its qualified text is that of its parts. -/
structure Coherent (declared : DeclaredName) : Prop where
  visible : declared.languages.isEmpty = false
  qualified : declared.qualified = qualify declared.package declared.names

/-- A name can be put together exactly if it has a simple name and a language, and then it has the
given parts. -/
theorem make_eq_ok_iff {package : PackageName} {names : List SimpleName} {languages : LanguageSet}
    {declared : DeclaredName} : make package names languages = .ok declared ↔
      declared.Coherent ∧ declared.package = package ∧ declared.names = names ∧
        declared.languages = languages := by
  constructor
  · intro made
    obtain ⟨visible, qualified, rfl, rfl, rfl⟩ := parts_of_make made
    exact ⟨⟨visible, qualified⟩, rfl, rfl, rfl⟩
  · rintro ⟨coherent, rfl, rfl, rfl⟩
    rw [make, dif_neg declared.names_ne_nil, if_neg (by simp [coherent.visible]),
      ← coherent.qualified]

theorem exists_make (package : PackageName) {names : List SimpleName} (nonempty : names ≠ [])
    {languages : LanguageSet} (seen : languages.isEmpty = false) :
    ∃ declared, make package names languages = .ok declared :=
  ⟨⟨package, names, languages, qualify package names, nonempty⟩,
    make_eq_ok_iff.mpr ⟨⟨seen, rfl⟩, rfl, rfl, rfl⟩⟩

theorem coherent_of_make {package : PackageName} {names : List SimpleName} {languages : LanguageSet}
    {declared : DeclaredName} (made : make package names languages = .ok declared) :
    declared.Coherent :=
  (make_eq_ok_iff.mp made).1

theorem coherent_append {declared : DeclaredName} (coherent : declared.Coherent)
    (name : SimpleName) : (declared.append name).Coherent where
  visible := coherent.visible
  qualified := by
    rw [append, coherent.qualified]
    exact (qualify_concat declared.package declared.names name).symm

theorem parent?_eq_some_iff {declared outer : DeclaredName} :
    declared.parent? = some outer ↔ 2 ≤ declared.names.length ∧
      make declared.package declared.names.dropLast declared.languages = .ok outer := by
  unfold parent?
  split
  · simp; omega
  · rename_i long
    rw [and_iff_right (by omega)]
    cases make declared.package declared.names.dropLast declared.languages <;>
      simp [Except.toOption]

/-- Exactly a nested name that some language sees has an enclosing one. -/
theorem exists_parent?_iff {declared : DeclaredName} :
    (∃ outer, declared.parent? = some outer) ↔
      2 ≤ declared.names.length ∧ declared.languages.isEmpty = false := by
  simp only [parent?_eq_some_iff]
  constructor
  · rintro ⟨outer, nested, made⟩
    obtain ⟨coherent, -, -, languages_eq⟩ := make_eq_ok_iff.mp made
    exact ⟨nested, languages_eq ▸ coherent.visible⟩
  · rintro ⟨nested, seen⟩
    have outer_ne : declared.names.dropLast ≠ [] := by
      rw [ne_eq, ← List.length_eq_zero_iff, List.length_dropLast]
      omega
    obtain ⟨outer, made⟩ := exists_make declared.package outer_ne seen
    exact ⟨outer, nested, made⟩

/-- Reading gives the name whose simple names are the segments of the text. -/
theorem parse_eq_ok_iff {package names : String} {languages : LanguageSet}
    {declared : DeclaredName} : parse package names languages = .ok declared ↔
      declared.Coherent ∧ declared.package = .ofText package ∧
        declared.names.map SimpleName.text = Text.segments names ∧
        declared.languages = languages := by
  constructor
  · intro parsed
    obtain ⟨simple, read, made⟩ := bind_eq_ok.mp parsed
    obtain ⟨coherent, package_eq, rfl, languages_eq⟩ := make_eq_ok_iff.mp made
    exact ⟨coherent, package_eq, SimpleName.mapM_ofText_eq_ok_iff.mp read, languages_eq⟩
  · rintro ⟨coherent, package_eq, names_eq, languages_eq⟩
    exact bind_eq_ok.mpr ⟨declared.names, SimpleName.mapM_ofText_eq_ok_iff.mpr names_eq,
      make_eq_ok_iff.mpr ⟨coherent, package_eq, rfl, languages_eq⟩⟩

end DeclaredName

namespace AccessorName

theorem derive_of_owner_none {property : DeclaredName} (unowned : property.parent? = none)
    (kind : AccessorKind) : derive property kind = .error (.noOwner property.qualified) := by
  rw [derive, unowned]

theorem derive_of_escaped {property owner : DeclaredName}
    (encloses : property.parent? = some owner) (escaped : property.shortName.isEscaped = true)
    (kind : AccessorKind) :
    derive property kind = .error (.escapedProperty property.shortName.text) := by
  simp only [derive, encloses, escaped, if_true]

theorem derive_of_plain {property owner : DeclaredName} (encloses : property.parent? = some owner)
    (plain : property.shortName.isEscaped = false) (kind : AccessorKind) :
    derive property kind = do
      let name ← SimpleName.ofText (String.ofList (identifier property.shortName.text.toList kind))
      let declared ← (owner.append name).withLanguages (.singleton .java)
      return ⟨declared, kind, [.ofText property.qualified .kotlin]⟩ := by
  simp only [derive, encloses, plain, Bool.false_eq_true, if_false]

/-- An accessor is nested in the owner of its property, and only Java sees it. -/
theorem derive_eq_ok_iff {property : DeclaredName} {kind : AccessorKind} {accessor : AccessorName} :
    derive property kind = .ok accessor ↔
      ∃ owner name, property.parent? = some owner ∧ property.shortName.isEscaped = false ∧
        name.text = String.ofList (identifier property.shortName.text.toList kind) ∧
        (owner.append name).withLanguages (.singleton .java) = .ok accessor.declared ∧
        accessor.kind = kind ∧ accessor.sources = [.ofText property.qualified .kotlin] := by
  constructor
  · intro derived
    cases encloses : property.parent? with
    | none =>
        rw [derive_of_owner_none encloses] at derived
        cases derived
    | some owner =>
        cases plain : property.shortName.isEscaped with
        | true =>
            rw [derive_of_escaped encloses plain] at derived
            cases derived
        | false =>
            rw [derive_of_plain encloses plain] at derived
            obtain ⟨name, named, rest⟩ := bind_eq_ok.mp derived
            obtain ⟨declared, made, same⟩ := bind_eq_ok.mp rest
            cases same
            exact ⟨owner, name, rfl, rfl, SimpleName.ofText_eq_ok_iff.mp named, made, rfl, rfl⟩
  · rintro ⟨owner, name, encloses, plain, named, made, rfl, sources⟩
    rw [derive_of_plain encloses plain]
    refine bind_eq_ok.mpr ⟨name, SimpleName.ofText_eq_ok_iff.mpr named,
      bind_eq_ok.mpr ⟨accessor.declared, made, ?_⟩⟩
    rw [← sources]
    rfl

end AccessorName

namespace DeclaredName

/-! ## Every way to a declared name -/

/-- Declared names that can be made, taken from others, read or derived. -/
inductive Obtainable : DeclaredName → Prop
  | make {package : PackageName} {names : List SimpleName} {languages : LanguageSet}
      {declared : DeclaredName} (made : make package names languages = .ok declared) :
      Obtainable declared
  | parse {package names : String} {languages : LanguageSet} {declared : DeclaredName}
      (parsed : parse package names languages = .ok declared) : Obtainable declared
  | append {declared : DeclaredName} (obtained : Obtainable declared) (name : SimpleName) :
      Obtainable (declared.append name)
  | parent {declared outer : DeclaredName} (obtained : Obtainable declared)
      (encloses : declared.parent? = some outer) : Obtainable outer
  | withLanguages {declared other : DeclaredName} {languages : LanguageSet}
      (obtained : Obtainable declared) (changed : declared.withLanguages languages = .ok other) :
      Obtainable other
  | read {document : Json.Document} {declared : DeclaredName}
      (found : read document = .ok declared) : Obtainable declared
  | resource {root reference : ReferenceName} {resource : ResourceName}
      (derived : ResourceName.derive root reference = .ok resource) : Obtainable resource.declared
  | accessor {property : DeclaredName} {kind : AccessorKind} {accessor : AccessorName}
      (obtained : Obtainable property) (derived : AccessorName.derive property kind = .ok accessor) :
      Obtainable accessor.declared

/-- Whatever was done to obtain a name, its parts agree with its text. -/
theorem Obtainable.coherent {declared : DeclaredName} (obtained : declared.Obtainable) :
    declared.Coherent := by
  induction obtained with
  | make made => exact coherent_of_make made
  | parse parsed => exact (parse_eq_ok_iff.mp parsed).1
  | append _ name ih => exact coherent_append ih name
  | parent _ encloses _ => exact coherent_of_make (parent?_eq_some_iff.mp encloses).2
  | withLanguages _ changed _ => exact coherent_of_make changed
  | read found => exact coherent_of_make (returns_of_read found).2
  | resource derived =>
      obtain ⟨kind, ident, -, rfl⟩ := ResourceName.derive_eq_ok_iff.mp derived
      exact ⟨rfl, rfl⟩
  | accessor _ derived _ =>
      obtain ⟨owner, name, -, -, -, made, -, -⟩ := AccessorName.derive_eq_ok_iff.mp derived
      exact coherent_of_make made

theorem Coherent.segments_eq {declared : DeclaredName} (coherent : declared.Coherent) :
    declared.segments = declared.package.segments ++ declared.names.map SimpleName.text := by
  rw [segments, coherent.qualified, segments_qualify declared.package declared.names_ne_nil]

/-- Reading succeeds exactly for simple names between dots that some language sees. -/
theorem exists_parse_iff {package names : String} {languages : LanguageSet} :
    (∃ declared, parse package names languages = .ok declared) ↔
      names ≠ "" ∧ (∀ piece ∈ Text.segments names, ∃ name, SimpleName.ofText piece = .ok name) ∧
        languages.isEmpty = false := by
  constructor
  · rintro ⟨declared, parsed⟩
    obtain ⟨coherent, -, names_eq, rfl⟩ := parse_eq_ok_iff.mp parsed
    refine ⟨?_, ?_, coherent.visible⟩
    · rintro rfl
      exact declared.names_ne_nil (List.map_eq_nil_iff.mp names_eq)
    · intro piece member
      rw [← names_eq] at member
      obtain ⟨name, -, rfl⟩ := List.mem_map.mp member
      exact ⟨name, name.ofText_text⟩
  · rintro ⟨nonempty, each, seen⟩
    obtain ⟨simple, texts⟩ : ∃ simple : List SimpleName,
        simple.map SimpleName.text = Text.segments names := by
      have in_range : Text.segments names ∈ Set.range (List.map SimpleName.text) := by
        rw [Set.range_list_map]
        intro piece member
        obtain ⟨name, named⟩ := each piece member
        exact ⟨name, SimpleName.ofText_eq_ok_iff.mp named⟩
      exact in_range
    have simple_ne : simple ≠ [] := by
      rintro rfl
      rw [← Text.intercalate_segments names, ← texts] at nonempty
      exact nonempty rfl
    obtain ⟨declared, made⟩ := exists_make (.ofText package) simple_ne seen
    exact ⟨declared, bind_eq_ok.mpr ⟨simple, SimpleName.mapM_ofText_eq_ok_iff.mpr texts, made⟩⟩

theorem intercalate_names_of_parse {package names : String} {languages : LanguageSet}
    {declared : DeclaredName} (parsed : parse package names languages = .ok declared) :
    ".".intercalate (declared.names.map SimpleName.text) = names := by
  obtain ⟨-, -, names_eq, -⟩ := parse_eq_ok_iff.mp parsed
  rw [names_eq, Text.intercalate_segments]

/-- Every declared name that can be obtained has a simple name and a language, its qualified text is
that of its parts, and its segments are those of its parts. Reading succeeds exactly for simple names
between dots that some language sees, and writing the simple names of the result gives back the
text; and what is written of simple names is read as these names. -/
theorem representation_kept :
    (∀ declared : DeclaredName, declared.Obtainable →
      declared.names ≠ [] ∧ declared.languages.isEmpty = false ∧
      declared.qualified = declared.package.append (declared.names.map SimpleName.text) ∧
      declared.segments = declared.package.segments ++ declared.names.map SimpleName.text) ∧
    (∀ package names languages,
      ((∃ declared, parse package names languages = .ok declared) ↔
        names ≠ "" ∧ (∀ piece ∈ Text.segments names, ∃ name, SimpleName.ofText piece = .ok name) ∧
          languages.isEmpty = false) ∧
      ∀ declared, parse package names languages = .ok declared →
        declared.package = .ofText package ∧ declared.languages = languages ∧
        ".".intercalate (declared.names.map SimpleName.text) = names) ∧
    ∀ package (names : List SimpleName) languages, names ≠ [] → languages.isEmpty = false →
      ∃ declared, parse package (".".intercalate (names.map SimpleName.text)) languages =
        .ok declared ∧ declared.names = names := by
  refine ⟨fun declared obtained => ?_, fun package names languages =>
    ⟨exists_parse_iff, fun declared parsed => ?_⟩, fun package names languages nonempty seen => ?_⟩
  · have coherent := obtained.coherent
    exact ⟨declared.names_ne_nil, coherent.visible, coherent.qualified, coherent.segments_eq⟩
  · obtain ⟨-, package_eq, -, languages_eq⟩ := parse_eq_ok_iff.mp parsed
    exact ⟨package_eq, languages_eq, intercalate_names_of_parse parsed⟩
  · have texts := (SimpleName.segments_dotted nonempty).symm
    obtain ⟨declared, made⟩ := exists_make (.ofText package) nonempty seen
    exact ⟨declared, bind_eq_ok.mpr ⟨names, SimpleName.mapM_ofText_eq_ok_iff.mpr texts, made⟩,
      (make_eq_ok_iff.mp made).2.2.1⟩

/-- Reading and nesting, with blanks around the package and an escaped identifier. -/
theorem representation_kept_nested :
    ∃ outer inner : DeclaredName, parse " com.foo " "Outer" .all = .ok outer ∧
      inner = outer.append ⟨"`a b`", by rfl⟩ ∧ inner.Obtainable ∧
      inner.segments = inner.package.segments ++ inner.names.map SimpleName.text ∧
      ".".intercalate (outer.names.map SimpleName.text) = "Outer" ∧
      ∃ again, parse "" (".".intercalate (inner.names.map SimpleName.text)) .all = .ok again ∧
        again.names = inner.names := by
  obtain ⟨kept, reads, rereads⟩ := representation_kept
  obtain ⟨outer, parsed⟩ : ∃ outer, parse " com.foo " "Outer" .all = .ok outer := ⟨_, rfl⟩
  have nested : (outer.append ⟨"`a b`", by rfl⟩).Obtainable := (Obtainable.parse parsed).append _
  obtain ⟨nonempty, -, -, segments_eq⟩ := kept _ nested
  obtain ⟨-, -, written⟩ := (reads _ _ _).2 outer parsed
  exact ⟨outer, _, parsed, rfl, nested, segments_eq, written, rereads "" _ .all nonempty rfl⟩

/-! ## The reference of a declaration -/

/-- Nothing is trimmed when a reference is made of a declaration. -/
theorem Coherent.trim_qualified {declared : DeclaredName} (coherent : declared.Coherent)
    (package_obtained : declared.package.Obtainable) :
    Text.trim declared.qualified = declared.qualified := by
  rw [coherent.qualified]
  exact trim_qualify package_obtained.startsBlank declared.names_ne_nil

theorem toReference?_eq_some_iff {declared : DeclaredName} {language : Language}
    {reference : ReferenceName} : declared.toReference? language = some reference ↔
      declared.visibleFrom language = true ∧ .ofText declared.qualified language = reference := by
  unfold toReference?
  split <;> simp_all

/-- A declaration has a reference from exactly the languages that see it, with its own text, and the
reference and the declaration are equal, whichever of them is asked. -/
theorem own_reference_denotes {declared : DeclaredName} (obtained : declared.Obtainable)
    (package_obtained : declared.package.Obtainable) (language : Language) :
    ((∃ reference, declared.toReference? language = some reference) ↔
      declared.visibleFrom language = true) ∧
    ∀ reference, declared.toReference? language = some reference →
      reference.text = declared.qualified ∧ reference.language = language ∧
      declared.denotedBy reference = true ∧ reference.denotes declared = true ∧
      (Name.declared declared == Name.reference reference) = true ∧
      (Name.reference reference == Name.declared declared) = true := by
  simp only [toReference?_eq_some_iff]
  refine ⟨by simp, ?_⟩
  rintro _ ⟨seen, rfl⟩
  have text_eq : (ReferenceName.ofText declared.qualified language).text = declared.qualified :=
    obtained.coherent.trim_qualified package_obtained
  have denoted : declared.denotedBy (.ofText declared.qualified language) = true := by
    rw [denotedBy, text_eq, beq_self_eq_true, Bool.true_and]
    exact seen
  have equal : (Name.declared declared ==
      Name.reference (.ofText declared.qualified language)) = true :=
    (Name.declared_beq_reference _ _).mpr ⟨text_eq.symm, seen⟩
  exact ⟨text_eq, rfl, denoted, denoted, equal, (Name.reference_beq_declared _ _).trans equal⟩

/-- A declaration in a package that ends with a blank, seen from Kotlin alone. -/
theorem own_reference_denotes_inside :
    ∃ package declared reference, (PackageName.ofText " a .b").parent? = some package ∧
      make package [⟨"X", by rfl⟩] (.singleton .kotlin) = .ok declared ∧
      package.text = "a " ∧ declared.toReference? .java = none ∧
      declared.toReference? .kotlin = some reference ∧ reference.text = "a .X" ∧
      declared.denotedBy reference = true := by
  obtain ⟨package, encloses, package_text⟩ : ∃ package,
      (PackageName.ofText " a .b").parent? = some package ∧ package.text = "a " := ⟨_, rfl, rfl⟩
  have package_obtained : package.Obtainable := .parent (.ofText? (some " a .b")) encloses
  obtain ⟨declared, made⟩ : ∃ declared,
      make package [⟨"X", by rfl⟩] (.singleton .kotlin) = .ok declared := ⟨_, rfl⟩
  obtain ⟨coherent, package_eq, names_eq, languages_eq⟩ := make_eq_ok_iff.mp made
  have qualified_eq : declared.qualified = "a .X" := by
    rw [coherent.qualified, package_eq, names_eq, qualify, PackageName.append, package_text]
    rfl
  have seen : declared.visibleFrom = LanguageSet.contains (.singleton .kotlin) := by
    rw [← languages_eq]
    rfl
  obtain ⟨exists_iff, each⟩ :=
    own_reference_denotes (.make made) (package_eq ▸ package_obtained) .kotlin
  obtain ⟨reference, found⟩ := exists_iff.mpr (by rw [seen]; rfl)
  obtain ⟨text_eq, -, denoted, -⟩ := each reference found
  refine ⟨package, declared, reference, encloses, made, package_text, ?_, found,
    text_eq.trans qualified_eq, denoted⟩
  rw [toReference?, seen]
  rfl

end DeclaredName

end SymbolResolver
