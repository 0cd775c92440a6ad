import SymbolResolver.Proofs.ResourceNames

/-!
# Generated names as JSON

A generated name is written as the record of its kind with the kind in front, under the key `kind`.
A resource name that was derived is read back from that, unless its root has blanks around it
(`survives_resource_iff`). The record of an accessor has a key `kind` of its own, so the text of an
accessor holds the key twice and cannot be read at all (`read_accessor`).

Reading a resource name checks its declared name and its sources one by one and not against each
other. So all declared names and all references that can be read by themselves can be read together
(`ResourceName.exists_text_iff`), while derivation gives only names with three parts that follow
from their sources.
-/

namespace SymbolResolver

open Json

theorem exists_of_isOk {α ε : Type} {result : Except ε α} (succeeds : result.isOk = true) :
    ∃ value, result = .ok value := by
  cases result with
  | error fault => cases succeeds
  | ok value => exact ⟨value, rfl⟩

/-- No blank stands next to a separator in a text whose segments are simple names. -/
theorem Text.tidy_of_segments {text : String} (names : List SimpleName)
    (split : segments text = names.map SimpleName.text) : Tidy text := by
  by_cases blank : text = ""
  · subst blank
    decide
  · intro piece member
    have part : String.ofList piece ∈ names.map SimpleName.text := by
      rw [← split, segments_of_ne blank]
      exact List.mem_map_of_mem member
    obtain ⟨name, -, same⟩ := List.mem_map.mp part
    have ends := name.shape.2
    rwa [same, String.toList_ofList] at ends

namespace ResourceName

/-! ## What is derived -/

/-- A resource reference that spells a type and a name has no blanks around it. -/
theorem Spells.trim_eq {text : String} {kind ident : SimpleName} (spells : Spells text kind ident) :
    Text.trim text = text := by
  apply Text.Tidy.trim_eq
  rcases spells with parts | ⟨parts, -⟩
  · exact Text.tidy_of_segments [classSegment, kind, ident] parts
  · exact Text.tidy_of_segments [kind, ident] parts

/-- The declared name has the three parts of a resource, and the type and the name are there. -/
def HasParts (resource : ResourceName) : Prop :=
  ∃ kind ident, resource.declared.names = [classSegment, kind, ident] ∧
    resource.resourceType? = some kind ∧ resource.resourceName? = some ident

/-- The sources are a root and a resource reference, from which the name can be derived. -/
def FromSources (resource : ResourceName) : Prop :=
  ∃ root reference, resource.sources = [root, reference] ∧ derive root reference = .ok resource

theorem hasParts_of_derive {root reference : ReferenceName} {resource : ResourceName}
    (derived : derive root reference = .ok resource) : resource.HasParts := by
  obtain ⟨kind, ident, -, rfl⟩ := derive_eq_ok_iff.mp derived
  exact ⟨kind, ident, rfl, rfl, rfl⟩

theorem fromSources_of_derive {root reference : ReferenceName} {resource : ResourceName}
    (derived : derive root reference = .ok resource) : resource.FromSources := by
  obtain ⟨kind, ident, -, rfl⟩ := derive_eq_ok_iff.mp derived
  exact ⟨root, reference, rfl, derived⟩

/-! ## What can be read -/

/-- The declared name follows from its own fields, and there are no blanks around its package and
around the sources. -/
structure Readable (resource : ResourceName) : Prop where
  package : Text.trim resource.declared.package.text = resource.declared.package.text
  made : DeclaredName.make resource.declared.package resource.declared.names
    resource.declared.languages = .ok resource.declared
  sources : ∀ source ∈ resource.sources, Text.trim source.text = source.text

theorem returns_iff_readable {resource : ResourceName} :
    Returns read toDocument resource ↔ resource.Readable := by
  rw [returns_iff, DeclaredName.returns_iff]
  simp only [ReferenceName.returns_iff]
  constructor
  · rintro ⟨⟨package, made⟩, sources⟩
    exact ⟨package, made, sources⟩
  · intro readable
    exact ⟨⟨readable.package, readable.made⟩, readable.sources⟩

/-- Exactly these names can be read from a text. -/
theorem exists_text_iff {resource : ResourceName} :
    (∃ text, readText read text = .ok resource) ↔ resource.Readable := by
  rw [← returns_iff_readable]
  constructor
  · rintro ⟨text, found⟩
    obtain ⟨document, given⟩ := exists_document_of_readText found
    exact fits.returns given
  · intro returns
    refine ⟨resource.toDocument.compact, ?_⟩
    rw [(fits.written resource).readText_compact]
    exact returns

/-- A derived name is read without the blanks around its root. -/
theorem read_derived {root reference : ReferenceName} {resource : ResourceName}
    (derived : derive root reference = .ok resource) :
    read resource.toDocument =
      .ok ⟨resource.declared, [.ofText root.text root.language, reference]⟩ := by
  obtain ⟨kind, ident, spells, rfl⟩ := derive_eq_ok_iff.mp derived
  have declared_back : DeclaredName.read (fieldIn (.ofText (rootPackage root.text)) kind
      ident).toDocument = .ok (fieldIn (.ofText (rootPackage root.text)) kind ident) :=
    DeclaredName.returns_iff.mpr ⟨Text.trim_trim _, make_field _ kind ident⟩
  have reference_back : ReferenceName.read reference.toDocument = .ok reference :=
    ReferenceName.returns_iff.mpr spells.trim_eq
  have sources_back : Reader.list ReferenceName.read
      (.list ([root, reference].map ReferenceName.toDocument)) =
        .ok [.ofText root.text root.language, reference] := by
    simp only [List.map_cons, List.map_nil, Reader.list, List.mapM_cons, List.mapM_nil,
      ReferenceName.read_toDocument root, reference_back]
    rfl
  simp only [read, bind_eq_ok]
  exact ⟨_, fieldsOf_fields (.cons declared_back (.cons sources_back .nil)) (by decide),
    _, declared_back, _, sources_back, rfl⟩

theorem toEntries_held (resource : ResourceName) :
    ∀ entry ∈ resource.toEntries, entry.2.Held 2 := by
  have declared_held : resource.declared.toDocument.Held 2 :=
    Document.held_fields resource.declared.toEntries_held resource.declared.toEntries_filled
  have sources_held : (Document.list (resource.sources.map ReferenceName.toDocument)).Held 2 := by
    apply Document.held_list
    intro item member
    obtain ⟨source, -, rfl⟩ := List.mem_map.mp member
    exact Document.held_fields source.toEntries_held source.toEntries_filled
  simp [toEntries, declared_held, sources_held]

theorem toEntries_filled (resource : ResourceName) :
    ∀ entry ∈ resource.toEntries, entry.2 ≠ .record [] := by
  simp [toEntries, DeclaredName.toDocument, DeclaredName.toEntries, Document.fields]

end ResourceName

namespace GeneratedName

/-! ## The two kinds -/

theorem read_resource (resource : ResourceName) :
    read (toDocument (.resource resource)) =
      (ResourceName.read resource.toDocument).map GeneratedName.resource := by
  have known : readerOf? "resource" =
      some fun document => (ResourceName.read document).map GeneratedName.resource := rfl
  exact variant_fields known resource.toEntries_held resource.toEntries_filled
    (by simp [ResourceName.toEntries]) (by decide)

/-- The kind of an accessor and the kind of the record share a key. -/
theorem splitTag_accessor (accessor : AccessorName) :
    Reader.splitTag (toDocument (.accessor accessor)) = .error .malformed := rfl

theorem read_accessor (accessor : AccessorName) :
    read (toDocument (.accessor accessor)) = .error .malformed := by
  simp only [read, Reader.variant, splitTag_accessor]
  split <;> rfl

theorem written : ∀ name : GeneratedName, name.toDocument.Written
  | .resource name => .fields (List.forall_mem_cons.mpr ⟨.text "resource", name.toEntries_written⟩)
  | .accessor name => .fields (List.forall_mem_cons.mpr ⟨.text "accessor", name.toEntries_written⟩)

/-- A resource name comes from the record of a resource. -/
theorem exists_of_read_resource {document : Document} {resource : ResourceName}
    (found : read document = .ok (.resource resource)) :
    ∃ content, ResourceName.read content = .ok resource := by
  obtain ⟨tag, reader, content, known, given⟩ := exists_of_variant found
  unfold readerOf? at known
  split at known
  · cases known
    obtain ⟨_, read_eq, same⟩ := map_eq_ok.mp given
    cases same
    exact ⟨content, read_eq⟩
  · split at known
    · cases known
      obtain ⟨_, -, same⟩ := map_eq_ok.mp given
      cases same
    · cases known

/-- As a generated name exactly those resource names can be read that can be read by themselves. -/
theorem exists_text_resource_iff {resource : ResourceName} :
    (∃ text, readText read text = .ok (.resource resource)) ↔ resource.Readable := by
  rw [← ResourceName.returns_iff_readable]
  constructor
  · rintro ⟨text, found⟩
    obtain ⟨document, given⟩ := exists_document_of_readText found
    obtain ⟨content, plain⟩ := exists_of_read_resource given
    exact ResourceName.fits.returns plain
  · intro returns
    have back : ResourceName.read resource.toDocument = .ok resource := returns
    refine ⟨(toDocument (.resource resource)).compact, ?_⟩
    rw [(written _).readText_compact, read_resource, back, Except.map]

/-! ## Round trips -/

/-- A generated name is read back, and what is read is equal to it. -/
def Survives (name : GeneratedName) : Prop :=
  ∃ back, readText read name.toDocument.compact = .ok back ∧ (back == name) = true

theorem resource_beq_iff {left right : ResourceName} :
    (resource left == resource right) = true ↔
      (left.declared == right.declared) = true ∧ left.sources = right.sources := by
  change (left.declared == right.declared && left.sources == right.sources) = true ↔ _
  rw [Bool.and_eq_true]
  exact and_congr_right fun _ => beq_iff_eq

/-- A derived resource name is read back exactly if its root has no blanks around it. -/
theorem survives_resource_iff {root reference : ReferenceName} {name : ResourceName}
    (derived : ResourceName.derive root reference = .ok name) :
    Survives (.resource name) ↔ Text.trim root.text = root.text := by
  have read_eq : readText read (toDocument (.resource name)).compact =
      .ok (.resource ⟨name.declared, [.ofText root.text root.language, reference]⟩) := by
    rw [(written _).readText_compact, read_resource, ResourceName.read_derived derived, Except.map]
  have sources_eq : name.sources = [root, reference] := by
    obtain ⟨kind, ident, -, rfl⟩ := ResourceName.derive_eq_ok_iff.mp derived
    rfl
  constructor
  · rintro ⟨back, found, equal⟩
    rw [read_eq] at found
    cases found
    have roots := (resource_beq_iff.mp equal).2
    rw [sources_eq, List.cons.injEq, ReferenceName.ofText] at roots
    have texts := congrArg ReferenceName.text roots.1
    exact texts
  · intro trimmed
    refine ⟨_, read_eq, resource_beq_iff.mpr ⟨?_, ?_⟩⟩
    · rw [DeclaredName.beq_def, beq_self_eq_true, beq_self_eq_true, Bool.and_true]
    · rw [sources_eq, ReferenceName.ofText, trimmed]

theorem readText_accessor (accessor : AccessorName) :
    readText read (toDocument (.accessor accessor)).compact = .error .malformed := by
  rw [(written _).readText_compact, read_accessor]

theorem not_survives_accessor (accessor : AccessorName) : ¬ Survives (.accessor accessor) := by
  rintro ⟨back, found, -⟩
  rw [readText_accessor] at found
  cases found

/-- The names that derivations give. -/
inductive Derived : GeneratedName → Prop
  | resource {root reference : ReferenceName} {name : ResourceName}
      (derived : ResourceName.derive root reference = .ok name) : Derived (.resource name)
  | accessor {property : DeclaredName} {kind : AccessorKind} {name : AccessorName}
      (derived : AccessorName.derive property kind = .ok name) : Derived (.accessor name)

/-- A derived name is read back exactly if it is a resource name whose root has no blanks around it.
No accessor can be read back. -/
theorem generated_round_trip_exact {name : GeneratedName} (derived : name.Derived) :
    (Survives name ↔ ∃ root reference resource, name = .resource resource ∧
      ResourceName.derive root reference = .ok resource ∧ Text.trim root.text = root.text) ∧
    ∀ accessor, name = .accessor accessor →
      readText read name.toDocument.compact = .error .malformed := by
  cases derived with
  | @resource root reference resource derived =>
      refine ⟨⟨fun survives => ?_, ?_⟩, fun accessor same => nomatch same⟩
      · exact ⟨root, reference, resource, rfl, derived,
          (survives_resource_iff derived).mp survives⟩
      · rintro ⟨root, reference, resource, same, derived, trimmed⟩
        cases same
        exact (survives_resource_iff derived).mpr trimmed
  | @accessor property kind accessor derived =>
      refine ⟨iff_of_false ?_ ?_, fun _ _ => readText_accessor accessor⟩
      · exact not_survives_accessor accessor
      · rintro ⟨_, _, _, same, -⟩
        cases same

/-- A resource below a root with a blank in the middle. -/
theorem generated_round_trip_exact_title :
    ∃ name, ResourceName.derive ⟨"com.my app.R", .kotlin⟩ ⟨"string.title", .java⟩ = .ok name ∧
      Survives (.resource name) := by
  have succeeds : (ResourceName.derive ⟨"com.my app.R", .kotlin⟩
      ⟨"string.title", .java⟩).isOk = true := by rfl
  have trimmed : Text.trim "com.my app.R" = "com.my app.R" := by decide
  obtain ⟨name, derived⟩ := exists_of_isOk succeeds
  obtain ⟨survives_iff, -⟩ := generated_round_trip_exact (.resource derived)
  exact ⟨name, derived, survives_iff.mpr ⟨_, _, name, rfl, derived, trimmed⟩⟩

/-- The getter of an ordinary property is written, and cannot be read. -/
theorem accessor_not_read_back :
    ∃ property accessor, DeclaredName.parse "com.app" "User.title" (.singleton .kotlin) =
        .ok property ∧
      AccessorName.derive property .getter = .ok accessor ∧ ¬ Survives (.accessor accessor) := by
  have succeeds : (DeclaredName.parse "com.app" "User.title" (.singleton .kotlin) >>=
      (AccessorName.derive · .getter)).isOk = true := by rfl
  obtain ⟨accessor, made⟩ := exists_of_isOk succeeds
  obtain ⟨property, parsed, derived⟩ := bind_eq_ok.mp made
  exact ⟨property, accessor, parsed, derived, not_survives_accessor accessor⟩

end GeneratedName

namespace ResourceName

/-- A derived resource name has its three parts and follows from its sources. Reading asks for
neither. -/
theorem resource_parts_exact (resource : ResourceName) :
    ((∃ root reference, derive root reference = .ok resource) →
      resource.HasParts ∧ resource.FromSources) ∧
    ((∃ text, readText read text = .ok resource) ↔ resource.Readable) ∧
    ((∃ text, readText GeneratedName.read text = .ok (.resource resource)) ↔
      resource.Readable) := by
  refine ⟨?_, exists_text_iff, GeneratedName.exists_text_resource_iff⟩
  rintro ⟨root, reference, derived⟩
  exact ⟨hasParts_of_derive derived, fromSources_of_derive derived⟩

/-- A resource in the default package. -/
theorem resource_parts_exact_layout :
    ∃ resource, derive ⟨"R", .java⟩ ⟨"R.layout.main", .java⟩ = .ok resource ∧
      resource.HasParts ∧ resource.FromSources := by
  have succeeds : (derive ⟨"R", .java⟩ ⟨"R.layout.main", .java⟩).isOk = true := by rfl
  obtain ⟨resource, derived⟩ := exists_of_isOk succeeds
  exact ⟨resource, derived, (resource_parts_exact resource).1 ⟨_, _, derived⟩⟩

/-- The record of a name with one part and no sources. -/
def partless : Document := .fields
  [("declared", .fields [("names", .list [.text "B"]), ("languages", .list [.text "java"])]),
   ("sources", .list [])]

theorem partless_written : partless.Written := by
  refine .fields (List.forall_mem_cons.mpr ⟨.fields ?_, ?_⟩)
  · simp [Document.Written.list, Document.Written.text]
  · simp [Document.Written.list]

/-- A name with one part and no sources is read as a resource name, by itself and as a generated
name. -/
theorem read_without_parts :
    ∃ resource, readText read
        "\x7b\"declared\":\x7b\"names\":[\"B\"],\"languages\":[\"java\"]\x7d,\"sources\":[]\x7d" =
        .ok resource ∧
      (∃ text, readText GeneratedName.read text = .ok (.resource resource)) ∧
      resource.resourceType? = none ∧ resource.resourceName? = none ∧ ¬ resource.FromSources := by
  have spelled : partless.compact =
      "\x7b\"declared\":\x7b\"names\":[\"B\"],\"languages\":[\"java\"]\x7d,\"sources\":[]\x7d" := by
    decide
  have parts : (read partless).map (fun resource =>
      (resource.resourceType?, resource.resourceName?, resource.sources)) =
      .ok (none, none, []) := by rfl
  rw [← partless_written.readText_compact read, spelled] at parts
  obtain ⟨resource, found, same⟩ := map_eq_ok.mp parts
  simp only [Prod.mk.injEq] at same
  obtain ⟨no_type, no_name, no_sources⟩ := same
  refine ⟨resource, found, ?_, no_type, no_name, ?_⟩
  · exact GeneratedName.exists_text_resource_iff.mpr (exists_text_iff.mp ⟨_, found⟩)
  · rintro ⟨root, reference, sources_eq, -⟩
    rw [no_sources] at sources_eq
    cases sources_eq

end ResourceName

end SymbolResolver
