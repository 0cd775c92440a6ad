import SymbolResolver.Proofs.DeclarationSets
import SymbolResolver.Proofs.DeclaredNames

/-!
# Declarations can be found

The qualified text of a declared name survives the way through a request: it has no blanks around
it, and its simple names are its last segments. So a file finds every declaration of its snapshot by
the qualified text, and the declarations of its own package by their simple names, unless the first
segment is an alias or an imported name (`Snapshot.declarations_found`).
-/

namespace SymbolResolver

namespace DeclaredName

/-- A name that has been read is in the trimmed package, and its qualified text is that of its
parts. -/
theorem parts_of_parse {package names : String} {languages : LanguageSet} {declared : DeclaredName}
    (parsed : parse package names languages = .ok declared) :
    declared.package = .ofText package ∧
      declared.qualified = qualify declared.package declared.names := by
  obtain ⟨coherent, package_eq, -, -⟩ := parse_eq_ok_iff.mp parsed
  exact ⟨package_eq, coherent.qualified⟩

/-- The package of a name has no blanks around it, and the qualified text is that of its parts. -/
structure Sound (declared : DeclaredName) : Prop where
  package : Text.trim declared.package.text = declared.package.text
  qualified : declared.qualified = qualify declared.package declared.names

/-- Reading a declared name gives a sound one. -/
theorem sound_of_parse {package names : String} {languages : LanguageSet} {declared : DeclaredName}
    (parsed : parse package names languages = .ok declared) : declared.Sound := by
  obtain ⟨package_eq, qualified_eq⟩ := parts_of_parse parsed
  refine ⟨?_, qualified_eq⟩
  rw [package_eq]
  exact Text.trim_trim package

namespace Sound

variable {declared : DeclaredName}

theorem trim_qualified (sound : declared.Sound) :
    Text.trim declared.qualified = declared.qualified := by
  rw [sound.qualified]
  exact trim_qualify (Text.trim_eq_iff.mp sound.package).1 declared.names_ne_nil

theorem qualified_ne_empty (sound : declared.Sound) : declared.qualified ≠ "" := by
  rw [sound.qualified]
  exact qualify_ne_empty declared.package declared.names_ne_nil

end Sound

end DeclaredName

open Lazy Resolution

/-! ## Words that a file takes for itself -/

namespace SnapshotFile

/-- A file has a meaning of its own for a first segment: it is an alias of the file, or the simple
name of one of its imports. -/
def Redirects (file : SnapshotFile) (name : String) : Prop :=
  (file.aliases.bind (·.get? name)).isSome = true ∨
    ∃ imported ∈ file.imports, importedName? imported = some name

instance (file : SnapshotFile) (name : String) : Decidable (file.Redirects name) :=
  inferInstanceAs (Decidable (_ ∨ _))

theorem foldl_withImport (imports : List String) (file : FileContext) :
    imports.foldl FileContext.withImport file =
      { file with imports := file.imports ++ imports } := by
  induction imports generalizing file with
  | nil => simp
  | cons imported imports ih =>
      rw [List.foldl_cons, ih]
      simp [FileContext.withImport]

theorem context_eq (file : SnapshotFile) :
    file.context = ⟨.ofPath file.path, file.path, file.package, file.effectiveLanguage,
      file.aliases, file.imports⟩ := by
  rw [context, foldl_withImport]
  cases file.aliases <;> rfl

@[simp] theorem context_package (file : SnapshotFile) : file.context.package = file.package := by
  rw [context_eq]

@[simp] theorem context_aliases (file : SnapshotFile) : file.context.aliases = file.aliases := by
  rw [context_eq]

@[simp] theorem context_imports (file : SnapshotFile) : file.context.imports = file.imports := by
  rw [context_eq]

variable {file : SnapshotFile} {text first : String}

/-- A text keeps its words in a file that has no meaning of its own for the first of them. -/
theorem aliased_of_not_redirects (begins : (Text.segments text).head? = some first)
    (free : ¬ file.Redirects first) : aliased file.context text = text := by
  have no_alias : file.aliases.bind (·.get? first) = none := by
    rw [← Option.not_isSome_iff_eq_none]
    exact fun found => free (.inl found)
  rw [aliased, begins, context_aliases, Option.bind_some, no_alias]

theorem imported?_of_not_redirects (begins : (Text.segments text).head? = some first)
    (free : ¬ file.Redirects first) : imported? file.context text = none := by
  have no_import : file.imports.find? (bringsIn · first) = none := by
    rw [List.find?_eq_none]
    intro imported member brings
    exact free (.inr ⟨imported, member, importedName?_eq_some_iff.mpr brings⟩)
  simp [imported?, begins, no_import]

/-- The usual chain looks up a text among the declarations, if the file has no meaning of its own
for the first segment. -/
theorem namedBy?_of_not_redirects {language : Language} {stdlib : StdlibLookup}
    {names : List DeclaredName} {found : String}
    (begins : (Text.segments text).head? = some first) (free : ¬ file.Redirects first)
    (declared : declared? file.context language names text = some found) :
    namedBy? file.context language stdlib names StageKind.defaultChain text = some found := by
  simp only [StageKind.defaultChain, namedBy?, aliased_of_not_redirects begins free,
    imported?_of_not_redirects begins free, declared, Option.none_or, Option.some_or]

end SnapshotFile

namespace Snapshot

variable {snapshot : Snapshot} {owner : SnapshotFile} {declaration : SnapshotDeclaration}
  {declared : DeclaredName} {language : Language}

/-- A text request for the qualified text of a declaration, or in its package for the simple names
of the declaration, finds the declaration. -/
theorem declarations_found (parses : snapshot.Parses) (owner_listed : owner ∈ snapshot.files)
    (listed : declaration ∈ owner.declarations)
    (named : owner.declaredName declaration = .ok declared)
    (visible : declared.visibleFrom language = true) (file : SnapshotFile)
    (stdlib : StdlibLookup) (resolver : Resolver) (world : World) :
    ((∀ first, declared.segments.head? = some first → ¬ file.Redirects first) →
      snapshot.Serving StageKind.defaultChain stdlib file.context declared.qualified language
        resolver world →
      (resolver.resolve file.context declared.qualified language world).1 =
        .finished (.ok (some ⟨declared.qualified, language⟩))) ∧
    (file.package = declared.package →
      ¬ file.Redirects (declared.names.head declared.names_ne_nil).text →
      ¬ snapshot.Declares (SimpleName.dotted declared.names) language →
      snapshot.Serving StageKind.defaultChain stdlib file.context
        (SimpleName.dotted declared.names) language resolver world →
      (resolver.resolve file.context (SimpleName.dotted declared.names) language world).1 =
        .finished (.ok (some ⟨declared.qualified, language⟩))) := by
  have known : isDeclared snapshot.knownNames language declared.qualified = true :=
    declares_iff.mp ⟨owner, owner_listed, declaration, listed, declared, named, rfl, visible⟩
  have sound := DeclaredName.sound_of_parse named
  constructor
  · intro free serving
    obtain ⟨first, begins⟩ := Text.exists_first_segment sound.qualified_ne_empty
    have found : declared? file.context language snapshot.knownNames declared.qualified =
        some declared.qualified := by
      rw [declared?, if_pos known]
    rw [serving.resolve_eq parses, sound.trim_qualified,
      SnapshotFile.namedBy?_of_not_redirects begins (free first begins) found]
    rfl
  · intro same_package free undeclared serving
    have begins : (Text.segments (SimpleName.dotted declared.names)).head? =
        some (declared.names.head declared.names_ne_nil).text := by
      rw [SimpleName.segments_dotted declared.names_ne_nil, List.head?_map,
        List.head?_eq_some_head declared.names_ne_nil]
      rfl
    have relative : Text.trim (Text.joined file.context.package.text
        (Text.segments (SimpleName.dotted declared.names))) = declared.qualified := by
      rw [SnapshotFile.context_package, same_package,
        SimpleName.segments_dotted declared.names_ne_nil,
        ← DeclaredName.qualify_eq declared.package declared.names_ne_nil, ← sound.qualified,
        sound.trim_qualified]
    -- Without a package the simple names would be the whole qualified text.
    have in_package : file.context.package.text ≠ "" := by
      intro unnamed
      rw [unnamed, Text.joined, if_pos rfl, SimpleName.segments_dotted declared.names_ne_nil,
        ← SimpleName.dotted, SimpleName.trim_dotted] at relative
      rw [relative] at undeclared
      exact undeclared (declares_iff.mpr known)
    have found : declared? file.context language snapshot.knownNames
        (SimpleName.dotted declared.names) = some declared.qualified := by
      have not_plain : ¬ isDeclared snapshot.knownNames language
          (SimpleName.dotted declared.names) = true :=
        fun plain => undeclared (declares_iff.mpr plain)
      rw [declared?, if_neg not_plain, relative, if_pos ⟨in_package, known⟩]
    rw [serving.resolve_eq parses, SimpleName.trim_dotted,
      SnapshotFile.namedBy?_of_not_redirects begins free found]
    rfl

/-- A nested name between backticks is found by both of its texts, from another file and in a
language that is not the language of its own file. -/
theorem declarations_found_nested :
    let owner : SnapshotFile :=
      ⟨"a.kt", ⟨" app "⟩, none, none, [], [⟨"Outer.`in ner`", some .all⟩, ⟨"Any", none⟩], []⟩
    let file : SnapshotFile :=
      ⟨"b.java", ⟨"app"⟩, some .java, some (TextTable.empty.insert "F" "Outer"), ["lib.Bar"], [],
        []⟩
    let snapshot : Snapshot := ⟨[owner, file]⟩
    let resolver : Resolver := ⟨StageKind.defaultChain.map StageKind.stage,
      fun _ => some "kotlin.Any", none, some (snapshot.declarations .empty).1, none⟩
    let qualified := resolver.resolve file.context "app.Outer.`in ner`" .java
      (snapshot.declarations .empty).2
    qualified.1 = .finished (.ok (some ⟨"app.Outer.`in ner`", .java⟩)) ∧
      (resolver.resolve file.context "Outer.`in ner`" .java qualified.2).1 =
        .finished (.ok (some ⟨"app.Outer.`in ner`", .java⟩)) := by
  intro owner file snapshot resolver qualified
  have parses : snapshot.Parses := by decide +kernel
  obtain ⟨declared, named⟩ := parses owner (by simp [snapshot])
    ⟨"Outer.`in ner`", some .all⟩ (by simp [owner])
  have parts : (owner.declaredName ⟨"Outer.`in ner`", some .all⟩).toOption.map (fun declared =>
      (declared.qualified, SimpleName.dotted declared.names, declared.package,
        (declared.names.head declared.names_ne_nil).text, declared.visibleFrom .java)) =
      some ("app.Outer.`in ner`", "Outer.`in ner`", ⟨"app"⟩, "Outer", true) := by decide +kernel
  rw [named] at parts
  simp only [Except.toOption, Option.map_some, Option.some.injEq, Prod.mk.injEq] at parts
  obtain ⟨qualified_eq, dotted_eq, package_eq, first_eq, visible⟩ := parts
  have provided : snapshot.Provides (snapshot.declarations .empty).1
      (snapshot.declarations .empty).2 := .built rfl
  have found := declarations_found parses List.mem_cons_self List.mem_cons_self named visible file
    resolver.stdlib resolver
  rw [DeclaredName.segments, qualified_eq, dotted_eq, package_eq, first_eq] at found
  constructor
  · refine (found _).1 ?_ ⟨rfl, rfl, ⟨_, rfl, provided⟩, fun _ cached => by cases cached⟩
    have free : (Text.segments "app.Outer.`in ner`").head?.all
        (fun first => decide (¬ file.Redirects first)) = true := by decide +kernel
    intro first begins
    simpa [begins] using free
  · refine (found _).2 rfl (by decide +kernel) ?_
      ⟨rfl, rfl, ⟨_, rfl, ?_⟩, fun _ cached => by cases cached⟩
    · rw [declares_iff]
      decide +kernel
    · exact provided.called resolver (.resolve file.context "app.Outer.`in ner`" .java)

end Snapshot

end SymbolResolver
