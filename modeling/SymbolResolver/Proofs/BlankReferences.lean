import SymbolResolver.Proofs.FoundDeclarations

/-!
# Blank references

A text of blanks alone has no segments. An alias and an import need a first segment, and no table of
an accepted configuration has an entry for the empty text, so these stages know nothing about it.
The search among the declarations does not stop there: relative to the package of the file, no
segments at all are the package itself. So a blank text refers to the package of the file if that is
the qualified text of a declaration, and to nothing otherwise (`Resolver.resolve_blank`).
-/

namespace SymbolResolver

open Resolution

/-- No accepted configuration has a standard library name without text. -/
theorem Config.get?_empty_of_validate {config : Config} (valid : config.validate = .ok ()) :
    config.stdlib.get? "" = none := by
  have named : ∀ entry ∈ config.stdlib.entries, entry.1 ≠ "" := by
    intro entry member unnamed
    have faulty : ∃ fault, config.fault? = some fault := by
      cases found : config.stdlib.entries.find? fun entry => entry.1 == "" || entry.2 == "" with
      | none =>
          rw [List.find?_eq_none] at found
          exact absurd (found entry member) (by simp [unnamed])
      | some first =>
          unfold fault?
          split
          · exact ⟨_, rfl⟩
          · split
            · exact ⟨_, rfl⟩
            · exact ⟨_, by rw [found]; rfl⟩
    obtain ⟨fault, found⟩ := faulty
    rw [validate, found] at valid
    cases valid
  refine List.lookup_eq_none_iff.mpr fun entry member => ?_
  simpa using (named entry member).symm

namespace Resolution

section Blank

variable {file : FileContext} {language : Language} {names : List DeclaredName}

theorem aliased_empty (file : FileContext) : aliased file "" = "" := rfl

theorem imported?_empty (file : FileContext) : imported? file "" = none := rfl

/-- Nothing that has been put together from its parts has an empty text. -/
theorem isDeclared_empty
    (composed : ∀ name ∈ names, name.qualified = DeclaredName.qualify name.package name.names) :
    isDeclared names language "" = false := by
  rw [isDeclared, List.any_eq_false]
  intro name member
  have nonempty : name.qualified ≠ "" := by
    rw [composed name member]
    exact DeclaredName.qualify_ne_empty name.package name.names_ne_nil
  simp [nonempty]

/-- Among the declarations, the empty text is taken for the package of the file. -/
theorem declared?_empty
    (composed : ∀ name ∈ names, name.qualified = DeclaredName.qualify name.package name.names) :
    declared? file language names "" =
      if isDeclared names language (Text.trim file.package.text) = true
      then some (Text.trim file.package.text) else none := by
  have relative : Text.joined file.package.text (Text.segments "") = file.package.text :=
    Text.joined_nil file.package.text
  have in_package : isDeclared names language (Text.trim file.package.text) = true →
      file.package.text ≠ "" := by
    intro declared unnamed
    have trimmed : Text.trim file.package.text = "" := by
      rw [unnamed]
      rfl
    rw [trimmed, isDeclared_empty composed] at declared
    cases declared
  rw [declared?, relative, isDeclared_empty composed, if_neg Bool.false_ne_true]
  simp only [and_iff_right_of_imp in_package]

/-- Whatever the stages are, the empty text can only be taken for the package of the file. -/
theorem namedBy?_empty {stdlib : StdlibLookup} (unnamed : stdlib "" = none)
    (composed : ∀ name ∈ names, name.qualified = DeclaredName.qualify name.package name.names)
    (kinds : List StageKind) :
    namedBy? file language stdlib names kinds "" =
      if StageKind.declarationLookup ∈ kinds ∧
        isDeclared names language (Text.trim file.package.text) = true
      then some (Text.trim file.package.text) else none := by
  induction kinds with
  | nil => simp [namedBy?]
  | cons kind kinds ih =>
      cases kind with
      | importAlias => simpa [namedBy?, aliased_empty] using ih
      | semanticBinding => simpa [namedBy?] using ih
      | explicitImport => simpa [namedBy?, imported?_empty] using ih
      | stdlib => simpa [namedBy?, unnamed] using ih
      | declarationLookup =>
          rw [namedBy?, declared?_empty composed, ih]
          by_cases declared : isDeclared names language (Text.trim file.package.text) = true
          · simp [declared]
          · simp [declared]

end Blank

open Lazy

/-- A blank text refers to nothing, or to the package of the file: to the package exactly if the
chain looks among the declarations and a declaration that the language sees has its text. -/
theorem Resolver.resolve_blank {resolver : Resolver} {kinds : List StageKind}
    (built_in : resolver.stages = kinds.map StageKind.stage) {config : Config}
    (valid : config.validate = .ok ()) (tabled : resolver.stdlib = .ofTable config.stdlib)
    (file : FileContext) {text : String} (blank : Text.trim text = "") (language : Language)
    {world : World} {opened : String → Prop} {names : List DeclaredName}
    (supplied : Supplied world.store opened resolver.declarations names)
    (gates : ∀ gate, opened gate → world.store.isOpen gate = true)
    (composed : ∀ name ∈ names, name.qualified = DeclaredName.qualify name.package name.names)
    (unanswered : ∀ number, resolver.cache = some number →
      (world.cacheAt number).cell? (keyOf (resolver.request file text language none)) = none) :
    let ended := (resolver.resolve file text language world).1
    let package := Text.trim file.package.text
    let taken := StageKind.declarationLookup ∈ kinds ∧ isDeclared names language package = true
    (ended = .finished (.ok none) ↔ ¬ taken) ∧
      (ended = .finished (.ok (some ⟨package, language⟩)) ↔ taken) := by
  intro ended package taken
  have unnamed : resolver.stdlib "" = none := by
    rw [tabled]
    exact Config.get?_empty_of_validate valid
  have ends : ended = .finished (.ok ((if taken then some package else none).map
      (⟨·, language⟩))) := by
    have resolved := Resolver.resolve_namedBy built_in file text language supplied gates unanswered
    rwa [blank, namedBy?_empty unnamed composed kinds] at resolved
  by_cases is_taken : taken
  · rw [if_pos is_taken] at ends
    simp [ends, is_taken]
  · rw [if_neg is_taken] at ends
    simp [ends, is_taken]

/-- In a file whose package nobody declares, two blanks refer to nothing, though the file has an
alias and an import and a name of the package is declared. -/
theorem Resolver.resolve_blank_undeclared :
    let foo : DeclaredName :=
      ⟨⟨"com.app"⟩, [⟨"Foo", by decide⟩], .singleton .kotlin, "com.app.Foo", List.cons_ne_nil _ _⟩
    let reading : Computation Event Payload (Outcome Payload) := .finish (.ok (.declarations [foo]))
    let source := Store.empty.defer reading []
    let built := Collection.build source.2 [⟨.normal, source.1, none⟩]
    let resolver : Resolver := ⟨StageKind.defaultChain.map StageKind.stage,
      .ofTable Config.default.stdlib, none, some built.1, some 0⟩
    let file : FileContext := ⟨⟨"file:a"⟩, "a.kt", ⟨"com.app"⟩, .kotlin,
      some (TextTable.empty.insert "" "lib.Any"), ["lib.Bar"]⟩
    (resolver.resolve file "  " .kotlin ⟨built.2, [.empty]⟩).1 = .finished (.ok none) := by
  intro foo reading source built resolver file
  have within : reading.Within (relying (fun _ => False) (fun _ => False) 0) := trivial
  have tells := (Store.tells_nothing Store.empty (fun _ => False) fun _ => .error .brokenOff).extend
    (fun _ => False.elim) within (rfl : reading.Means _ _) rfl []
  have supplied : Supplied built.2 (fun _ => False) (some built.1) [foo] := by
    refine supplied_build tells ?_ ?_ rfl
    · exact Store.inside_defer (fun _ => False.elim) reading []
    · simp [source, Store.defer, Store.allocate]
  have resolved := @Resolver.resolve_blank resolver StageKind.defaultChain rfl .default rfl rfl
    file "  " (by decide) .kotlin ⟨built.2, [.empty]⟩ (fun _ => False) [foo] supplied
    (fun _ => False.elim) (by decide +kernel) (by decide)
  exact resolved.1.mpr (by decide)

/-- A declaration has the text of the package, and so the empty text refers to it. -/
theorem Resolver.resolve_blank_package :
    let app : DeclaredName :=
      ⟨⟨"com"⟩, [⟨"app", by decide⟩], .singleton .kotlin, "com.app", List.cons_ne_nil _ _⟩
    let source := Store.empty.defer (.finish (.ok (.declarations [app]))) []
    let built := Collection.build source.2 [⟨.normal, source.1, none⟩]
    let resolver : Resolver := ⟨StageKind.defaultChain.map StageKind.stage,
      .ofTable Config.default.stdlib, none, some built.1, none⟩
    let file : FileContext := .ofPath "a.kt" ⟨"com.app"⟩ .kotlin
    Config.default.validate = .ok () ∧
      DeclaredName.parse "com" "app" (.singleton .kotlin) = .ok app ∧
      (resolver.resolve file "" .kotlin ⟨built.2, []⟩).1 =
        .finished (.ok (some ⟨"com.app", .kotlin⟩)) := by
  refine ⟨by decide +kernel, rfl, ?_⟩
  decide +kernel

end Resolution

end SymbolResolver
