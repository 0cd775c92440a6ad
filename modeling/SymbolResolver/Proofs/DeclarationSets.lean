import Mathlib.Data.List.Forall2
import SymbolResolver.Proofs.Precedence
import SymbolResolver.Proofs.RetainedEntries
import SymbolResolver.Snapshot

/-!
# Declarations as a set

What built-in stages make of a text can be said stage by stage (`namedBy?`). The declarations enter
only through the question whether a text is declared for a language, so it does not matter in which
order, how often, in which file or below which package a name is declared, and with more
declarations no text becomes unresolved. Resolving with the declarations of a snapshot comes to just
this, whatever has been called in the meantime (`Snapshot.declarations_as_set`).
-/

namespace SymbolResolver

namespace Resolution

open Lazy

/-! ## Stage by stage -/

/-- What stages make of a text by its words alone. -/
def namedBy? (file : FileContext) (language : Language) (stdlib : StdlibLookup)
    (names : List DeclaredName) : List StageKind → String → Option String
  | [], _ => none
  | .importAlias :: kinds, text => namedBy? file language stdlib names kinds (aliased file text)
  | .semanticBinding :: kinds, text => namedBy? file language stdlib names kinds text
  | .explicitImport :: kinds, text =>
    (imported? file text).or (namedBy? file language stdlib names kinds text)
  | .declarationLookup :: kinds, text =>
    (declared? file language names text).or (namedBy? file language stdlib names kinds text)
  | .stdlib :: kinds, text =>
    ((stdlib text).map Text.trim).or (namedBy? file language stdlib names kinds text)

section Words

variable {file : FileContext} {language : Language} {stdlib : StdlibLookup}
  {names others : List DeclaredName}

/-- A text that is found among declarations is found among more of them, though perhaps in its other
form. -/
theorem declared?_mono
    (fewer : ∀ text, isDeclared names language text = true → isDeclared others language text = true)
    {text : String} (found : (declared? file language names text).isSome = true) :
    (declared? file language others text).isSome = true := by
  simp only [declared?] at found ⊢
  by_cases plain : isDeclared others language text = true
  · simp [plain]
  · have plain_before : ¬ isDeclared names language text = true :=
      fun before => plain (fewer _ before)
    rw [if_neg plain_before] at found
    rw [if_neg plain]
    split at found
    · rename_i relative
      rw [if_pos ⟨relative.1, fewer _ relative.2⟩]
      rfl
    · cases found

theorem isSome_or_mono {first second third fourth : Option String}
    (first_mono : first.isSome = true → third.isSome = true)
    (second_mono : second.isSome = true → fourth.isSome = true)
    (found : (first.or second).isSome = true) : (third.or fourth).isSome = true := by
  rw [Option.isSome_or, Bool.or_eq_true] at found ⊢
  exact found.imp first_mono second_mono

/-- With more declarations no text becomes unresolved. -/
theorem namedBy?_mono
    (fewer : ∀ text, isDeclared names language text = true → isDeclared others language text = true)
    (kinds : List StageKind) (text : String)
    (found : (namedBy? file language stdlib names kinds text).isSome = true) :
    (namedBy? file language stdlib others kinds text).isSome = true := by
  induction kinds generalizing text with
  | nil => cases found
  | cons kind kinds ih =>
      cases kind with
      | importAlias => exact ih _ found
      | semanticBinding => exact ih _ found
      | explicitImport => exact isSome_or_mono id (ih text) found
      | declarationLookup => exact isSome_or_mono (declared?_mono fewer) (ih text) found
      | stdlib => exact isSome_or_mono id (ih text) found

/-- Only what is declared matters, not how. -/
theorem namedBy?_congr
    (same : ∀ text, isDeclared names language text = isDeclared others language text)
    (kinds : List StageKind) (text : String) :
    namedBy? file language stdlib names kinds text =
      namedBy? file language stdlib others kinds text := by
  induction kinds generalizing text with
  | nil => rfl
  | cons kind kinds ih => cases kind <;> simp only [namedBy?, declared?, same, ih]

end Words

/-- A chain that cannot ask about a node comes to what its stages make of the text. -/
theorem chain_means_namedBy {trusted : Nat → Prop} {shown : Nat → Outcome Payload}
    {names : List DeclaredName} (kinds : List StageKind) {request : Request}
    (unasked : request.consultation? = none)
    (supplies : Supplies trusted shown request.declarations names) :
    (Chain.run (kinds.map StageKind.stage) request).Means shown
      (.finished (.ok ((namedBy? request.file request.language request.stdlib names kinds
        request.reference.text).map (⟨·, request.language⟩)))) := by
  induction kinds generalizing request with
  | nil => rfl
  | cons kind kinds ih =>
      rw [run_cons]
      have rest := ih unasked supplies
      cases kind with
      | importAlias =>
          rw [StageKind.intercept, expandAlias_eq]
          exact ih unasked supplies
      | semanticBinding =>
          rw [intercept_unconsulted unasked]
          exact rest
      | explicitImport =>
          rw [namedBy?, Option.map_or, ← foundOr_finished]
          exact explicitImport_means rest
      | declarationLookup =>
          rw [namedBy?, Option.map_or, ← foundOr_finished]
          exact declarationLookup_means supplies rest
      | stdlib =>
          rw [namedBy?, Option.map_or, ← foundOr_finished]
          exact stdlib_means rest

/-- A text gets the answer that the stages find in its words, if no closed gate holds up a source of
declarations and the answer has not been kept from before. -/
theorem Resolver.resolve_namedBy {resolver : Resolver} {kinds : List StageKind}
    (built_in : resolver.stages = kinds.map StageKind.stage) (file : FileContext) (text : String)
    (language : Language) {world : World} {opened : String → Prop} {names : List DeclaredName}
    (supplied : Supplied world.store opened resolver.declarations names)
    (gates : ∀ gate, opened gate → world.store.isOpen gate = true)
    (unanswered : ∀ number, resolver.cache = some number →
      (world.cacheAt number).cell? (keyOf (resolver.request file text language none)) = none) :
    (resolver.resolve file text language world).1 =
      .finished (.ok ((namedBy? file language resolver.stdlib names kinds (Text.trim text)).map
        (⟨·, language⟩))) := by
  obtain ⟨trusted, shown, tells, inside, supplies⟩ := supplied
  have unasked : (resolver.request file text language none).consultation? = none := by
    cases bound : resolver.binding <;>
      simp [Request.consultation?, Resolver.request, bound]
  have means := chain_means_namedBy kinds unasked supplies
  have within : (Chain.run (kinds.map StageKind.stage)
      (resolver.request file text language none)).Within
      (relying trusted opened world.store.size) := chain_relies supplies inside opened
  cases cached : resolver.cache with
  | none =>
      rw [resolve, dispatch, cached, built_in]
      exact (runDirectly_ends tells inside supplies within means).2.1 gates
  | some number =>
      have requested := Cache.request_of_absent (unanswered number cached) world.store
        ((Chain.run resolver.stages (resolver.request file text language none)).mapOk
          Payload.answer) (neededBy (resolver.request file text language none))
      rw [resolve, dispatch_cached cached requested, built_in]
      exact (kept_ends tells inside supplies within means _ _).2.1 gates

/-! ## Declarations that stay supplied -/

namespace Supplied

variable {store : Store Event Payload} {opened : String → Prop}
  {declarations : Option (Collection DeclaredName)} {names : List DeclaredName}

/-- A run cannot change what the sources of declarations come to. -/
theorem run (supplied : Supplied store opened declarations names) (work : Resolving) :
    Supplied (store.run work).2 opened declarations names := by
  obtain ⟨trusted, shown, tells, inside, supplies⟩ := supplied
  refine ⟨trusted, shown, tells.run_any work, ?_, supplies⟩
  rw [Store.size_run]
  exact inside

/-- A new cell has no part in the declarations that are there. -/
theorem defer (supplied : Supplied store opened declarations names)
    (work : Computation Event Payload (Outcome Payload)) (needed : List Nat) :
    Supplied (store.defer work needed).2 opened declarations names := by
  obtain ⟨trusted, shown, tells, inside, supplies⟩ := supplied
  have untrusted : ¬ trusted store.size := fun impossible => Nat.lt_irrefl _ (inside _ impossible)
  have free : ({} : Scope Event).Le (among trusted opened store.size) :=
    ⟨fun _ _ => trivial, fun _ _ impossible => absurd impossible untrusted, fun _ _ => trivial,
      fun _ _ impossible => absurd impossible untrusted,
      fun _ _ impossible => absurd impossible untrusted, fun _ => trivial⟩
  have work_within : (CellState.pending work).Within (among trusted opened store.size) :=
    work.within_all.mono free
  refine ⟨trusted, shown, tells.allocate work_within ?_ needed, ?_, supplies⟩
  · exact fun impossible => absurd impossible untrusted
  · exact fun cell is_trusted => Store.inside_defer inside work needed cell (.inl is_trusted)

theorem dispatch {world : World} (supplied : Supplied world.store opened declarations names)
    (resolver : Resolver) (request : Request) :
    Supplied (resolver.dispatch request world).2.store opened declarations names := by
  cases cached : resolver.cache with
  | none =>
      simp only [Resolver.dispatch, cached]
      exact supplied.run _
  | some number =>
      let work := (Chain.run resolver.stages request).mapOk Payload.answer
      cases present : (world.cacheAt number).cell? (Resolver.keyOf request) with
      | some cell =>
          rw [Resolver.dispatch_cached cached (Cache.request_of_found present world.store work _)]
          exact supplied.run _
      | none =>
          rw [Resolver.dispatch_cached cached (Cache.request_of_absent present world.store work _)]
          exact (supplied.defer work _).run _

theorem call {world : World} (supplied : Supplied world.store opened declarations names)
    (resolver : Resolver) (call : Call) :
    Supplied (resolver.call world call).2.store opened declarations names := by
  have keeps : resolver.Keeps fun world => Supplied world.store opened declarations names :=
    ⟨fun request _ kept => kept.dispatch resolver request, fun work _ kept => kept.run work⟩
  refine keeps.call call ?_ ?_ supplied
  · intro file _ kept
    rw [Resolver.store_invalidate]
    exact kept
  · intro _ kept
    rw [Resolver.store_clear]
    exact kept

end Supplied

end Resolution

open Lazy Resolution

/-! ## Snapshots -/

/-- The names that a file declares. Declarations with faults are left out. -/
def SnapshotFile.knownNames (file : SnapshotFile) : List DeclaredName :=
  file.declarations.filterMap fun declaration => (file.declaredName declaration).toOption

theorem SnapshotFile.declaredNames_eq {file : SnapshotFile}
    (parses : ∀ declaration ∈ file.declarations, ∃ name, file.declaredName declaration = .ok name) :
    file.declaredNames = .ok file.knownNames := by
  have mapped : ∀ declarations : List SnapshotDeclaration,
      (∀ declaration ∈ declarations, ∃ name, file.declaredName declaration = .ok name) →
      declarations.mapM file.declaredName =
        .ok (declarations.filterMap fun declaration =>
          (file.declaredName declaration).toOption) := by
    intro declarations parses
    induction declarations with
    | nil => rfl
    | cons declaration declarations ih =>
        rw [List.forall_mem_cons] at parses
        obtain ⟨name, parsed⟩ := parses.1
        rw [List.mapM_cons, parsed, ih parses.2, List.filterMap_cons, parsed]
        rfl
  rw [declaredNames, mapped _ parses]
  rfl

namespace Snapshot

/-- The names that the files of a snapshot declare. -/
def knownNames (snapshot : Snapshot) : List DeclaredName :=
  snapshot.files.flatMap SnapshotFile.knownNames

/-- All declarations of a snapshot are free of faults. -/
def Parses (snapshot : Snapshot) : Prop :=
  ∀ file ∈ snapshot.files, ∀ declaration ∈ file.declarations,
    ∃ name, file.declaredName declaration = .ok name

instance (snapshot : Snapshot) : Decidable snapshot.Parses :=
  decidable_of_iff (∀ file ∈ snapshot.files, ∀ declaration ∈ file.declarations,
      (file.declaredName declaration).toOption.isSome = true) <| by
    have is_ok : ∀ result : Except NameFault DeclaredName,
        result.toOption.isSome = true ↔ ∃ name, result = .ok name := by
      intro result
      cases result <;> simp [Except.toOption]
    simp only [is_ok, Parses]

/-- A snapshot declares a qualified text for a language. -/
def Declares (snapshot : Snapshot) (text : String) (language : Language) : Prop :=
  ∃ file ∈ snapshot.files, ∃ declaration ∈ file.declarations, ∃ name,
    file.declaredName declaration = .ok name ∧ name.qualified = text ∧
      name.visibleFrom language = true

theorem declares_iff {snapshot : Snapshot} {text : String} {language : Language} :
    snapshot.Declares text language ↔ isDeclared snapshot.knownNames language text = true := by
  have to_option : ∀ (result : Except NameFault DeclaredName) name,
      result.toOption = some name ↔ result = .ok name := by
    intro result name
    cases result <;> simp [Except.toOption]
  simp only [Declares, isDeclared, knownNames, SnapshotFile.knownNames, List.any_eq_true,
    List.mem_flatMap, List.mem_filterMap, to_option, Bool.and_eq_true, beq_iff_eq]
  constructor
  · rintro ⟨file, in_files, declaration, in_file, name, parsed, declared⟩
    exact ⟨name, ⟨file, in_files, declaration, in_file, parsed⟩, declared⟩
  · rintro ⟨name, ⟨file, in_files, declaration, in_file, parsed⟩, declared⟩
    exact ⟨file, in_files, declaration, in_file, name, parsed, declared⟩

/-- A source stands for a file: it comes to the declared names of the file, and its hint is the
package of the file. -/
structure SourceOf (trusted : Nat → Prop) (shown : Nat → Outcome Payload)
    (source : Source DeclaredName) (file : SnapshotFile) : Prop where
  is_trusted : trusted source.cell
  usual : source.priority = .normal
  admits_eq : ∀ declared, source.admits declared = (declared.package == file.package)
  shown_eq : shown source.cell = file.declaredNames.map Payload.declarations

/-- The sources of files stand for the files, in order. -/
theorem fileSources_stand (files : List SnapshotFile) {store : Store Event Payload}
    {trusted : Nat → Prop} {opened : String → Prop} {shown : Nat → Outcome Payload}
    (tells : store.Tells trusted opened shown)
    (inside : ∀ cell, trusted cell → cell < store.size) :
    ∃ more told, (fileSources store files).2.Tells more opened told ∧
      (∀ cell, more cell → cell < (fileSources store files).2.size) ∧
      (∀ cell, trusted cell → more cell ∧ told cell = shown cell) ∧
      List.Forall₂ (SourceOf more told) (fileSources store files).1 files := by
  induction files generalizing store trusted shown with
  | nil => exact ⟨trusted, shown, tells, inside, fun _ kept => ⟨kept, rfl⟩, .nil⟩
  | cons file files ih =>
      have pull_within : (Computation.finish (file.declaredNames.map Payload.declarations) :
          Computation Event Payload (Outcome Payload)).Within
            (relying trusted opened store.size) := trivial
      -- The source of the first file takes the next cell, and those of the others come after it.
      have extended : (fileSource store file).2.Tells (fun cell => trusted cell ∨ cell = store.size)
          opened (fun cell => if cell = store.size then
            file.declaredNames.map Payload.declarations else shown cell) :=
        tells.extend inside pull_within rfl rfl []
      obtain ⟨more, told, later_tells, later_inside, kept, others⟩ :=
        ih extended (Store.inside_defer inside _ [])
      refine ⟨more, told, later_tells, later_inside, fun cell is_trusted => ?_, ?_⟩
      · obtain ⟨still, same⟩ := kept cell (.inl is_trusted)
        exact ⟨still, same.trans (if_neg (Nat.ne_of_lt (inside cell is_trusted)))⟩
      · obtain ⟨still, same⟩ := kept store.size (.inr rfl)
        exact .cons ⟨still, rfl, fun _ => rfl, same.trans (if_pos rfl)⟩ others

section Standing

variable {trusted : Nat → Prop} {shown : Nat → Outcome Payload}
  {sources : List (Source DeclaredName)} {files : List SnapshotFile}

theorem trusted_of_stand (stand : List.Forall₂ (SourceOf trusted shown) sources files) :
    ∀ source ∈ sources, trusted source.cell := by
  induction stand with
  | nil => exact nofun
  | cons source_of _ ih => exact List.forall_mem_cons.mpr ⟨source_of.is_trusted, ih⟩

/-- All sources have one priority, so that the order of the files is kept. -/
theorem arrange_of_stand (stand : List.Forall₂ (SourceOf trusted shown) sources files) :
    Collection.arrange sources = sources := by
  have usual : ∀ source ∈ sources, source.priority = .normal := by
    induction stand with
    | nil => exact nofun
    | cons source_of _ ih => exact List.forall_mem_cons.mpr ⟨source_of.usual, ih⟩
  rw [Collection.arrange, List.filter_eq_nil_iff.mpr, List.filter_eq_self.mpr,
    List.filter_eq_nil_iff.mpr]
  · simp
  all_goals
    intro source member
    rw [usual source member]
    decide

theorem lists_of_stand (stand : List.Forall₂ (SourceOf trusted shown) sources files) :
    (sources.map fun source => (shown source.cell).map Listed.unwrap) =
      files.map SnapshotFile.declaredNames := by
  induction stand with
  | nil => rfl
  | @cons source file _ _ source_of _ ih =>
      have pulled : (shown source.cell).map Listed.unwrap = file.declaredNames := by
        rw [source_of.shown_eq]
        cases file.declaredNames <;> rfl
      rw [List.map_cons, List.map_cons, pulled, ih]

/-- The sources that admit a name stand for the files of its package. -/
theorem admitted_of_stand (stand : List.Forall₂ (SourceOf trusted shown) sources files)
    (declared : DeclaredName) :
    List.Forall₂ (SourceOf trusted shown) (sources.filter (·.admits declared))
      (files.filter (declared.package == ·.package)) := by
  induction stand with
  | nil => exact .nil
  | @cons source file _ _ source_of _ ih =>
      rw [List.filter_cons, List.filter_cons, source_of.admits_eq]
      split
      · exact .cons source_of ih
      · exact ih

end Standing

/-- A collection stands for a snapshot: its sources stand for the files, and its merged list comes
to what they come to together. -/
structure Stands (snapshot : Snapshot) (collection : Collection DeclaredName)
    (trusted : Nat → Prop) (shown : Nat → Outcome Payload) (store : Store Event Payload) :
    Prop where
  tells : store.Tells trusted (fun _ => False) shown
  inside : ∀ cell, trusted cell → cell < store.size
  merged_trusted : trusted collection.merged
  sources : List.Forall₂ (SourceOf trusted shown) collection.sources snapshot.files
  merged_shown : shown collection.merged = (Collection.members shown collection.sources).map
    fun items => Listed.wrap (distinct items)

/-- New declarations stand for their snapshot, whatever is in the world. -/
theorem declarations_stand (snapshot : Snapshot) (world : World) :
    ∃ trusted shown, snapshot.Stands (snapshot.declarations world).1 trusted shown
      (snapshot.declarations world).2.store := by
  obtain ⟨trusted, shown, tells, inside, -, stand⟩ := fileSources_stand snapshot.files
    (world.store.tells_nothing (fun _ => False) fun _ => .error .brokenOff) fun _ => False.elim
  have apart : ∀ cell, trusted cell → cell ≠ (fileSources world.store snapshot.files).2.size :=
    fun cell is_trusted => Nat.ne_of_lt (inside cell is_trusted)
  obtain ⟨built_tells, built_inside⟩ := tells_build tells inside (trusted_of_stand stand)
  have sources_eq : (snapshot.declarations world).1.sources =
      (fileSources world.store snapshot.files).1 := arrange_of_stand stand
  refine ⟨_, _, built_tells, built_inside, .inr rfl, ?_, ?_⟩
  · rw [sources_eq]
    refine stand.imp fun source file source_of => ?_
    exact ⟨.inl source_of.is_trusted, source_of.usual, source_of.admits_eq,
      (if_neg (apart _ source_of.is_trusted)).trans source_of.shown_eq⟩
  · refine (if_pos rfl).trans (congrArg _ ?_)
    rw [sources_eq, arrange_of_stand stand]
    refine Collection.members_congr fun source member => (if_neg ?_).symm
    exact apart _ (trusted_of_stand stand source member)

namespace Stands

variable {snapshot : Snapshot} {collection : Collection DeclaredName} {trusted : Nat → Prop}
  {shown : Nat → Outcome Payload} {store : Store Event Payload}

theorem run {β : Type} (stands : snapshot.Stands collection trusted shown store)
    (work : Computation Event Payload β) :
    snapshot.Stands collection trusted shown (store.run work).2 := by
  refine ⟨stands.tells.run_any work, ?_, stands.merged_trusted, stands.sources,
    stands.merged_shown⟩
  rw [Store.size_run]
  exact stands.inside

/-- The names of files without faults are the members. -/
theorem members_eq (stands : snapshot.Stands collection trusted shown store)
    {names : SnapshotFile → List DeclaredName}
    (succeed : ∀ file ∈ snapshot.files, file.declaredNames = .ok (names file)) :
    Collection.members shown collection.sources = .ok (snapshot.files.flatMap names) := by
  refine Collection.members_of_lists ((lists_of_stand stands.sources).trans ?_)
  rw [List.map_map]
  exact List.map_congr_left succeed

theorem merged_eq (stands : snapshot.Stands collection trusted shown store)
    {names : SnapshotFile → List DeclaredName}
    (succeed : ∀ file ∈ snapshot.files, file.declaredNames = .ok (names file)) :
    shown collection.merged = .ok (.declarations (distinct (snapshot.files.flatMap names))) := by
  rw [stands.merged_shown, stands.members_eq succeed]
  rfl

end Stands

/-- New declarations of a snapshot come to the names of the snapshot, whatever is in the world. -/
theorem supplied_declarations {snapshot : Snapshot} (parses : snapshot.Parses) (world : World) :
    Supplied (snapshot.declarations world).2.store (fun _ => False)
      (some (snapshot.declarations world).1) snapshot.knownNames := by
  obtain ⟨trusted, shown, stands⟩ := snapshot.declarations_stand world
  have succeed : ∀ file ∈ snapshot.files, file.declaredNames = .ok file.knownNames :=
    fun file member => SnapshotFile.declaredNames_eq (parses file member)
  refine ⟨trusted, shown, stands.tells, stands.inside, ?_⟩
  exact .present stands.merged_trusted (trusted_of_stand stands.sources)
    (stands.members_eq succeed) (stands.merged_eq succeed)

/-- A collection has been built from a snapshot, and since then calls have been made on resolvers,
cells have been added, gates opened and caches changed. -/
inductive Provides (snapshot : Snapshot) (collection : Collection DeclaredName) : World → Prop
  | built {world : World} : (snapshot.declarations world).1 = collection →
      Provides snapshot collection (snapshot.declarations world).2
  | called {world : World} (resolver : Resolver) (call : Call) :
      Provides snapshot collection world → Provides snapshot collection (resolver.call world call).2
  | deferred {world : World} (work : Computation Event Payload (Outcome Payload))
      (needed : List Nat) : Provides snapshot collection world →
      Provides snapshot collection { world with store := (world.store.defer work needed).2 }
  | opened {world : World} (gate : String) : Provides snapshot collection world →
      Provides snapshot collection { world with store := world.store.openGate gate }
  | recached {world : World} (caches : List Cache) : Provides snapshot collection world →
      Provides snapshot collection { world with caches := caches }

/-- The declarations of a snapshot keep coming to its names. -/
theorem Provides.supplied {snapshot : Snapshot} (parses : snapshot.Parses)
    {collection : Collection DeclaredName} {world : World}
    (provides : snapshot.Provides collection world) :
    Supplied world.store (fun _ => False) (some collection) snapshot.knownNames := by
  induction provides with
  | built same => exact same ▸ snapshot.supplied_declarations parses _
  | called resolver call _ ih => exact ih.call resolver call
  | deferred work needed _ ih => exact ih.defer work needed
  | opened gate _ ih =>
      obtain ⟨trusted, shown, tells, inside, supplies⟩ := ih
      exact ⟨trusted, shown, ⟨tells.within, tells.means⟩, inside, supplies⟩
  | recached caches _ ih => exact ih

/-- A resolver of built-in stages works with the declarations of a snapshot, and it has no answer to
a text in its cache. -/
structure Serving (snapshot : Snapshot) (kinds : List StageKind) (stdlib : StdlibLookup)
    (file : FileContext) (text : String) (language : Language) (resolver : Resolver)
    (world : World) : Prop where
  stages : resolver.stages = kinds.map StageKind.stage
  stdlib : resolver.stdlib = stdlib
  provides : ∃ collection, resolver.declarations = some collection ∧
    snapshot.Provides collection world
  unanswered : ∀ number, resolver.cache = some number → (world.cacheAt number).cell?
    (Resolver.keyOf (resolver.request file text language none)) = none

theorem Serving.resolve_eq {snapshot : Snapshot} (parses : snapshot.Parses)
    {kinds : List StageKind} {stdlib : StdlibLookup} {file : FileContext} {text : String}
    {language : Language} {resolver : Resolver} {world : World}
    (serving : snapshot.Serving kinds stdlib file text language resolver world) :
    (resolver.resolve file text language world).1 =
      .finished (.ok ((namedBy? file language stdlib snapshot.knownNames kinds
        (Text.trim text)).map (⟨·, language⟩))) := by
  obtain ⟨collection, declared, provides⟩ := serving.provides
  have supplied : Supplied world.store (fun _ => False) resolver.declarations
      snapshot.knownNames := by
    rw [declared]
    exact provides.supplied parses
  rw [← serving.stdlib]
  exact Resolver.resolve_namedBy serving.stages file text language supplied (fun _ => False.elim)
    serving.unanswered

/-- A text resolves identically with the declarations of two snapshots that declare the same texts
for its language, and it stays resolved with the declarations of a snapshot that declares more. -/
theorem declarations_as_set (kinds : List StageKind) (stdlib : StdlibLookup) (file : FileContext)
    (text : String) (language : Language) {first second : Snapshot} (first_parses : first.Parses)
    (second_parses : second.Parses) {left right : Resolver} {left_world right_world : World}
    (left_serving : first.Serving kinds stdlib file text language left left_world)
    (right_serving : second.Serving kinds stdlib file text language right right_world) :
    ∃ left_answer right_answer,
      (left.resolve file text language left_world).1 = .finished (.ok left_answer) ∧
      (right.resolve file text language right_world).1 = .finished (.ok right_answer) ∧
      ((∀ declared, first.Declares declared language ↔ second.Declares declared language) →
        left_answer = right_answer) ∧
      ((∀ declared, first.Declares declared language → second.Declares declared language) →
        left_answer.isSome = true → right_answer.isSome = true) := by
  refine ⟨_, _, left_serving.resolve_eq first_parses, right_serving.resolve_eq second_parses,
    ?_, ?_⟩
  · intro same
    have same_tests : ∀ declared, isDeclared first.knownNames language declared =
        isDeclared second.knownNames language declared := by
      intro declared
      rw [Bool.eq_iff_iff, ← declares_iff, ← declares_iff]
      exact same declared
    rw [namedBy?_congr same_tests]
  · intro fewer found
    rw [Option.isSome_map] at found ⊢
    refine namedBy?_mono (fun declared => ?_) kinds _ found
    rw [← declares_iff, ← declares_iff]
    exact fewer declared

/-- A nested name is the same as a name in a longer package, declared twice and in another order.
With one more declaration the text stays resolved, but to another name. -/
theorem declarations_as_set_split :
    let file (package : String) (names : List String) : SnapshotFile :=
      ⟨"a.kt", ⟨package⟩, none, none, [], names.map (⟨·, none⟩), []⟩
    let nested : Snapshot := ⟨[file "app" ["Foo.Bar", "Baz"]]⟩
    let split : Snapshot := ⟨[file "app" ["Baz"], file "app.Foo" ["Bar", "Bar"]]⟩
    let larger : Snapshot := ⟨[file "" ["Foo.Bar"], file "app" ["Baz", "Foo.Bar"]]⟩
    let resolver (snapshot : Snapshot) : Resolver :=
      ⟨[StageKind.declarationLookup.stage], .nothing, none,
        some (snapshot.declarations .empty).1, none⟩
    let answer (snapshot : Snapshot) : Ending Answer :=
      ((resolver snapshot).resolve (file "app" []).context "Foo.Bar" .kotlin
        (snapshot.declarations .empty).2).1
    answer nested = .finished (.ok (some ⟨"app.Foo.Bar", .kotlin⟩)) ∧
      answer split = answer nested ∧
      answer larger = .finished (.ok (some ⟨"Foo.Bar", .kotlin⟩)) := by
  intro file nested split larger resolver answer
  have serving : ∀ snapshot : Snapshot, snapshot.Serving [.declarationLookup] .nothing
      (file "app" []).context "Foo.Bar" .kotlin (resolver snapshot)
      (snapshot.declarations .empty).2 :=
    fun snapshot => ⟨rfl, rfl, ⟨_, rfl, .built rfl⟩, nofun⟩
  have nested_parses : nested.Parses := by decide +kernel
  have split_parses : split.Parses := by decide +kernel
  have larger_parses : larger.Parses := by decide +kernel
  have nested_answer : answer nested = .finished (.ok (some ⟨"app.Foo.Bar", .kotlin⟩)) := by
    have named : namedBy? (file "app" []).context .kotlin .nothing nested.knownNames
        [.declarationLookup] (Text.trim "Foo.Bar") = some "app.Foo.Bar" := by decide +kernel
    have resolved := (serving nested).resolve_eq nested_parses
    rw [named] at resolved
    exact resolved
  have larger_answer : answer larger = .finished (.ok (some ⟨"Foo.Bar", .kotlin⟩)) := by
    have named : namedBy? (file "app" []).context .kotlin .nothing larger.knownNames
        [.declarationLookup] (Text.trim "Foo.Bar") = some "Foo.Bar" := by decide +kernel
    have resolved := (serving larger).resolve_eq larger_parses
    rw [named] at resolved
    exact resolved
  have same : ∀ declared, nested.Declares declared .kotlin ↔ split.Declares declared .kotlin := by
    intro declared
    have nested_texts : (nested.knownNames.map fun name =>
        (name.qualified, name.visibleFrom .kotlin)) =
          [("app.Foo.Bar", true), ("app.Baz", true)] := by decide +kernel
    have split_texts : (split.knownNames.map fun name =>
        (name.qualified, name.visibleFrom .kotlin)) =
          [("app.Baz", true), ("app.Foo.Bar", true), ("app.Foo.Bar", true)] := by decide +kernel
    have by_texts : ∀ names : List DeclaredName, isDeclared names .kotlin declared =
        (names.map fun name => (name.qualified, name.visibleFrom .kotlin)).any
          fun entry => entry.1 == declared && entry.2 := by
      intro names
      rw [isDeclared, List.any_map]
      rfl
    rw [declares_iff, declares_iff, by_texts, by_texts, nested_texts, split_texts]
    simp [or_comm]
  obtain ⟨nested_found, split_found, nested_eq, split_eq, equal, -⟩ :=
    declarations_as_set [.declarationLookup] .nothing (file "app" []).context "Foo.Bar" .kotlin
      nested_parses split_parses (serving nested) (serving split)
  refine ⟨nested_answer, ?_, larger_answer⟩
  exact split_eq.trans ((equal same) ▸ nested_eq.symm)

end Snapshot

end SymbolResolver
