import SymbolResolver.Proofs.CapturedAliases
import SymbolResolver.Proofs.FoundDeclarations
import SymbolResolver.Proofs.RepeatedStages

/-!
# Empty answers

A configuration is accepted if no side of its standard library entries is empty. A side of blanks is
not empty, but the answer is made from it without the blanks. No other stage has an empty answer:
what an import brings in has text, and so has every declared name. So an accepted configuration
gives an empty answer exactly if a text can lead to an entry that stands for blanks
(`Config.nonempty_answers_exact`). Every key can be the target of an alias in front of the stage,
and without one a key with blanks around it is out of reach.
-/

namespace SymbolResolver

theorem Text.appendPieces_ne_nil {stem : List Char} (nonempty : stem ≠ [])
    (parts : List (List Char)) : appendPieces stem parts ≠ [] := by
  induction parts generalizing stem with
  | nil => exact nonempty
  | cons part parts ih =>
      rw [appendPieces_cons]
      refine ih ?_
      rw [appendPiece, if_neg nonempty]
      simp

theorem Text.appendSegments_ne_empty {stem : String} (nonempty : stem ≠ "") (parts : List String) :
    appendSegments stem parts ≠ "" := by
  have chars_ne : stem.toList ≠ [] := fun none_left => nonempty (by simpa using none_left)
  intro empty
  refine appendPieces_ne_nil chars_ne (parts.map String.toList) ?_
  rw [← toList_appendSegments, empty]
  rfl

namespace Lazy

variable {ε ν α : Type} [Listed ν α] {store : Store ε ν} {firm : Nat → Prop} {trace : List ε}

/-- An item stands in a list that a cell holds. -/
def Store.Lists (store : Store ε ν) (item : α) : Prop :=
  ∃ cell value, store.outcome? cell = some (.ok value) ∧ item ∈ (Listed.unwrap value : List α)

theorem Collection.known_of_pull {source : Source α} {items : List α}
    (run : store.Runs firm (pull source) trace (.finish (.ok items))) :
    ∃ value, store.outcome? source.cell = some (.ok value) ∧ items = Listed.unwrap value := by
  obtain ⟨middle, awaited, ended⟩ := run.of_mapOk
  cases awaited with
  | stay => cases ended
  | await known finished =>
      cases finished
      rename_i outcome
      cases outcome with
      | error error => cases ended
      | ok value =>
          cases ended
          exact ⟨value, known, rfl⟩

theorem Collection.lists_of_scanFirst {test : α → Bool} {sources : List (Source α)} {found : α}
    (run : store.Runs firm (scanFirst test sources) trace (.finish (.ok (some found)))) :
    store.Lists found ∧ test found = true := by
  induction sources generalizing trace with
  | nil => cases run
  | cons source sources ih =>
      rcases run.of_andThen with ⟨_, _, _, impossible⟩ | ⟨first, second, items, pulled, after⟩
      · cases impossible
      · obtain ⟨value, known, rfl⟩ := known_of_pull pulled
        cases match_here : (Listed.unwrap value : List α).find? test with
        | none =>
            rw [match_here] at after
            exact ih after
        | some here =>
            rw [match_here] at after
            cases after
            exact ⟨⟨source.cell, value, known, List.mem_of_find?_eq_some match_here⟩,
              List.find?_some match_here⟩

/-- What a search finds stands in a list that a cell holds. -/
theorem Collection.lists_of_first? {collection : Collection α} {test : α → Bool} {found : α}
    (run : store.Runs firm (collection.first? test) trace (.finish (.ok (some found)))) :
    store.Lists found ∧ test found = true := by
  cases run with
  | peek looked after =>
      rename_i seen
      rcases seen with _ | (error | stored)
      · exact lists_of_scanFirst after
      · exact lists_of_scanFirst after
      · have known : store.outcome? collection.merged = some (.ok stored) := by
          rcases looked with shown | ⟨_, impossible⟩
          · exact shown.symm
          · cases impossible
        have ended : store.Runs firm (.finish (Except.ok ((Listed.unwrap stored).find? test))) _
            (.finish (Except.ok (some found))) := after
        generalize match_here : (Listed.unwrap stored).find? test = searched at ended
        cases ended
        exact ⟨⟨collection.merged, stored, known, List.mem_of_find?_eq_some match_here⟩,
          List.find?_some match_here⟩

end Lazy

namespace Resolution

open Lazy

/-! ## Stages -/

theorem importedReference_ne_empty {request : Request} {reference : ReferenceName}
    (found : importedReference? request = some reference) : reference.text ≠ "" := by
  simp only [importedReference?, Option.bind_eq_bind, Option.bind_eq_some_iff, Option.pure_def,
    Option.some.injEq] at found
  obtain ⟨first, _, imported, brings_in, rfl⟩ := found
  have named : importedName? imported = some first := by simpa using List.find?_some brings_in
  refine Text.appendSegments_ne_empty ?_ _
  rintro rfl
  cases named

/-- The declared names that the cells of a store hold have been put together from their parts. -/
def Composed (store : Store Event Payload) : Prop :=
  ∀ name : DeclaredName, store.Lists name →
    name.qualified = DeclaredName.qualify name.package name.names

theorem composed_iff {store : Store Event Payload} :
    Composed store ↔ ∀ cell < store.size, ∀ value ∈ (store.outcome? cell).bind Except.toOption,
      ∀ name ∈ (Listed.unwrap value : List DeclaredName),
        name.qualified = DeclaredName.qualify name.package name.names := by
  have held : ∀ {cell value}, value ∈ (store.outcome? cell).bind Except.toOption ↔
      store.outcome? cell = some (.ok value) := by
    intro cell value
    rcases store.outcome? cell with _ | (error | stored) <;> simp [Except.toOption]
  simp only [held]
  constructor
  · exact fun composed cell _ value known name member => composed name ⟨cell, value, known, member⟩
  · rintro checked name ⟨cell, value, known, member⟩
    have inside := Store.lt_size_of_state? (Store.outcome?_eq_some_iff.mp known)
    exact checked cell inside value known name member

instance (store : Store Event Payload) : Decidable (Composed store) :=
  decidable_of_iff _ composed_iff.symm

section Chains

variable {store : Store Event Payload} {request : Request} {reference : ReferenceName}

theorem lookUp_ne_empty (composed : Composed store) {declarations : Collection DeclaredName}
    {candidates : List ReferenceName}
    (ends : Ends store (lookUp declarations (.answer none) candidates)
      (.finish (.ok (some reference)))) : reference.text ≠ "" := by
  obtain ⟨-, trace, run⟩ := ends
  induction candidates generalizing trace with
  | nil => cases run
  | cons candidate candidates ih =>
      rcases run.of_andThen with ⟨_, _, _, impossible⟩ | ⟨_, second, found, searched, after⟩
      · cases impossible
      · cases found with
        | none => exact ih second after
        | some declared =>
            cases after
            obtain ⟨listed, denoted⟩ := Collection.lists_of_first? searched
            have same : declared.qualified = reference.text := by
              simp only [DeclaredName.denotedBy, Bool.and_eq_true, beq_iff_eq] at denoted
              exact denoted.1
            rw [← same, composed declared listed]
            exact DeclaredName.qualify_ne_empty declared.package declared.names_ne_nil

/-- Apart from entries that stand for blanks, no stage answers a text with nothing. -/
theorem intercept_ne_empty (composed : Composed store) (unasked : request.consultation? = none)
    {kind : StageKind} (named : kind = .stdlib → ∀ qualified,
      request.stdlib request.reference.text = some qualified → Text.trim qualified ≠ "")
    (ends : Ends store (kind.intercept request fun _ => .answer none)
      (.finish (.ok (some reference)))) : reference.text ≠ "" := by
  have unanswered : ∀ {trace}, ¬ store.Runs (fun _ => False) (Resolving.answer none) trace
      (.finish (.ok (some reference))) := by
    intro trace run
    cases run
  cases kind with
  | importAlias =>
      obtain ⟨-, trace, run⟩ := ends
      exact absurd run unanswered
  | semanticBinding =>
      rw [intercept_unconsulted unasked] at ends
      obtain ⟨-, trace, run⟩ := ends
      exact absurd run unanswered
  | explicitImport =>
      obtain ⟨-, trace, run⟩ := ends
      simp only [StageKind.intercept] at run
      cases found : importedReference? request with
      | none =>
          rw [found] at run
          exact absurd run unanswered
      | some imported =>
          rw [found] at run
          cases run
          exact importedReference_ne_empty found
  | declarationLookup =>
      simp only [StageKind.intercept] at ends
      cases found : request.declarations with
      | none =>
          rw [found] at ends
          obtain ⟨-, trace, run⟩ := ends
          exact absurd run unanswered
      | some declarations =>
          rw [found] at ends
          exact lookUp_ne_empty composed ends
  | stdlib =>
      obtain ⟨-, trace, run⟩ := ends
      simp only [StageKind.intercept] at run
      cases found : request.stdlib request.reference.text with
      | none =>
          rw [found] at run
          exact absurd run unanswered
      | some qualified =>
          rw [found] at run
          cases run
          exact named rfl qualified found

/-- A chain answers a text with nothing only if its reference leads to an entry that stands for
blanks. -/
theorem chain_ne_empty (composed : Composed store) (unasked : request.consultation? = none)
    {kinds : List StageKind} (named : ∀ before after, kinds = before ++ .stdlib :: after →
      ∀ qualified, request.stdlib (reaching before request).reference.text = some qualified →
        Text.trim qualified ≠ "")
    (ends : Ends store (Chain.run (kinds.map StageKind.stage) request)
      (.finish (.ok (some reference)))) : reference.text ≠ "" := by
  induction kinds generalizing request with
  | nil =>
      obtain ⟨-, trace, run⟩ := ends
      cases run
  | cons kind kinds ih =>
      rw [run_cons, intercept_forwards, ends_answerOr_iff] at ends
      rcases ends with ⟨-, here⟩ | ⟨-, later⟩
      · refine intercept_ne_empty composed unasked ?_ here
        rintro rfl
        exact named [] kinds rfl
      · -- The stage has handed on the request with at most another reference in it.
        have passed_eq : kind.passed request = request.withReference _ := reaching_eq [kind] request
        refine ih ?_ ?_ later
        · rw [passed_eq]
          exact unasked
        · intro before after split qualified
          have same_stdlib : (kind.passed request).stdlib = request.stdlib := by rw [passed_eq]; rfl
          rw [same_stdlib]
          exact named (kind :: before) after (congrArg (kind :: ·) split) qualified

/-- In a file without imports and without declarations, only the standard library can answer. -/
theorem run_idle {kinds : List StageKind} (unasked : request.consultation? = none)
    (no_imports : request.file.imports = []) (no_declarations : request.declarations = none)
    (no_stdlib : .stdlib ∉ kinds) :
    Chain.run (kinds.map StageKind.stage) request = .answer none := by
  induction kinds generalizing request with
  | nil => rfl
  | cons kind kinds ih =>
      rw [List.mem_cons, not_or] at no_stdlib
      have same := ih unasked no_imports no_declarations no_stdlib.2
      rw [run_cons]
      cases kind with
      | importAlias =>
          rw [StageKind.intercept, expandAlias_eq]
          exact ih unasked no_imports no_declarations no_stdlib.2
      | semanticBinding =>
          rw [intercept_unconsulted unasked]
          exact same
      | explicitImport =>
          have nothing : importedReference? request = none := by
            simp [importedReference?, no_imports]
          rw [StageKind.intercept, nothing]
          exact same
      | declarationLookup =>
          rw [StageKind.intercept, no_declarations]
          exact same
      | stdlib => exact absurd rfl no_stdlib.1

theorem reaching_of_unaliased (unaliased : request.file.aliases = none) (kinds : List StageKind) :
    reaching kinds request = request := by
  induction kinds with
  | nil => rfl
  | cons kind kinds ih =>
      have passed_eq : kind.passed request = request := by
        cases kind with
        | importAlias => simp [StageKind.passed, expandAlias, unaliased]
        | semanticBinding | explicitImport | declarationLookup | stdlib => rfl
      rw [reaching_cons, passed_eq, ih]

end Chains

end Resolution

open Resolution

/-! ## Configurations -/

theorem TextTable.get?_of_mem {table : TextTable} {entry : String × String}
    (member : entry ∈ table.entries) : table.get? entry.1 = some entry.2 := by
  obtain ⟨entries, increasing⟩ := table
  simp only [get?] at member ⊢
  induction entries with
  | nil => cases member
  | cons first entries ih =>
      obtain ⟨before, rest⟩ := List.pairwise_cons.mp increasing
      rw [List.lookup_cons]
      rcases List.mem_cons.mp member with rfl | later
      · rw [beq_self_eq_true]
      · have different : (entry.1 == first.1) = false :=
          beq_eq_false_iff_ne.mpr fun same =>
            String.lt_irrefl first.1 (same ▸ before entry later)
        rw [different]
        exact ih rest later

theorem TextTable.mem_of_get? {table : TextTable} {key value : String}
    (found : table.get? key = some value) : (key, value) ∈ table.entries := by
  obtain ⟨before, after, entries_eq, _⟩ := List.lookup_eq_some_iff.mp found
  rw [entries_eq]
  exact List.mem_append_right before List.mem_cons_self

namespace Config

/-- A stage that is listed once is neither before nor behind its place. -/
theorem not_mem_around {config : Config} (distinct : config.stages.Nodup) {kind : StageKind}
    {before after : List StageKind} (parts : config.stages = before ++ kind :: after) :
    kind ∉ before ++ after := by
  rw [parts, List.nodup_middle, List.nodup_cons] at distinct
  exact distinct.1

/-- Whether a text can lead to a key of the standard library. Where no alias comes before, the text
has no blanks around it. -/
def reaches (config : Config) (short : String) : Bool :=
  config.stages.contains .stdlib &&
    (Text.trim short == short ||
      (config.stages.takeWhile (· != .stdlib)).contains .importAlias)

theorem reaches_iff {config : Config} (distinct : config.stages.Nodup) {short : String} :
    config.reaches short = true ↔ ∃ before after, config.stages = before ++ .stdlib :: after ∧
      (Text.trim short = short ∨ .importAlias ∈ before) := by
  have in_front : ∀ before after, config.stages = before ++ .stdlib :: after →
      config.stages.takeWhile (· != .stdlib) = before := by
    intro before after parts
    have not_around := not_mem_around distinct parts
    rw [parts, List.takeWhile_append_of_pos, List.takeWhile_cons_of_neg, List.append_nil]
    · simp
    · intro kind member
      simpa using fun same : kind = .stdlib =>
        not_around (List.mem_append_left after (same ▸ member))
  simp only [reaches, Bool.and_eq_true, Bool.or_eq_true, List.contains_iff_mem, beq_iff_eq]
  constructor
  · rintro ⟨has_stdlib, reached⟩
    obtain ⟨before, after, parts⟩ := List.append_of_mem has_stdlib
    rw [in_front before after parts] at reached
    exact ⟨before, after, parts, reached⟩
  · rintro ⟨before, after, parts, reached⟩
    rw [in_front before after parts]
    exact ⟨by rw [parts]; simp, reached⟩

/-- A request for a text, with the standard library of a configuration. -/
structure Asks (config : Config) (request : Request) : Prop where
  stdlib : request.stdlib = .ofTable config.stdlib
  trimmed : Text.trim request.reference.text = request.reference.text
  unasked : request.consultation? = none

/-- No key that a text can lead to stands for blanks. -/
def NamesAll (config : Config) : Prop :=
  ∀ entry ∈ config.stdlib.entries, config.reaches entry.1 = true → Text.trim entry.2 ≠ ""

instance (config : Config) : Decidable config.NamesAll := List.decidableBAll _ _

/-- If no key that can be reached stands for blanks, no text is answered with nothing. -/
theorem Asks.ne_empty {config : Config} {request : Request} (asks : config.Asks request)
    (distinct : config.stages.Nodup) (names_all : config.NamesAll)
    {store : Lazy.Store Event Payload} (composed : Composed store) {reference : ReferenceName}
    (ends : Ends store (Chain.run (config.stages.map StageKind.stage) request)
      (.finish (.ok (some reference)))) : reference.text ≠ "" := by
  refine chain_ne_empty composed asks.unasked ?_ ends
  intro before after parts qualified found
  have known : config.stdlib.get? (reaching before request).reference.text = some qualified := by
    rw [← found, asks.stdlib]
    rfl
  have way : Text.trim (reaching before request).reference.text =
      (reaching before request).reference.text ∨ .importAlias ∈ before := by
    by_cases has_alias : .importAlias ∈ before
    · exact Or.inr has_alias
    · rw [reaching_of_not_mem has_alias]
      exact Or.inl asks.trimmed
  exact names_all (_, qualified) (TextTable.mem_of_get? known)
    ((reaches_iff distinct).mpr ⟨before, after, parts, way⟩)

/-- Where a key that can be reached stands for blanks, there is a text that is answered with
nothing, in a file without imports and without declarations. -/
theorem exists_empty_answer {config : Config} (distinct : config.stages.Nodup)
    {entry : String × String} (member : entry ∈ config.stdlib.entries)
    (reached : config.reaches entry.1 = true) (blank : Text.trim entry.2 = "")
    {resolver : Resolver} (tabled : resolver.stdlib = .ofTable config.stdlib)
    (no_declarations : resolver.declarations = none) :
    ∃ file text, Chain.run (config.stages.map StageKind.stage)
      (resolver.request file text .kotlin none) = .answer (some ⟨"", .kotlin⟩) := by
  obtain ⟨before, after, parts, way⟩ := (reaches_iff distinct).mp reached
  have not_before : .stdlib ∉ before := fun inside =>
    not_mem_around distinct parts (List.mem_append_left after inside)
  -- It is enough that a text becomes the key on its way to the stage.
  suffices arrives : ∃ file : FileContext, file.imports = [] ∧ ∃ text,
      (reaching before (resolver.request file text .kotlin none)).reference =
        ⟨entry.1, .kotlin⟩ by
    obtain ⟨file, no_imports, text, at_stage⟩ := arrives
    have known : resolver.stdlib entry.1 = some entry.2 := by
      rw [tabled]
      exact TextTable.get?_of_mem member
    refine ⟨file, text, ?_⟩
    have same_stdlib : (reaching before (resolver.request file text .kotlin none)).stdlib =
        resolver.stdlib := by
      rw [reaching_eq]
      rfl
    rw [parts, run_append, run_idle (resolver.request_unasked file text .kotlin) no_imports
      no_declarations not_before]
    change Chain.run _ _ = _
    rw [run_cons]
    simp only [StageKind.intercept, same_stdlib, Request.language, at_stage, known,
      ReferenceName.ofText, blank]
  rcases way with trimmed | has_alias
  · refine ⟨⟨⟨"a"⟩, "a.kt", .default, .kotlin, none, []⟩, rfl, entry.1, ?_⟩
    rw [reaching_of_unaliased rfl]
    exact congrArg (ReferenceName.mk · .kotlin) trimmed
  · -- The alias is replaced once, whatever the key begins with.
    obtain ⟨first, second, rfl⟩ := List.append_of_mem has_alias
    have once : .importAlias ∉ first ++ (second ++ .stdlib :: after) :=
      not_mem_around distinct (parts.trans (List.append_assoc _ _ _))
    rw [List.mem_append, not_or, List.mem_append, not_or] at once
    let file : FileContext :=
      ⟨⟨"a"⟩, "a.kt", .default, .kotlin, some (TextTable.empty.insert "A" entry.1), []⟩
    have known : file.aliases.bind (·.get? "A") = some entry.1 := rfl
    have expanded : aliased file "A" = entry.1 := by
      rw [aliased_of_known (by decide) known]
      exact Text.joined_nil entry.1
    refine ⟨file, rfl, "A", ?_⟩
    rw [reaching_append, reaching_of_not_mem once.1, reaching_cons, reaching_of_not_mem once.2.1,
      StageKind.passed, expandAlias_eq]
    exact congrArg (ReferenceName.mk · .kotlin) expanded

end Config

namespace Resolution

open Lazy

/-! ## Resolvers of a configuration -/

/-- A resolver that has been given semantic bindings and declarations, whatever they are. -/
structure Resolver.Extends (resolver base : Resolver) : Prop where
  stages : resolver.stages = base.stages
  stdlib : resolver.stdlib = base.stdlib
  cache : resolver.cache = base.cache

theorem Resolver.stages_ofConfig (config : Config) (world : World) :
    (ofConfig config world).1.stages = config.stages.map StageKind.stage := by
  unfold ofConfig
  split <;> rfl

theorem Resolver.stdlib_ofConfig (config : Config) (world : World) :
    (ofConfig config world).1.stdlib = .ofTable config.stdlib := by
  unfold ofConfig
  split <;> rfl

theorem Resolver.declarations_ofConfig (config : Config) (world : World) :
    (ofConfig config world).1.declarations = none := by
  unfold ofConfig
  split <;> rfl

/-- Where answers are all that cells hold, there are no declared names. -/
theorem composed_dispatch (resolver : Resolver) (request : Request) (caches : List Cache)
    (unanswered : ∀ number, resolver.cache = some number →
      (World.cacheAt ⟨.empty, caches⟩ number).cell? (Resolver.keyOf request) = none) :
    Composed (resolver.dispatch request ⟨.empty, caches⟩).2.store := by
  cases cached : resolver.cache with
  | none =>
      simp only [Resolver.dispatch, cached, Resolver.runDirectly]
      rintro name ⟨cell, value, known, -⟩
      have outside := Store.lt_size_of_state? (Store.outcome?_eq_some_iff.mp known)
      rw [Store.size_run] at outside
      exact absurd outside (Nat.not_lt_zero cell)
  | some number =>
      have requested := Cache.request_of_absent (unanswered number cached) Store.empty
        ((Chain.run resolver.stages request).mapOk Payload.answer) (Resolver.neededBy request)
      rw [Resolver.dispatch_cached cached requested]
      rintro name ⟨cell, value, known, member⟩
      have inside := Store.lt_size_of_state? (Store.outcome?_eq_some_iff.mp known)
      obtain rfl : cell = 0 := by
        simp only [Store.size_run, Store.defer, Store.size_allocate] at inside
        exact Nat.lt_one_iff.mp inside
      obtain ⟨trace, rest, run, ended⟩ := ((Store.Comes.defer _ _ _).run _).course known
      obtain ⟨middle, -, rfl⟩ := run.of_mapOk
      obtain ⟨answer, rfl⟩ : ∃ answer, value = Payload.answer answer := by
        rcases ended with finished | ⟨-, impossible⟩
        · cases middle with
          | finish outcome =>
              cases outcome with
              | ok answer =>
                  cases finished
                  exact ⟨answer, rfl⟩
              | error error => cases finished
          | breakOff | note | pass | start | await | peek => cases finished
        · cases impossible
      cases member

/-- The cache of a resolver, if it has one, was empty at first, and no others have used it than
resolvers that extend it. -/
def Resolver.OwnsCache (base : Resolver) (begun : World) (earlier : List (Resolver × Call)) :
    Prop :=
  ∀ number, base.cache = some number → begun.cacheAt number = .empty ∧
    ∀ entry ∈ earlier, entry.1.cache = some number → entry.1.Extends base

end Resolution

namespace Config

open Resolution Lazy

theorem asks_request {config : Config} {resolver : Resolver}
    (tabled : resolver.stdlib = .ofTable config.stdlib) (file : FileContext) (text : String)
    (language : Language) : config.Asks (resolver.request file text language none) :=
  ⟨tabled, Text.trim_trim text, resolver.request_unasked file text language⟩

/-- The computation under the key of a text is the chain of a request for a text. -/
def Right (config : Config) (key : CacheKey) (work : Resolving) : Prop :=
  key.node = none → ∃ request, config.Asks request ∧
    work = Chain.run (config.stages.map StageKind.stage) request

theorem right_request {config : Config} {resolver : Resolver}
    (stages : resolver.stages = config.stages.map StageKind.stage)
    (tabled : resolver.stdlib = .ofTable config.stdlib) (file : FileContext) (text : String)
    (language : Language) (node : Option SyntaxNode) :
    let request := resolver.request file text language node
    config.Right (Resolver.keyOf request) (Chain.run resolver.stages request) := by
  intro request nodeless
  obtain rfl : node = none := Option.map_eq_none_iff.mp nodeless
  exact ⟨request, asks_request tabled file text language, by rw [stages]⟩

/-- Every answer to a text is the end of the chain for a text, with or without a cache. -/
theorem ends_of_resolve {config : Config} {base resolver : Resolver} {begun : World}
    {earlier : List (Resolver × Call)}
    (stages : base.stages = config.stages.map StageKind.stage)
    (tabled : base.stdlib = .ofTable config.stdlib) (extends_base : resolver.Extends base)
    (owns : base.OwnsCache begun earlier) {file : FileContext} {text : String} {language : Language}
    {answer : Answer} (answered : (resolver.resolve file text language
      (Resolver.callAll begun earlier).2).1 = .finished (.ok answer)) :
    ∃ request, config.Asks request ∧
      Ends (resolver.resolve file text language (Resolver.callAll begun earlier).2).2.store
        (Chain.run (config.stages.map StageKind.stage) request) (.finish (.ok answer)) := by
  have right : ∀ peer : Resolver, peer.Extends base → ∀ file text language node,
      let request := peer.request file text language node
      config.Right (Resolver.keyOf request) (Chain.run peer.stages request) :=
    fun peer peer_extends => right_request (peer_extends.stages.trans stages)
      (peer_extends.stdlib.trans tabled)
  cases cached : base.cache with
  | none =>
      have uncached : resolver.cache = none := extends_base.cache.trans cached
      have same_stages := extends_base.stages.trans stages
      simp only [Resolver.resolve, Resolver.dispatch, uncached, same_stages] at answered ⊢
      let request := resolver.request file text language none
      let work := Chain.run (config.stages.map StageKind.stage) request
      obtain ⟨trace, run⟩ := (Resolver.callAll begun earlier).2.store.run_runs work
      have finished : ((Resolver.callAll begun earlier).2.store.run work).1 =
          .finish (.ok answer) := Computation.eq_finish_of_progress answered
      rw [finished] at run
      exact ⟨request, asks_request (extends_base.stdlib.trans tabled) file text language,
        by rintro ⟨⟩, trace, run⟩
  | some number =>
      obtain ⟨empty, only_own⟩ := owns number cached
      have originates : (Resolver.callAll begun earlier).2.Originates config.Right number :=
        (World.originates_of_empty empty).callAll fun entry member shares =>
          right entry.1 (only_own entry member shares)
      obtain ⟨work, right_work, trace, rest, run, ended⟩ := (originates.dispatch fun _ =>
        right resolver extends_base file text language none).2
          (extends_base.cache.trans cached) _ answered
      obtain ⟨request, asks, rfl⟩ := right_work rfl
      have finished : rest.progress = .finished (.ok answer) := by
        cases rest with
        | finish outcome => exact ended
        | breakOff | note | pass | start | await | peek => cases ended
      rw [Computation.eq_finish_of_progress finished] at run
      exact ⟨request, asks, by rintro ⟨⟩, trace, run⟩

/-- An accepted configuration never gives an empty answer exactly if no key that a text can lead to
stands for blanks. -/
theorem nonempty_answers_exact {config : Config} (valid : config.validate = .ok ()) :
    (∀ (made begun : World) (earlier : List (Resolver × Call)) (resolver : Resolver)
      (file : FileContext) (text : String) (language : Language) (reference : ReferenceName),
      let base := (Resolver.ofConfig config made).1
      let resolved := resolver.resolve file text language (Resolver.callAll begun earlier).2
      resolver.Extends base → base.OwnsCache begun earlier → Composed resolved.2.store →
        resolved.1 = .finished (.ok (some reference)) → reference.text ≠ "") ↔
      config.NamesAll := by
  have distinct := Config.nodup_of_validate valid
  constructor
  · intro nonempty entry member reached blank
    let base := (Resolver.ofConfig config .empty).1
    obtain ⟨file, text, runs⟩ := exists_empty_answer distinct member reached blank
      (Resolver.stdlib_ofConfig config .empty) (Resolver.declarations_ofConfig config .empty)
    have none_yet : ∀ number, World.cacheAt ⟨.empty, [.empty]⟩ number = .empty := by
      rintro (_ | number) <;> rfl
    have unanswered : ∀ number, base.cache = some number →
        (World.cacheAt ⟨.empty, [.empty]⟩ number).cell?
          (Resolver.keyOf (base.request file text .kotlin none)) = none := by
      intro number _
      rw [none_yet]
      rfl
    refine nonempty .empty ⟨.empty, [.empty]⟩ [] base file text .kotlin ⟨"", .kotlin⟩
      ⟨rfl, rfl, rfl⟩ ?_ (composed_dispatch base _ _ unanswered) ?_ rfl
    · exact fun number _ => ⟨none_yet number, by simp⟩
    · refine Resolver.dispatch_answer ?_ unanswered
      rw [Resolver.stages_ofConfig, runs]
  · intro names_all made begun earlier resolver file text language reference base resolved
      extends_base owns composed answered
    obtain ⟨request, asks, ends⟩ := ends_of_resolve (Resolver.stages_ofConfig config made)
      (Resolver.stdlib_ofConfig config made) extends_base owns answered
    exact asks.ne_empty distinct names_all composed ends

/-- Without an alias in front, no text leads to a key that begins with a blank, so that the blank it
stands for does no harm. Blanks around the qualified name of another key are left out of the answer,
also of one that is kept. -/
theorem nonempty_answers_exact_unreached :
    let config : Config := ⟨1, .kotlin, [.stdlib, .declarationLookup, .importAlias],
      .ofList [(" X", " "), ("Y", " lib.Y ")], true⟩
    let foo : DeclaredName :=
      ⟨⟨"com.app"⟩, [⟨"Foo", by decide⟩], .singleton .kotlin, "com.app.Foo", List.cons_ne_nil _ _⟩
    let source := Store.empty.defer (.finish (.ok (.declarations [foo]))) []
    let built := Collection.build source.2 [⟨.normal, source.1, none⟩]
    let resolver := { (Resolver.ofConfig config .empty).1 with declarations := some built.1 }
    let file : FileContext := .ofPath "a.kt" ⟨"com.app"⟩ .kotlin
    let earlier := [(resolver, .resolve file "Foo" .kotlin), (resolver, .resolve file "Y" .kotlin)]
    let resolved := resolver.resolve file "Y" .kotlin
      (Resolver.callAll ⟨built.2, [.empty]⟩ earlier).2
    resolved.1 = .finished (.ok (some ⟨"lib.Y", .kotlin⟩)) ∧ "lib.Y" ≠ "" := by
  intro config foo source built resolver file earlier resolved
  have answered : resolved.1 = .finished (.ok (some ⟨"lib.Y", .kotlin⟩)) := by decide +kernel
  have nonempty := (nonempty_answers_exact (by decide +kernel : config.validate = .ok ())).mpr
    (by decide +kernel)
  refine ⟨answered, nonempty .empty ⟨built.2, [.empty]⟩ earlier resolver file "Y" .kotlin _
    ⟨rfl, rfl, rfl⟩ ?_ (by decide +kernel) answered⟩
  intro number numbered
  obtain rfl : 0 = number := Option.some.inj numbered
  refine ⟨rfl, fun entry member _ => ?_⟩
  have same : entry.1 = resolver := by
    simp only [earlier, List.mem_cons, List.not_mem_nil, or_false] at member
    rcases member with rfl | rfl <;> rfl
  rw [same]
  exact ⟨rfl, rfl, rfl⟩

/-- An entry of the configuration stands for a blank, which is accepted and makes an empty
answer. -/
theorem nonempty_answers_exact_blank :
    let config : Config := { Config.default with stdlib := .ofList [("X", " ")] }
    let built := Resolver.ofConfig config .empty
    let file : FileContext := .ofPath "a.kt" ⟨"com.app"⟩ .kotlin
    config.validate = .ok () ∧
      (built.1.resolve file "X" .kotlin built.2).1 = .finished (.ok (some ⟨"", .kotlin⟩)) := by
  decide +kernel

end Config

end SymbolResolver
