import SymbolResolver.Proofs.BuiltInChains
import SymbolResolver.Proofs.Segments
import SymbolResolver.Resolution.Resolver

/-!
# The precedence of the usual chain

What the usual chain answers can be said without stages: an alias in front of the text is replaced
once, then the semantic bindings decide, then the imports of the file, then the declarations, and in
the end the standard library (`directEnding`). Resolving through the chain comes to just this, with
or without a cache, if the sources of the declarations succeed (`Resolver.default_precedence`).
-/

namespace SymbolResolver

namespace Resolution

open Lazy

/-! ## The direct definition -/

/-- The text with its first segment replaced by the target of an alias, if it is one. -/
def aliased (file : FileContext) (text : String) : String :=
  match (Text.segments text).head?.bind fun first => file.aliases.bind (·.get? first) with
  | some target => Text.joined target (Text.segments text).tail
  | none => text

/-- Whether an import ends with a name. Wildcards and empty segments bring in nothing. -/
def bringsIn (imported name : String) : Bool :=
  (Text.segments imported).getLast? == some name && name != "" && name != "*"

/-- The text with its first segment replaced by the first import that brings it in. -/
def imported? (file : FileContext) (text : String) : Option String := do
  let first ← (Text.segments text).head?
  let imported ← file.imports.find? (bringsIn · first)
  return Text.joined imported (Text.segments text).tail

/-- Whether a declaration that a language sees has a text. -/
def isDeclared (names : List DeclaredName) (language : Language) (text : String) : Bool :=
  names.any fun name => name.qualified == text && name.visibleFrom language

/-- The text if it is declared, and otherwise the text relative to the package if that is. -/
def declared? (file : FileContext) (language : Language) (names : List DeclaredName)
    (text : String) : Option String :=
  let relative := Text.trim (Text.joined file.package.text (Text.segments text))
  if isDeclared names language text then some text
  else if file.package.text ≠ "" ∧ isDeclared names language relative then some relative
  else none

/-- What a text refers to, by its words alone. -/
def named? (file : FileContext) (language : Language) (stdlib : StdlibLookup)
    (names : List DeclaredName) (text : String) : Option String :=
  (imported? file text).or <| (declared? file language names text).or <|
    (stdlib text).map Text.trim

/-- What the semantic bindings decide. If they know nothing of use, they leave it open. -/
def bound? (file : FileContext) (language : Language) (written : String) :
    Consultation → Option (Ending Answer)
  | .failure (.binding message path reference) =>
    some (.finished (.error (.binding message path reference)))
  | .failure error => some (.finished (.error (.binding error.display file.path written)))
  | .breakOff => some .brokenOff
  | .answer (some (.qualifiedName name)) => some (.finished (.ok (some ⟨Text.trim name, language⟩)))
  | .answer (some (.declaration declared)) =>
    if declared.visibleFrom language then
      some (.finished (.ok (some ⟨Text.trim declared.qualified, language⟩)))
    else none
  | .answer none => none

/-- What a text in a file refers to, given what the semantic bindings say about its node, if they
are asked, and the names that are declared. -/
def directEnding (file : FileContext) (text : String) (language : Language)
    (stdlib : StdlibLookup) (consultation : Option Consultation) (names : List DeclaredName) :
    Ending Answer :=
  (consultation.bind (bound? file language (Text.trim text))).getD <| .finished <| .ok <|
    (named? file language stdlib names (aliased file (Text.trim text))).map (⟨·, language⟩)

/-- Only semantic bindings that break off leave a text without an outcome. -/
theorem guarded_directEnding (file : FileContext) (text : String) (language : Language)
    (stdlib : StdlibLookup) {consultation : Option Consultation}
    (unbroken : consultation ≠ some .breakOff) (names : List DeclaredName) :
    (directEnding file text language stdlib consultation names).guarded =
      directEnding file text language stdlib consultation names := by
  rw [directEnding]
  rcases consultation with _ | ((_ | (declared | name)) | error | _)
  · rfl
  · rfl
  · simp only [Option.bind_some, bound?]
    split <;> rfl
  · rfl
  · cases error <;> rfl
  · exact absurd rfl unbroken

/-! ## Stages and the direct definition -/

theorem replaceFirstSegment_eq (reference : ReferenceName) (replacement : String) :
    reference.replaceFirstSegment replacement =
      ⟨Text.joined replacement (Text.segments reference.text).tail, reference.language⟩ := by
  rw [← reference.text_replaceFirstSegment]
  rfl

theorem expandAlias_eq (request : Request) :
    expandAlias request =
      request.withReference ⟨aliased request.file request.reference.text, request.language⟩ := by
  have same_target : (do
      let aliases ← request.file.aliases
      let first ← request.reference.firstSegment?
      aliases.get? first) =
      (Text.segments request.reference.text).head?.bind fun first =>
        request.file.aliases.bind (·.get? first) := by
    rw [ReferenceName.firstSegment?, ReferenceName.segments]
    cases request.file.aliases <;> cases (Text.segments request.reference.text).head? <;> rfl
  simp only [expandAlias, aliased, same_target]
  cases (Text.segments request.reference.text).head?.bind fun first =>
      request.file.aliases.bind (·.get? first) with
  | some target =>
      simp only [replaceFirstSegment_eq]
      rfl
  | none => rfl

theorem importedName?_eq_some_iff {imported name : String} :
    importedName? imported = some name ↔ bringsIn imported name = true := by
  simp only [importedName?, bringsIn, Text.lastSegment_eq]
  cases (Text.segments imported).getLast? with
  | none => simp
  | some last =>
      by_cases same : last = name
      · subst same
        simp [not_or, and_comm]
      · simp [same]

theorem importedReference?_eq (request : Request) :
    importedReference? request =
      (imported? request.file request.reference.text).map (⟨·, request.language⟩) := by
  have same_test : ∀ first, (fun imported => importedName? imported == some first) =
      (bringsIn · first) := by
    intro first
    funext imported
    rw [Bool.eq_iff_iff, beq_iff_eq]
    exact importedName?_eq_some_iff
  simp only [importedReference?, imported?, ReferenceName.firstSegment?, ReferenceName.segments,
    same_test]
  cases (Text.segments request.reference.text).head? with
  | none => rfl
  | some first =>
      cases found : request.file.imports.find? (bringsIn · first) with
      | none => simp [found]
      | some imported => simp [found, replaceFirstSegment_eq, Request.language]

/-- The candidates that are declared, in the same order. -/
theorem find?_candidates (request : Request) (names : List DeclaredName) :
    ((candidates request).find? fun candidate =>
        isDeclared names candidate.language candidate.text) =
      (declared? request.file request.language names request.reference.text).map
        (⟨·, request.language⟩) := by
  by_cases unnamed : request.file.package.text = ""
  · have only : candidates request = [⟨request.reference.text, request.language⟩] := by
      simp [candidates, PackageName.isDefault, unnamed, Request.language]
    simp only [only, declared?, unnamed, List.find?_cons, List.find?_nil, ne_eq, not_true_eq_false,
      false_and, if_false]
    cases isDeclared names request.language request.reference.text <;> rfl
  · have both : candidates request = [⟨request.reference.text, request.language⟩,
        ⟨Text.trim (Text.joined request.file.package.text (Text.segments request.reference.text)),
          request.language⟩] := by
      simp [candidates, PackageName.isDefault, unnamed, Request.language, PackageName.append,
        Text.appendSegments_of_ne unnamed, ReferenceName.segments, ReferenceName.ofText]
    simp only [both, declared?, unnamed, List.find?_cons, List.find?_nil, ne_eq,
      not_false_eq_true, true_and]
    cases isDeclared names request.language request.reference.text with
    | true => rfl
    | false =>
        cases isDeclared names request.language
          (Text.trim (Text.joined request.file.package.text
            (Text.segments request.reference.text))) <;> rfl

/-! ## What the stages come to -/

/-- Ends with what has been found, if anything, and otherwise as given. -/
def foundOr (found : Answer) (otherwise : Ending Answer) : Ending Answer :=
  match found with
  | some reference => .finished (.ok (some reference))
  | none => otherwise

theorem foundOr_finished (found other : Answer) :
    foundOr found (.finished (.ok other)) = .finished (.ok (found.or other)) := by
  cases found <;> rfl

/-- Declarations can be relied on: their cells are trusted, all sources succeed, and the lists of
the sources make up the given names. Without declarations there are no names. -/
inductive Supplies (trusted : Nat → Prop) (shown : Nat → Outcome Payload) :
    Option (Collection DeclaredName) → List DeclaredName → Prop
  | absent : Supplies trusted shown none []
  | present {declarations : Collection DeclaredName} {names : List DeclaredName}
      (merged_trusted : trusted declarations.merged)
      (sources_trusted : ∀ source ∈ declarations.sources, trusted source.cell)
      (succeed : Collection.members shown declarations.sources = .ok names)
      (merged_shown : shown declarations.merged = .ok (Listed.wrap (distinct names))) :
      Supplies trusted shown (some declarations) names

/-- Nothing changes for declarations if a later cell is trusted, too. -/
theorem Supplies.extend {trusted : Nat → Prop} {shown : Nat → Outcome Payload}
    {declarations : Option (Collection DeclaredName)} {names : List DeclaredName}
    (supplies : Supplies trusted shown declarations names) {bound : Nat}
    (inside : ∀ cell, trusted cell → cell < bound) (outcome : Outcome Payload) :
    Supplies (fun cell => trusted cell ∨ cell = bound)
      (fun cell => if cell = bound then outcome else shown cell) declarations names := by
  have same : ∀ cell, trusted cell → (if cell = bound then outcome else shown cell) = shown cell :=
    fun cell is_trusted => if_neg (Nat.ne_of_lt (inside cell is_trusted))
  cases supplies with
  | absent => exact .absent
  | present merged_trusted sources_trusted succeed merged_shown =>
      refine .present (.inl merged_trusted)
        (fun source member => .inl (sources_trusted source member)) ?_ ?_
      · rw [← succeed]
        exact Collection.members_congr fun source member => same _ (sources_trusted source member)
      · rw [same _ merged_trusted, merged_shown]

section Meanings

variable {trusted : Nat → Prop} {shown : Nat → Outcome Payload} {request : Request}
  {next : Request → Resolving} {ending : Ending Answer}

theorem semanticBinding_means (means : (next request).Means shown ending) :
    (StageKind.semanticBinding.intercept request next).Means shown
      ((request.consultation?.bind
        (bound? request.file request.language request.written)).getD ending) := by
  cases consulted : request.consultation? with
  | none =>
      rw [intercept_unconsulted consulted]
      exact means
  | some consultation =>
      obtain ⟨node, noted⟩ := intercept_consulted consulted next
      rw [noted]
      cases consultation with
      | breakOff => rfl
      | failure error => cases error <;> rfl
      | answer value =>
          rcases value with _ | (declared | name)
          · exact means
          · by_cases visible : declared.visibleFrom request.language = true
            · simp [Computation.Means, useConsultation, boundReference?, DeclaredName.toReference?,
                bound?, visible, Resolving.answer, ReferenceName.ofText]
            · simpa [Computation.Means, useConsultation, boundReference?,
                DeclaredName.toReference?, bound?, visible] using means
          · rfl

theorem explicitImport_means (means : (next request).Means shown ending) :
    (StageKind.explicitImport.intercept request next).Means shown
      (foundOr ((imported? request.file request.reference.text).map (⟨·, request.language⟩))
        ending) := by
  simp only [StageKind.intercept, importedReference?_eq]
  cases imported? request.file request.reference.text with
  | some text => rfl
  | none => exact means

theorem denotedBy_respects (candidate : ReferenceName) (left right : DeclaredName)
    (same : (left == right) = true) : left.denotedBy candidate = right.denotedBy candidate := by
  simp only [DeclaredName.beq_def, Bool.and_eq_true, beq_iff_eq] at same
  simp only [DeclaredName.denotedBy, DeclaredName.visibleFrom, same.1, same.2]

/-- A search among declarations comes to the first candidate that is declared. -/
theorem lookUp_means {declarations : Collection DeclaredName} {names : List DeclaredName}
    (succeed : Collection.members shown declarations.sources = .ok names)
    (merged : shown declarations.merged = .ok (Listed.wrap (distinct names)))
    {otherwise : Resolving} (means : otherwise.Means shown ending)
    (candidates : List ReferenceName) :
    (lookUp declarations otherwise candidates).Means shown
      (foundOr (candidates.find? fun candidate =>
        isDeclared names candidate.language candidate.text) ending) := by
  induction candidates with
  | nil => exact means
  | cons candidate candidates ih =>
      have searched := Collection.first?_means (ε := Event) (denotedBy_respects candidate) succeed
        merged
      refine searched.andThen ?_
      have any_eq : isDeclared names candidate.language candidate.text =
          (names.find? fun declared => declared.denotedBy candidate).isSome :=
        (List.isSome_find? ..).symm
      rw [List.find?_cons, any_eq]
      cases names.find? fun declared => declared.denotedBy candidate with
      | some found => rfl
      | none => exact ih

theorem declarationLookup_means {names : List DeclaredName}
    (supplies : Supplies trusted shown request.declarations names)
    (means : (next request).Means shown ending) :
    (StageKind.declarationLookup.intercept request next).Means shown
      (foundOr ((declared? request.file request.language names request.reference.text).map
        (⟨·, request.language⟩)) ending) := by
  rw [← find?_candidates]
  simp only [StageKind.intercept]
  generalize request.declarations = declarations? at supplies
  cases supplies with
  | absent =>
      have none_found : ((candidates request).find? fun candidate =>
          isDeclared [] candidate.language candidate.text) = none := by
        simp [isDeclared]
      rw [none_found]
      exact means
  | present _ _ succeed merged_shown => exact lookUp_means succeed merged_shown means _

theorem stdlib_means (means : (next request).Means shown ending) :
    (StageKind.stdlib.intercept request next).Means shown
      (foundOr (((request.stdlib request.reference.text).map Text.trim).map
        (⟨·, request.language⟩)) ending) := by
  simp only [StageKind.intercept]
  cases request.stdlib request.reference.text with
  | some qualified => rfl
  | none => exact means

/-- The stages after the alias come to what the words of the reference refer to, unless the semantic
bindings have decided. -/
theorem later_means (request : Request) {names : List DeclaredName}
    (supplies : Supplies trusted shown request.declarations names) :
    (StageKind.semanticBinding.intercept request fun request =>
      StageKind.explicitImport.intercept request fun request =>
        StageKind.declarationLookup.intercept request fun request =>
          StageKind.stdlib.intercept request fun _ => .answer none).Means shown
      ((request.consultation?.bind
        (bound? request.file request.language request.written)).getD
        (.finished (.ok ((named? request.file request.language request.stdlib names
          request.reference.text).map (⟨·, request.language⟩))))) := by
  refine semanticBinding_means ?_
  have looked_up : (StageKind.declarationLookup.intercept request fun request =>
      StageKind.stdlib.intercept request fun _ => .answer none).Means shown _ :=
    declarationLookup_means supplies (stdlib_means rfl)
  have in_turn : (StageKind.explicitImport.intercept request fun request =>
      StageKind.declarationLookup.intercept request fun request =>
        StageKind.stdlib.intercept request fun _ => .answer none).Means shown _ :=
    explicitImport_means looked_up
  rwa [foundOr_finished, foundOr_finished, foundOr_finished, Option.or_none, ← Option.map_or,
    ← Option.map_or] at in_turn

end Meanings

/-- The usual chain comes to what the direct definition says. -/
theorem chain_means {trusted : Nat → Prop} {shown : Nat → Outcome Payload} (resolver : Resolver)
    (file : FileContext) (text : String) (language : Language) (node : Option SyntaxNode)
    {names : List DeclaredName} (supplies : Supplies trusted shown resolver.declarations names) :
    let request := resolver.request file text language node
    (Chain.run (StageKind.defaultChain.map StageKind.stage) request).Means shown
      (directEnding file text language resolver.stdlib request.consultation? names) := by
  intro request
  have nested : Chain.run (StageKind.defaultChain.map StageKind.stage) request =
      StageKind.semanticBinding.intercept (expandAlias request) fun request =>
        StageKind.explicitImport.intercept request fun request =>
          StageKind.declarationLookup.intercept request fun request =>
            StageKind.stdlib.intercept request fun _ => .answer none := rfl
  have same_declarations : (expandAlias request).declarations = resolver.declarations := by
    rw [expandAlias_eq]
    rfl
  have later := later_means (expandAlias request) (same_declarations ▸ supplies)
  rw [← nested, expandAlias_eq] at later
  simpa only [directEnding, request, Resolver.request, Request.ofText, ReferenceName.ofText,
    Request.withReference, Request.language, Request.consultation?] using later

/-! ## Resolving -/

/-- All sources of the declarations succeed as soon as the given gates are open, and their lists
make up the given names. -/
def Supplied (store : Store Event Payload) (opened : String → Prop)
    (declarations : Option (Collection DeclaredName)) (names : List DeclaredName) : Prop :=
  ∃ trusted shown, store.Tells trusted opened shown ∧
    (∀ cell, trusted cell → cell < store.size) ∧ Supplies trusted shown declarations names

/-- Without declarations nothing has to be relied on. -/
theorem supplied_absent (store : Store Event Payload) (opened : String → Prop) :
    Supplied store opened none [] :=
  ⟨_, fun _ => .error .brokenOff, store.tells_nothing opened _, fun _ => False.elim, .absent⟩

/-- The merged list of a new collection comes to what its sources come to. -/
theorem tells_build {store : Store Event Payload} {trusted : Nat → Prop}
    {opened : String → Prop} {shown : Nat → Outcome Payload}
    (tells : store.Tells trusted opened shown)
    (inside : ∀ cell, trusted cell → cell < store.size)
    {registered : List (Source DeclaredName)}
    (sources_trusted : ∀ source ∈ registered, trusted source.cell) :
    (Collection.build store registered).2.Tells (fun cell => trusted cell ∨ cell = store.size)
        opened (fun cell => if cell = store.size then
          (Collection.members shown (Collection.arrange registered)).map
            fun items => Listed.wrap (distinct items)
        else shown cell) ∧
      ∀ cell, trusted cell ∨ cell = store.size →
        cell < (Collection.build store registered).2.size := by
  have within : (Collection.mergeWork (ε := Event) (ν := Payload)
      (Collection.arrange registered)).Within (relying trusted opened store.size) := by
    refine Collection.mergeWork_within (fun _ _ => trivial) fun source member => ?_
    have is_trusted := sources_trusted source (Collection.mem_arrange.mp member)
    exact ⟨is_trusted, inside _ is_trusted⟩
  exact ⟨tells.extend inside within (Collection.mergeWork_means _) rfl _,
    Store.inside_defer inside _ _⟩

/-- A collection that is built from sources that succeed supplies their names. -/
theorem supplied_build {store : Store Event Payload} {trusted : Nat → Prop}
    {opened : String → Prop} {shown : Nat → Outcome Payload}
    (tells : store.Tells trusted opened shown)
    (inside : ∀ cell, trusted cell → cell < store.size)
    {registered : List (Source DeclaredName)}
    (sources_trusted : ∀ source ∈ registered, trusted source.cell) {names : List DeclaredName}
    (succeed : Collection.members shown (Collection.arrange registered) = .ok names) :
    let built := Collection.build store registered
    Supplied built.2 opened (some built.1) names := by
  have arranged_trusted : ∀ source ∈ Collection.arrange registered, trusted source.cell :=
    fun source member => sources_trusted source (Collection.mem_arrange.mp member)
  obtain ⟨built_tells, built_inside⟩ := tells_build tells inside sources_trusted
  refine ⟨_, _, built_tells, built_inside, ?_⟩
  refine .present (.inr rfl) (fun source member => .inl (arranged_trusted source member)) ?_ ?_
  · rw [← succeed]
    refine Collection.members_congr fun source member => if_neg ?_
    exact Nat.ne_of_lt (inside _ (arranged_trusted source member))
  · refine (if_pos rfl).trans ?_
    rw [succeed]
    rfl

/-- A chain of built-in stages relies on the declarations of its request. -/
theorem chain_relies {kinds : List StageKind} {trusted : Nat → Prop}
    {shown : Nat → Outcome Payload} {request : Request} {names : List DeclaredName}
    (supplies : Supplies trusted shown request.declarations names) {bound : Nat}
    (inside : ∀ cell, trusted cell → cell < bound) (opened : String → Prop) :
    (Chain.run (kinds.map StageKind.stage) request).Within (relying trusted opened bound) := by
  refine chain_within _ ⟨fun _ => trivial, ?_, ?_, fun _ => trivial⟩
  · intro declarations found
    have supplied : Supplies trusted shown (some declarations) names := found ▸ supplies
    cases supplied with
    | present merged_trusted _ _ _ => exact merged_trusted
  · intro declarations found source member
    have supplied : Supplies trusted shown (some declarations) names := found ▸ supplies
    cases supplied with
    | present _ sources_trusted _ _ =>
        have is_trusted := sources_trusted source member
        exact ⟨is_trusted, inside _ is_trusted⟩

namespace Resolver

section Ends

variable {work : Resolving} {world : World} {trusted : Nat → Prop} {opened : String → Prop}
  {shown : Nat → Outcome Payload} {declarations : Option (Collection DeclaredName)}
  {names : List DeclaredName} {ending : Ending Answer}

/-- A course that relies on trusted cells is held up by gates or ends as it should, and declarations
stay supplied. -/
theorem runDirectly_ends (tells : world.store.Tells trusted opened shown)
    (inside : ∀ cell, trusted cell → cell < world.store.size)
    (supplies : Supplies trusted shown declarations names)
    (within : work.Within (relying trusted opened world.store.size))
    (means : work.Means shown ending) :
    let ended := runDirectly work world
    (ended.1 = .waiting ∨ ended.1 = ending) ∧
      ((∀ gate, opened gate → world.store.isOpen gate = true) → ended.1 = ending) ∧
      Supplied ended.2.store opened declarations names := by
  obtain ⟨still_tells, rest_means⟩ := tells.run within means
  have still_inside : ∀ cell, trusted cell → cell < (world.store.run work).2.size := by
    rw [Store.size_run]
    exact inside
  refine ⟨?_, fun gates => tells.run_progress gates within means,
    ⟨trusted, shown, still_tells, still_inside, supplies⟩⟩
  by_cases waiting : (world.store.run work).1.progress = .waiting
  · exact .inl waiting
  · exact .inr (rest_means.progress_eq waiting)

/-- A course that is left to a new cell ends in the same way for those who wait for the cell. -/
theorem kept_ends (tells : world.store.Tells trusted opened shown)
    (inside : ∀ cell, trusted cell → cell < world.store.size)
    (supplies : Supplies trusted shown declarations names)
    (within : work.Within (relying trusted opened world.store.size))
    (means : work.Means shown ending) (needed : List Nat) (caches : List Cache) :
    let ended := runDirectly ((Computation.outcomeOf world.store.size).mapOk Payload.toAnswer)
      ⟨(world.store.defer (work.mapOk Payload.answer) needed).2, caches⟩
    (ended.1 = .waiting ∨ ended.1 = ending.guarded) ∧
      ((∀ gate, opened gate → world.store.isOpen gate = true) → ended.1 = ending.guarded) ∧
      Supplied ended.2.store opened declarations names := by
  obtain ⟨outcome, kept, guarded, kept_means, kept_guarded⟩ := means.kept Payload.answer
  let later_shown (cell : Nat) : Outcome Payload :=
    if cell = world.store.size then outcome.map Payload.answer else shown cell
  have kept_within := Computation.within_mapOk within Payload.answer
  have later_tells := tells.extend inside kept_within kept_means kept_guarded needed
  have later_inside := Store.inside_defer inside (work.mapOk Payload.answer) needed
  have comes_to : ((Computation.outcomeOf world.store.size).mapOk Payload.toAnswer :
      Resolving).Means later_shown ending.guarded := by
    have unwrapped : (later_shown world.store.size).map Payload.toAnswer = outcome := by
      simp only [later_shown, if_true]
      cases outcome <;> rfl
    rw [guarded, ← unwrapped]
    exact (Computation.means_outcomeOf world.store.size).mapOk Payload.toAnswer
  refine runDirectly_ends later_tells later_inside (supplies.extend inside _) ?_ comes_to
  refine Computation.within_mapOk (Computation.outcomeOf_within world.store.size ?_) _
  exact ⟨.inr rfl, later_inside _ (.inr rfl)⟩

end Ends

/-- The usual chain comes to what the direct definition says, unless a closed gate holds up a source
of declarations. A cache makes a difference only to semantic bindings that break off. -/
theorem default_precedence (resolver : Resolver)
    (usual : resolver.stages = StageKind.defaultChain.map StageKind.stage) (file : FileContext)
    (text : String) (language : Language) (node : Option SyntaxNode) (world : World)
    {opened : String → Prop} {names : List DeclaredName}
    (supplied : Supplied world.store opened resolver.declarations names)
    (unanswered : ∀ cache, resolver.cache? world = some cache →
      cache.cell? (keyOf (resolver.request file text language node)) = none) :
    let request := resolver.request file text language node
    let ended := resolver.dispatch request world
    let direct := directEnding file text language resolver.stdlib request.consultation? names
    let expected := if resolver.cache.isSome then direct.guarded else direct
    (ended.1 = .waiting ∨ ended.1 = expected) ∧
      ((∀ gate, opened gate → world.store.isOpen gate = true) → ended.1 = expected) ∧
      Supplied ended.2.store opened resolver.declarations names ∧
      (request.consultation? ≠ some .breakOff → expected = direct) := by
  intro request ended direct expected
  obtain ⟨trusted, shown, tells, inside, supplies⟩ := supplied
  have means := chain_means resolver file text language node supplies
  have within : (Chain.run (StageKind.defaultChain.map StageKind.stage) request).Within
      (relying trusted opened world.store.size) := chain_relies supplies inside opened
  have unbroken : request.consultation? ≠ some .breakOff → expected = direct := by
    intro answered
    have same : direct.guarded = direct := guarded_directEnding file text language _ answered names
    simp only [expected, same, ite_self]
  suffices ends : (ended.1 = .waiting ∨ ended.1 = expected) ∧
      ((∀ gate, opened gate → world.store.isOpen gate = true) → ended.1 = expected) ∧
      Supplied ended.2.store opened resolver.declarations names from
    ⟨ends.1, ends.2.1, ends.2.2, unbroken⟩
  cases cached : resolver.cache with
  | none =>
      have ended_eq : ended =
          runDirectly (Chain.run (StageKind.defaultChain.map StageKind.stage) request) world := by
        simp only [ended, dispatch, cached, usual]
      have expected_eq : expected = direct := by
        simp [expected, cached]
      rw [ended_eq, expected_eq]
      exact runDirectly_ends tells inside supplies within means
  | some number =>
      have absent : (world.caches[number]?.getD .empty).cell? (keyOf request) = none := by
        cases found : world.caches[number]? with
        | none => rfl
        | some cache => exact unanswered cache (by simp [cache?, cached, found])
      have expected_eq : expected = direct.guarded := by
        simp [expected, cached]
      have ended_eq : ended = runDirectly
          ((Computation.outcomeOf world.store.size).mapOk Payload.toAnswer)
          ⟨(world.store.defer ((Chain.run (StageKind.defaultChain.map StageKind.stage)
              request).mapOk Payload.answer) (neededBy request)).2,
            world.caches.set number ⟨(keyOf request, world.store.size) ::
              (world.caches[number]?.getD .empty).entries⟩⟩ := by
        simp only [ended, dispatch, cached, usual, Cache.request_of_absent absent]
      rw [ended_eq, expected_eq]
      exact kept_ends tells inside supplies within means _ _

/-- An alias stands for a name that is declared in the package of the file. Without declarations the
standard library is asked about it. -/
theorem default_precedence_alias :
    let foo : DeclaredName :=
      ⟨⟨"app"⟩, [⟨"Foo", by decide⟩], .singleton .kotlin, "app.Foo", List.cons_ne_nil _ _⟩
    let reading : Computation Event Payload (Outcome Payload) :=
      .pass "disk" (.finish (.ok (.declarations [foo])))
    let source := (Store.empty.openGate "disk").defer reading []
    let built := Collection.build source.2 [⟨.normal, source.1, none⟩]
    let world : World := ⟨built.2, [.empty]⟩
    let stdlib : StdlibLookup := fun text => if text = "Foo" then some "kotlin.Foo" else none
    let resolver : Resolver := ⟨StageKind.defaultChain.map StageKind.stage, stdlib, none,
      some built.1, some 0⟩
    let file : FileContext := ⟨⟨"file:a"⟩, "a.kt", ⟨"app"⟩, .kotlin,
      some (TextTable.empty.insert "F" "Foo"), ["lib.Bar"]⟩
    (resolver.resolve file " F " .kotlin world).1 =
        .finished (.ok (some ⟨"app.Foo", .kotlin⟩)) ∧
      ({ resolver with declarations := none }.resolve file " F " .kotlin world).1 =
        .finished (.ok (some ⟨"kotlin.Foo", .kotlin⟩)) := by
  intro foo reading source built world stdlib resolver file
  have within : reading.Within (relying (fun _ => False) (· = "disk") 0) := ⟨rfl, trivial⟩
  have means : reading.Means (fun _ => .error .brokenOff) (.finished (.ok (.declarations [foo]))) :=
    rfl
  have tells := (Store.tells_nothing (Store.empty.openGate "disk") (· = "disk") _).extend
    (fun _ => False.elim) within means rfl []
  have supplied : Supplied world.store (· = "disk") (some built.1) [foo] := by
    refine supplied_build tells ?_ ?_ rfl
    · exact Store.inside_defer (fun _ => False.elim) reading []
    · simp [source, Store.defer, Store.allocate]
  have gates : ∀ gate, gate = "disk" → world.store.isOpen gate = true := by
    rintro _ rfl
    rfl
  have new_key : ∀ cache, world.caches[0]? = some cache → ∀ key, cache.cell? key = none := by
    intro cache found key
    obtain rfl : Cache.empty = cache := Option.some.inj found
    rfl
  constructor
  · have named : named? file .kotlin stdlib [foo] (aliased file (Text.trim " F ")) =
        some "app.Foo" := by decide +kernel
    have direct : directEnding file " F " .kotlin stdlib none [foo] =
        .finished (.ok (some ⟨"app.Foo", .kotlin⟩)) := by
      simp only [directEnding, named, Option.bind_none, Option.getD_none, Option.map_some]
    have resolved := (default_precedence resolver rfl file " F " .kotlin none world supplied
      fun cache found => new_key cache found _).2.1 gates
    exact resolved.trans (congrArg Computation.Progress.guarded direct)
  · have named : named? file .kotlin stdlib [] (aliased file (Text.trim " F ")) =
        some "kotlin.Foo" := by decide +kernel
    have direct : directEnding file " F " .kotlin stdlib none [] =
        .finished (.ok (some ⟨"kotlin.Foo", .kotlin⟩)) := by
      simp only [directEnding, named, Option.bind_none, Option.getD_none, Option.map_some]
    have resolved := (default_precedence { resolver with declarations := none } rfl file " F "
      .kotlin none world (supplied_absent _ fun _ => False)
      fun cache found => new_key cache found _).2.1 fun _ => False.elim
    exact resolved.trans (congrArg Computation.Progress.guarded direct)

end Resolver

end Resolution

end SymbolResolver
