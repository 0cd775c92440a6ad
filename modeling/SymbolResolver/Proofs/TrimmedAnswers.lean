import SymbolResolver.Proofs.BuiltInChains
import SymbolResolver.Proofs.DottedNames
import SymbolResolver.Proofs.RetainedEntries

/-!
# Answers that survive

The answer of a chain of built-in stages is the text of the request, perhaps with another text in
front, or it has been made from a text without blanks around it. It survives if the aliases and the
imports of the file bring no blank to an end (`chain_surviving`). Caches hand out answers of such
chains only, so this is so for all that resolvers answer, one call after the other
(`World.Vouched.callAll`).
-/

namespace SymbolResolver

namespace Lazy

variable {ε ν α β : Type}

/-- Whatever a computation waits for, it ends with a result of a kind if it ends. -/
def Computation.EndsIn (Good : α → Prop) : Computation ε ν α → Prop
  | finish result => Good result
  | breakOff => True
  | note _ next | pass _ next | start _ next => next.EndsIn Good
  | await _ next => ∀ outcome, (next outcome).EndsIn Good
  | peek _ next => ∀ seen, (next seen).EndsIn Good

namespace Computation

theorem endsIn_andThen {work : Computation ε ν (Outcome α)}
    {next : α → Computation ε ν (Outcome β)} {Good : Outcome β → Prop}
    (failed : ∀ error, Good (.error error)) (continued : ∀ value, (next value).EndsIn Good) :
    (work.andThen next).EndsIn Good := by
  induction work with
  | finish outcome =>
      cases outcome with
      | ok value => exact continued value
      | error error => exact failed error
  | breakOff => trivial
  | note event work ih => exact ih
  | pass gate work ih => exact ih
  | start cell work ih => exact ih
  | await cell work ih => exact fun outcome => ih outcome
  | peek cell work ih => exact fun seen => ih seen

theorem EndsIn.of_progress {work : Computation ε ν α} {Good : α → Prop} (ends : work.EndsIn Good)
    {result : α} (finished : work.progress = .finished result) : Good result := by
  cases work with
  | finish outcome =>
      cases finished
      exact ends
  | breakOff | note | pass | start | await | peek => cases finished

end Computation

theorem Store.Runs.endsIn {store : Store ε ν} {firm : Nat → Prop} {work rest : Computation ε ν α}
    {trace : List ε} (run : store.Runs firm work trace rest) {Good : α → Prop}
    (ends : work.EndsIn Good) : rest.EndsIn Good := by
  induction run with
  | stay work => exact ends
  | note _ ih => exact ih ends
  | pass _ _ ih => exact ih ends
  | start _ ih => exact ih ends
  | await _ _ ih => exact ih (ends _)
  | peek _ _ ih => exact ih (ends _)

theorem Store.run_endsIn (store : Store ε ν) {work : Computation ε ν α} {Good : α → Prop}
    (ends : work.EndsIn Good) : (store.run work).1.EndsIn Good := by
  have silent : store.Within fun _ => silence fun _ => false :=
    fun _ state _ => state.within_unmarked
  obtain ⟨trace, -, run⟩ := Store.run_notes silent work
  exact run.endsIn ends

end Lazy

namespace Resolution

open Lazy Json

/-! ## What stages answer -/

/-- The references that a stage may answer a request with. -/
inductive StageKind.Proposes (request : Request) : StageKind → ReferenceName → Prop
  | bound {target : BindingValue} {reference : ReferenceName} :
      boundReference? request.language target = some reference →
        Proposes request semanticBinding reference
  | imported {reference : ReferenceName} : importedReference? request = some reference →
      Proposes request explicitImport reference
  | declared {candidate : ReferenceName} : candidate ∈ candidates request →
      Proposes request declarationLookup candidate
  | standard (qualified : String) :
      Proposes request stdlib (.ofText qualified request.language)

section Ends

variable {Good : Outcome Answer → Prop} (failed : ∀ error, Good (.error error))

include failed

theorem lookUp_endsIn (declarations : Collection DeclaredName) {otherwise : Resolving}
    (ends : otherwise.EndsIn Good) {candidates : List ReferenceName}
    (good : ∀ candidate ∈ candidates, Good (.ok (some candidate))) :
    (lookUp declarations otherwise candidates).EndsIn Good := by
  induction candidates with
  | nil => exact ends
  | cons candidate candidates ih =>
      rw [List.forall_mem_cons] at good
      apply Computation.endsIn_andThen failed
      intro found
      cases found with
      | some declared => exact good.1
      | none => exact ih good.2

/-- Whatever a stage meets, it fails, answers with a reference that it proposes, or leaves the end to
the rest of the chain. -/
theorem intercept_endsIn (kind : StageKind) {request : Request} {next : Request → Resolving}
    (proposed : ∀ reference, kind.Proposes request reference → Good (.ok (some reference)))
    (same_ends : (next request).EndsIn Good)
    (expanded_ends : (next (expandAlias request)).EndsIn Good) :
    (kind.intercept request next).EndsIn Good := by
  cases kind with
  | importAlias => exact expanded_ends
  | semanticBinding =>
      simp only [StageKind.intercept]
      split
      · rename_i binding node _ _
        simp only [Computation.EndsIn]
        cases binding.consult node with
        | answer value =>
            simp only [useConsultation]
            split
            · rename_i reference found
              obtain ⟨target, -, bound⟩ := Option.bind_eq_some_iff.mp found
              exact proposed reference (.bound bound)
            · exact same_ends
        | failure error => exact failed _
        | breakOff => trivial
      · exact same_ends
  | explicitImport =>
      simp only [StageKind.intercept]
      split
      · rename_i reference found
        exact proposed reference (.imported found)
      · exact same_ends
  | declarationLookup =>
      simp only [StageKind.intercept]
      split
      · exact lookUp_endsIn failed _ same_ends fun candidate among =>
          proposed candidate (.declared among)
      · exact same_ends
  | stdlib =>
      simp only [StageKind.intercept]
      split
      · exact proposed _ (.standard _)
      · exact same_ends

end Ends

/-! ## Chains -/

/-- What a request answers survives. -/
def Surviving (outcome : Outcome Answer) : Prop :=
  ∀ reference, outcome = .ok (some reference) → reference.Survives

theorem surviving_error (error : Error) : Surviving (.error error) := nofun

theorem surviving_none : Surviving (.ok none) := nofun

theorem surviving_some {reference : ReferenceName} (survives : reference.Survives) :
    Surviving (.ok (some reference)) := by
  rintro _ ⟨⟩
  exact survives

end Resolution

/-- The targets of aliases are not empty and have no blanks around them, and no import begins with a
blank. -/
structure FileContext.Neat (file : FileContext) : Prop where
  aliases : ∀ table, file.aliases = some table → ∀ name target, table.get? name = some target →
    target ≠ "" ∧ Text.trim target = target
  imports : ∀ imported ∈ file.imports, Text.startsBlank imported.toList = false

namespace Resolution

open Lazy Json

/-- A request in a neat file, for a reference that survives. -/
structure Request.Neat (request : Request) : Prop where
  file : request.file.Neat
  reference : request.reference.Survives

theorem Resolver.request_neat (resolver : Resolver) {file : FileContext} (neat : file.Neat)
    (text : String) (language : Language) (node : Option SyntaxNode) :
    (resolver.request file text language node).Neat :=
  ⟨neat, ReferenceName.survives_ofText text language⟩

theorem expandAlias_neat {request : Request} (neat : request.Neat) :
    (expandAlias request).Neat := by
  simp only [expandAlias]
  split
  · rename_i target found
    obtain ⟨table, has_table, more⟩ := Option.bind_eq_some_iff.mp found
    obtain ⟨first, -, get⟩ := Option.bind_eq_some_iff.mp more
    obtain ⟨present, trimmed⟩ := neat.file.aliases table has_table first target get
    refine ⟨neat.file, ?_⟩
    apply (ReferenceName.survives_replaceFirstSegment_iff neat.reference target).mpr
    rw [ReferenceEdit.Careful]
    split
    · exact trimmed
    · rw [if_neg present]
      exact (Text.trim_eq_iff.mp trimmed).1
  · exact neat

/-- A text without separators is its own first segment. -/
theorem eq_of_afterFirst?_none {text first : String} (uncut : Text.afterFirst? text = none)
    (head : (Text.segments text).head? = some first) : text = first := by
  rw [Text.afterFirst?_eq] at uncut
  split at uncut
  · rename_i alone
    obtain ⟨rest, segments_eq⟩ := List.head?_eq_some_iff.mp head
    rw [segments_eq, List.tail_cons] at alone
    rw [← Text.intercalate_segments text, segments_eq, alone, String.intercalate_singleton]
  · cases uncut

/-- An import ends with the first segment that it is put in the place of. -/
theorem importedReference_survives {request : Request} (neat : request.Neat)
    {reference : ReferenceName} (found : importedReference? request = some reference) :
    reference.Survives := by
  obtain ⟨first, head, more⟩ := Option.bind_eq_some_iff.mp found
  obtain ⟨imported, finds, same⟩ := Option.bind_eq_some_iff.mp more
  cases same
  have brings : importedName? imported = some first := by simpa using List.find?_some finds
  have solid_front := neat.file.imports imported (List.mem_of_find?_eq_some finds)
  have last_eq : Text.lastSegment imported = first ∧ first ≠ "" := by
    simp only [importedName?] at brings
    split at brings
    · cases brings
    · rename_i usable
      cases brings
      exact ⟨rfl, fun absent => usable (.inr absent)⟩
  apply (ReferenceName.survives_replaceFirstSegment_iff neat.reference imported).mpr
  rw [ReferenceEdit.Careful]
  split
  · -- The import takes the place of the whole text, which is its last segment and survives.
    rename_i uncut
    have whole := eq_of_afterFirst?_none uncut head
    have ends := (Text.trim_eq_iff.mp (ReferenceName.survives_iff.mp neat.reference)).2
    rw [Text.trim_eq_iff, ← Text.endsBlank_lastSegment, last_eq.1, ← whole]
    exact ⟨solid_front, ends⟩
  · have present : imported ≠ "" := by
      rintro rfl
      exact last_eq.2 last_eq.1.symm
    rw [if_neg present]
    exact solid_front

theorem candidates_survive {request : Request} (neat : request.Neat) :
    ∀ candidate ∈ candidates request, candidate.Survives := by
  have own := neat.reference
  unfold candidates
  simp only
  split
  · exact List.forall_mem_singleton.mpr own
  · exact List.forall_mem_cons.mpr
      ⟨own, List.forall_mem_singleton.mpr (ReferenceName.survives_ofText _ _)⟩

theorem boundReference_survives {language : Language} {target : BindingValue}
    {reference : ReferenceName} (bound : boundReference? language target = some reference) :
    reference.Survives := by
  cases target with
  | qualifiedName text =>
      cases bound
      exact ReferenceName.survives_ofText _ _
  | declaration declared =>
      simp only [boundReference?, DeclaredName.toReference?] at bound
      split at bound
      · cases bound
        exact ReferenceName.survives_ofText _ _
      · cases bound

theorem StageKind.Proposes.survives {kind : StageKind} {request : Request}
    {reference : ReferenceName} (proposed : kind.Proposes request reference)
    (neat : request.Neat) : reference.Survives := by
  cases proposed with
  | bound found => exact boundReference_survives found
  | imported found => exact importedReference_survives neat found
  | declared among => exact candidates_survive neat reference among
  | standard qualified => exact ReferenceName.survives_ofText qualified _

/-- Whatever the declarations, the semantic bindings and the standard library say, the answer to a
neat request survives. -/
theorem chain_surviving (kinds : List StageKind) {request : Request} (neat : request.Neat) :
    (Chain.run (kinds.map StageKind.stage) request).EndsIn Surviving := by
  induction kinds generalizing request with
  | nil => exact surviving_none
  | cons kind kinds ih =>
      rw [run_cons]
      exact intercept_endsIn surviving_error kind
        (fun _ proposed => surviving_some (proposed.survives neat)) (ih neat)
        (ih (expandAlias_neat neat))

/-! ## Caches -/

/-- Every entry of a cache has a cell that has come from a chain whose answers survive. -/
def World.Vouched (world : World) : Prop :=
  ∀ number key cell, (world.cacheAt number).cell? key = some cell → ∃ work : Resolving,
    work.EndsIn Surviving ∧ world.store.Comes cell (.pending (work.mapOk Payload.answer))

theorem World.vouched_of_empty {world : World} (empty : ∀ cache ∈ world.caches, cache = .empty) :
    world.Vouched := by
  intro number key cell found
  have nothing : world.cacheAt number = .empty := by
    rw [World.cacheAt]
    cases present : world.caches[number]? with
    | none => rfl
    | some cache => exact empty cache (List.mem_of_getElem? present)
  rw [nothing] at found
  cases found

/-- The end of a course of a chain whose answers survive. -/
theorem surviving_of_course {store : Store Event Payload} {work rest : Resolving}
    {trace : List Event} (ends : work.EndsIn Surviving)
    (run : store.Runs (fun _ => False) work trace rest) {outcome : Outcome Answer}
    (finished : rest.progress.guarded = .finished outcome) : Surviving outcome := by
  have rest_ends := run.endsIn ends
  cases rest with
  | finish result =>
      cases finished
      exact rest_ends
  | breakOff =>
      cases finished
      exact surviving_error _
  | note | pass | start | await | peek => cases finished

namespace World.Vouched

variable {world : World} {resolver : Resolver}

theorem originates (vouched : world.Vouched) (number : Nat) :
    world.Originates (fun _ work => work.EndsIn Surviving) number :=
  vouched number

theorem runDirectly (vouched : world.Vouched) (work : Resolving) :
    (Resolver.runDirectly work world).2.Vouched :=
  fun number => (vouched.originates number).runDirectly work

/-- What a request answers survives, and so does what its cache will hand out later. -/
theorem dispatch (vouched : world.Vouched) {asked : Request}
    (ends : (Chain.run resolver.stages asked).EndsIn Surviving) :
    (∀ outcome, (resolver.dispatch asked world).1 = .finished outcome → Surviving outcome) ∧
      (resolver.dispatch asked world).2.Vouched := by
  refine ⟨fun outcome finished => ?_,
    fun number => ((vouched.originates number).dispatch fun _ => ends).1⟩
  cases cached : resolver.cache with
  | none =>
      simp only [Resolver.dispatch, cached] at finished
      exact (world.store.run_endsIn ends).of_progress finished
  | some number =>
      obtain ⟨origin, origin_ends, trace, rest, run, ended⟩ :=
        ((vouched.originates number).dispatch fun _ => ends).2 cached outcome finished
      exact surviving_of_course origin_ends run ended

end World.Vouched

/-! ## Calls -/

/-- The stages of a resolver are built-in ones. -/
def Resolver.BuiltIn (resolver : Resolver) : Prop :=
  ∃ kinds : List StageKind, resolver.stages = kinds.map StageKind.stage

/-- The references of a summary. -/
def Summary.references (summary : Summary) : List ReferenceName :=
  summary.resolved.map ResolvedReference.written ++
    summary.resolved.map ResolvedReference.resolved ++ summary.unresolved

/-- A call is made for neat files, and the references that it brings survive. -/
def Call.Neat : Call → Prop
  | .resolve file _ _ => file.Neat
  | .resolveNode file _ _ => file.Neat
  | .resolveAll file references => file.Neat ∧ ∀ reference ∈ references, reference.Survives
  | .resolveTogether texts => ∀ entry ∈ texts, entry.1.Neat
  | .runChain stages request =>
    (∃ kinds : List StageKind, stages = kinds.map StageKind.stage) ∧ request.Neat
  | .peek _ | .invalidate _ | .clear => True

/-- All references in a reply survive. -/
def CallReply.Survives : CallReply → Prop
  | .answer ending => ∀ outcome, ending = .finished outcome → Surviving outcome
  | .answers endings =>
    ∀ ending ∈ endings, ∀ outcome, ending = .finished outcome → Surviving outcome
  | .summary ending => ∀ summary, ending = .finished (.ok summary) →
    ∀ reference ∈ summary.references, reference.Survives
  | .peeked outcome => ∀ found, outcome = some found → Surviving found
  | .removed _ | .cleared | .noCache => True

theorem World.andThen_finished {α β : Type} {ended : Ending α × World}
    {continuation : α → World → Ending β × World} {result : β}
    (finished : (World.andThen ended continuation).1 = .finished (.ok result)) :
    ∃ value, ended.1 = .finished (.ok value) ∧
      (continuation value ended.2).1 = .finished (.ok result) := by
  obtain ⟨ending, world⟩ := ended
  rcases ending with (error | value) | _ | _
  · cases finished
  · exact ⟨value, rfl, finished⟩
  · cases finished
  · cases finished

theorem Summary.references_ofAnswers {answers : List (ReferenceName × Answer)}
    {Good : ReferenceName → Prop} (written : ∀ entry ∈ answers, Good entry.1)
    (answered : ∀ entry ∈ answers, ∀ reference, entry.2 = some reference → Good reference) :
    ∀ reference ∈ (Summary.ofAnswers answers).references, Good reference := by
  intro reference member
  simp only [references, ofAnswers, List.mem_append, List.mem_map, List.mem_filterMap] at member
  rcases member with (⟨pair, ⟨entry, among, same⟩, rfl⟩ | ⟨pair, ⟨entry, among, same⟩, rfl⟩) |
    ⟨entry, among, same⟩
  · obtain ⟨found, -, rfl⟩ := Option.map_eq_some_iff.mp same
    exact written entry among
  · obtain ⟨found, is_answer, rfl⟩ := Option.map_eq_some_iff.mp same
    exact answered entry among found is_answer
  · split at same
    · cases same
      exact written entry among
    · cases same

namespace World.Vouched

variable {world : World} {resolver : Resolver}

theorem resolve (vouched : world.Vouched) (built_in : resolver.BuiltIn) {file : FileContext}
    (neat : file.Neat) (text : String) (language : Language) (node : Option SyntaxNode) :
    let ended := resolver.dispatch (resolver.request file text language node) world
    (∀ outcome, ended.1 = .finished outcome → Surviving outcome) ∧ ended.2.Vouched := by
  obtain ⟨kinds, stages_eq⟩ := built_in
  apply vouched.dispatch
  rw [stages_eq]
  exact chain_surviving kinds (resolver.request_neat neat text language node)

theorem resolveEach (vouched : world.Vouched) (built_in : resolver.BuiltIn) {file : FileContext}
    (neat : file.Neat) (references : List ReferenceName) :
    let ended := resolver.resolveEach file references world
    (∀ answers, ended.1 = .finished (.ok answers) → ∀ entry ∈ answers, entry.1 ∈ references ∧
      ∀ reference, entry.2 = some reference → reference.Survives) ∧ ended.2.Vouched := by
  induction references generalizing world with
  | nil =>
      refine ⟨?_, vouched⟩
      rintro answers ⟨⟩
      nofun
  | cons reference references ih =>
      obtain ⟨answer_survives, after⟩ :=
        vouched.resolve built_in neat reference.text reference.language none
      refine ⟨fun answers finished => ?_, ?_⟩
      · obtain ⟨answer, first_finished, more⟩ := World.andThen_finished finished
        obtain ⟨others, rest_finished, same⟩ := World.andThen_finished more
        cases same
        rw [List.forall_mem_cons]
        refine ⟨⟨List.mem_cons_self, fun found is_answer => ?_⟩, fun entry among => ?_⟩
        · exact answer_survives _ first_finished found (congrArg Except.ok is_answer)
        · obtain ⟨listed, survives⟩ := (ih after).1 others rest_finished entry among
          exact ⟨List.mem_cons_of_mem _ listed, survives⟩
      · apply World.andThen_keeps World.Vouched
        · exact after
        · intro answer world vouched
          apply World.andThen_keeps World.Vouched
          · exact (ih vouched).2
          · exact fun answers world vouched => vouched

theorem resolveTogether (vouched : world.Vouched) (built_in : resolver.BuiltIn)
    {texts : List (FileContext × String × Language)} (neat : ∀ entry ∈ texts, entry.1.Neat) :
    let ended := resolver.resolveTogether texts world
    (∀ ending ∈ ended.1, ∀ outcome, ending = .finished outcome → Surviving outcome) ∧
      ended.2.Vouched := by
  induction texts generalizing world with
  | nil => exact ⟨nofun, vouched⟩
  | cons entry texts ih =>
      rw [List.forall_mem_cons] at neat
      obtain ⟨first, after⟩ := vouched.resolve built_in neat.1 entry.2.1 entry.2.2 none
      obtain ⟨others, later⟩ := ih after neat.2
      exact ⟨List.forall_mem_cons.mpr ⟨first, others⟩, later⟩

theorem invalidate (vouched : world.Vouched) (file : FileId) :
    (resolver.invalidate file world).Vouched :=
  fun number => (vouched.originates number).invalidate resolver file

theorem clear (vouched : world.Vouched) : (resolver.clear world).Vouched :=
  fun number => (vouched.originates number).clear resolver

/-- All that a neat call answers survives. -/
theorem call (vouched : world.Vouched) (built_in : resolver.BuiltIn) {call : Call}
    (neat : call.Neat) :
    (resolver.call world call).1.Survives ∧ (resolver.call world call).2.Vouched := by
  cases call with
  | resolve file text language => exact vouched.resolve built_in neat text language none
  | resolveNode file node language => exact vouched.resolve built_in neat node.text language node
  | resolveAll file references =>
      obtain ⟨answers_survive, after⟩ := vouched.resolveEach built_in neat.1 references
      refine ⟨fun summary finished => ?_, ?_⟩
      · obtain ⟨answers, each_finished, same⟩ := World.andThen_finished finished
        cases same
        have of_each := answers_survive answers each_finished
        exact Summary.references_ofAnswers
          (fun entry among => neat.2 entry.1 (of_each entry among).1)
          fun entry among => (of_each entry among).2
      · apply World.andThen_keeps World.Vouched
        · exact after
        · exact fun answers world vouched => vouched
  | resolveTogether texts => exact vouched.resolveTogether built_in neat
  | runChain stages request =>
      obtain ⟨⟨kinds, rfl⟩, request_neat⟩ := neat
      have ends := chain_surviving kinds request_neat
      exact ⟨fun outcome finished => (world.store.run_endsIn ends).of_progress finished,
        vouched.runDirectly _⟩
  | peek key =>
      simp only [Resolver.call]
      split
      · rename_i cache found
        refine ⟨?_, vouched⟩
        intro outcome peeked
        obtain ⟨stored, is_stored, rfl⟩ := Option.map_eq_some_iff.mp peeked
        obtain ⟨cell, has_entry, known⟩ := Option.bind_eq_some_iff.mp is_stored
        obtain ⟨number, -, at_number⟩ := Option.bind_eq_some_iff.mp found
        have listed : (world.cacheAt number).cell? key = some cell := by
          rw [World.cacheAt, at_number]
          exact has_entry
        obtain ⟨work, ends, comes⟩ := vouched number key cell listed
        obtain ⟨trace, rest, run, ended⟩ := course_of_kept comes known
        exact surviving_of_course ends run ended
      · exact ⟨trivial, vouched⟩
  | invalidate file =>
      simp only [Resolver.call]
      split
      · exact ⟨trivial, vouched.invalidate file⟩
      · exact ⟨trivial, vouched⟩
  | clear =>
      simp only [Resolver.call]
      split
      · exact ⟨trivial, vouched.clear⟩
      · exact ⟨trivial, vouched⟩

theorem callAll (vouched : world.Vouched) {calls : List (Resolver × Call)}
    (neat : ∀ entry ∈ calls, entry.1.BuiltIn ∧ entry.2.Neat) :
    ∀ reply ∈ (Resolver.callAll world calls).1, reply.Survives := by
  induction calls generalizing world with
  | nil => nofun
  | cons entry calls ih =>
      rw [List.forall_mem_cons] at neat
      obtain ⟨first, after⟩ := vouched.call neat.1.1 neat.1.2
      exact List.forall_mem_cons.mpr ⟨first, ih after neat.2⟩

end World.Vouched

/-! ## Summaries -/

/-- A summary is read back as it was written. -/
def Summary.Survives (summary : Summary) : Prop :=
  readText Summary.read summary.toDocument.compact = .ok summary

/-- A summary survives exactly if all its references do and its total can be read. -/
theorem Summary.survives_iff {summary : Summary} :
    summary.Survives ↔ summary.total < UInt64.size ∧
      ∀ reference ∈ summary.references, reference.Survives := by
  have by_texts : ∀ reference : ReferenceName, reference.Survives ↔
      Returns ReferenceName.read ReferenceName.toDocument reference := fun reference =>
    ReferenceName.survives_iff.trans ReferenceName.returns_iff.symm
  rw [Survives, (fits.written summary).readText_compact]
  simp only [references, by_texts, List.forall_mem_append, List.forall_mem_map]
  refine returns_iff.trans ?_
  simp only [ResolvedReference.returns_iff, forall_and]
  constructor
  · rintro ⟨⟨written, resolved⟩, unresolved, small⟩
    exact ⟨small, ⟨written, resolved⟩, unresolved⟩
  · rintro ⟨small, ⟨written, resolved⟩, unresolved⟩
    exact ⟨⟨written, resolved⟩, unresolved, small⟩

/-! ## All names -/

/-- Names are read back from what is written for them, unless a blank has come to an end of their
text. A name that is made from a text or from segments has none there. Cuts and replacements bring
one there exactly if they are not careful, and never where no blank stands next to a separator.
Resolvers of built-in stages bring none there in neat files, with and without caches. -/
theorem names_survive (text : String) (language : Language) (edits : List ReferenceEdit)
    (value : Option String) (names : List SimpleName) (moves : List PackageEdit) (world : World)
    (calls : List (Resolver × Call)) :
    let reference := ReferenceName.ofText text language
    let references := trail ReferenceEdit.apply reference edits
    let package := PackageName.ofText? value
    let packages := trail PackageEdit.apply package moves
    (∀ reference : ReferenceName,
      reference.Survives ↔ Text.trim reference.text = reference.text) ∧
    (∀ package : PackageName, package.Survives ↔ Text.trim package.text = package.text) ∧
    ((∀ made ∈ references, made.Survives) ↔
      Along ReferenceEdit.apply ReferenceEdit.Careful reference edits) ∧
    (Text.Tidy reference.text → (∀ edit ∈ edits, edit.Tidy) → ∀ made ∈ references, made.Survives) ∧
    ((∀ made ∈ packages, made.Survives) ↔
      Along PackageEdit.apply PackageEdit.Careful package moves) ∧
    (Text.Tidy package.text → ∀ made ∈ packages, made.Survives) ∧
    (∀ made ∈ trail PackageEdit.apply (PackageName.ofSegments names) moves, made.Survives) ∧
    ((∀ cache ∈ world.caches, cache = .empty) →
      (∀ entry ∈ calls, entry.1.BuiltIn ∧ entry.2.Neat) →
        ∀ reply ∈ (Resolver.callAll world calls).1, reply.Survives ∧
          ∀ summary, reply = .summary (.finished (.ok summary)) →
            (summary.Survives ↔ summary.total < UInt64.size)) := by
  intro reference references package packages
  refine ⟨fun _ => ReferenceName.survives_iff, fun _ => PackageName.survives_iff, ?_, ?_, ?_, ?_,
    ?_, ?_⟩
  · exact ReferenceName.trail_survives_iff (ReferenceName.survives_ofText text language) edits
  · exact fun tidy edits_tidy => ReferenceName.trail_survives_of_tidy tidy edits_tidy
  · exact PackageName.trail_survives_iff (PackageName.survives_ofText? value) moves
  · exact fun tidy => PackageName.trail_survives_of_tidy tidy moves
  · exact PackageName.trail_survives_of_tidy (PackageName.tidy_ofSegments names) moves
  · intro empty neat reply member
    have survives := (World.vouched_of_empty empty).callAll neat reply member
    refine ⟨survives, ?_⟩
    rintro summary rfl
    rw [Summary.survives_iff]
    exact and_iff_left (survives summary rfl)

/-- A qualified name goes through all edits, and a file with an alias and an import gives answers to
all kinds of calls. -/
theorem names_survive_usual :
    let edits : List ReferenceEdit :=
      [.replaceFirst "com.x.Foo", .append ⟨"Baz", by decide +kernel⟩, .parent, .resolved " y.z ",
        .withLanguage .java]
    let resolver : Resolver :=
      ⟨StageKind.defaultChain.map StageKind.stage, fun _ => some " kotlin.Any ", none, none, some 0⟩
    let file : FileContext := ⟨⟨"file:a"⟩, "a.kt", .default, .kotlin,
      some (TextTable.empty.insert "F" "Foo"), ["lib.Foo "]⟩
    let calls : List (Resolver × Call) :=
      [(resolver, .resolve file " F.x " .kotlin), (resolver, .resolveAll file [⟨"Any", .java⟩])]
    (∀ reference ∈ trail ReferenceEdit.apply (.ofText " Foo.Bar " .kotlin) edits,
      reference.Survives) ∧
    ∀ reply ∈ (Resolver.callAll ⟨.empty, [.empty]⟩ calls).1, reply.Survives := by
  intro edits resolver file calls
  obtain ⟨-, -, -, of_tidy, -, -, -, replies⟩ := names_survive " Foo.Bar " .kotlin edits none [] []
    ⟨.empty, [.empty]⟩ calls
  have edits_tidy : ∀ edit ∈ edits, edit.Tidy := by
    simp only [edits, List.forall_mem_cons, List.not_mem_nil, false_implies, implies_true,
      and_true, true_and, ReferenceEdit.Tidy]
    decide +kernel
  have file_neat : file.Neat := by
    refine ⟨?_, by decide +kernel⟩
    rintro table ⟨⟩ name target found
    have targets : ∀ entry ∈ (TextTable.empty.insert "F" "Foo").entries,
        entry.2 ≠ "" ∧ Text.trim entry.2 = entry.2 := by decide +kernel
    obtain ⟨before, after, entries_eq, -⟩ := List.lookup_eq_some_iff.mp found
    exact targets (name, target) (entries_eq ▸ List.mem_append_right _ List.mem_cons_self)
  refine ⟨of_tidy (by decide +kernel) edits_tidy, fun reply member => ?_⟩
  refine (replies (by simp) ?_ reply member).1
  have built_in : resolver.BuiltIn := ⟨StageKind.defaultChain, rfl⟩
  simp only [calls, List.forall_mem_cons, List.not_mem_nil, false_implies, implies_true, and_true]
  refine ⟨⟨built_in, file_neat⟩, built_in, file_neat, ?_⟩
  exact List.forall_mem_singleton.mpr (ReferenceName.survives_iff.mpr (by decide +kernel))

/-- A blank before the last separator is left at the end of the parent, a replacement is put in
front with its blanks, and an import that begins with a blank is answered as it stands. -/
theorem names_lost :
    let resolver : Resolver := ⟨[StageKind.explicitImport.stage], .nothing, none, none, none⟩
    let file : FileContext := ⟨⟨"file:a"⟩, "a.kt", .default, .kotlin, none, [" lib.Foo"]⟩
    let summary : Summary := ⟨[⟨⟨"Foo", .kotlin⟩, ⟨" lib.Foo", .kotlin⟩⟩], [], 1⟩
    ((ReferenceName.ofText "a .b" .kotlin).parent? = some ⟨"a ", .kotlin⟩ ∧
      ¬ (ReferenceName.mk "a " .kotlin).Survives) ∧
    ((ReferenceName.ofText "a" .kotlin).replaceFirstSegment " b" = ⟨" b", .kotlin⟩ ∧
      ¬ (ReferenceName.mk " b" .kotlin).Survives) ∧
    ((PackageName.ofText? (some "a .b")).parent? = some ⟨"a "⟩ ∧
      ¬ (PackageName.mk "a ").Survives) ∧
    ((resolver.resolveAll file [.ofText "Foo" .kotlin] .empty).1 = .finished (.ok summary) ∧
      ¬ summary.Survives) := by
  intro resolver file summary
  refine ⟨⟨by decide +kernel, ?_⟩, ⟨by decide +kernel, ?_⟩, ⟨by decide +kernel, ?_⟩,
    by decide +kernel, ?_⟩
  · rw [ReferenceName.survives_iff]
    decide +kernel
  · rw [ReferenceName.survives_iff]
    decide +kernel
  · rw [PackageName.survives_iff]
    decide +kernel
  · rw [Summary.survives_iff]
    simp only [ReferenceName.survives_iff]
    decide +kernel

end Resolution

end SymbolResolver
