import Mathlib.Control.Monad.Basic
import SymbolResolver.Proofs.BuiltInChains
import SymbolResolver.Proofs.RetainedEntries

/-!
# Failures are reported

A chain of built-in stages never turns a failing lookup into an answer. Whatever its lookups come
to, its course goes on after a success only; after a failure it ends at once, with the error of that
failure (`chain_reports`). A cache keeps the end of the one course that it runs for a key, so a
request that has failed fails again in the same way until its entry is removed.
-/

namespace SymbolResolver

namespace Lazy

variable {ε ν α β : Type}

/-! ## Courses with what they meet -/

/-- What a course meets: a note that it leaves, or the outcome of a cell that it has waited for. -/
inductive Met (ε ν : Type)
  | noted (event : ε)
  | received (cell : Nat) (outcome : Outcome ν)

/-- A computation leads to its rest, whatever its gates and cells come to. -/
inductive Computation.Leads : Computation ε ν α → List (Met ε ν) → Computation ε ν α → Prop
  | stay (work : Computation ε ν α) : Leads work [] work
  | note {event : ε} {next rest : Computation ε ν α} {steps : List (Met ε ν)} :
      Leads next steps rest → Leads (.note event next) (.noted event :: steps) rest
  | pass {gate : String} {next rest : Computation ε ν α} {steps : List (Met ε ν)} :
      Leads next steps rest → Leads (.pass gate next) steps rest
  | start {cell : Nat} {next rest : Computation ε ν α} {steps : List (Met ε ν)} :
      Leads next steps rest → Leads (.start cell next) steps rest
  | await {cell : Nat} {next : Outcome ν → Computation ε ν α} {outcome : Outcome ν}
      {rest : Computation ε ν α} {steps : List (Met ε ν)} :
      Leads (next outcome) steps rest →
        Leads (.await cell next) (.received cell outcome :: steps) rest
  | peek {cell : Nat} {next : Option (Outcome ν) → Computation ε ν α} {seen : Option (Outcome ν)}
      {rest : Computation ε ν α} {steps : List (Met ε ν)} :
      Leads (next seen) steps rest → Leads (.peek cell next) steps rest

/-- All outcomes that a course has received are those of a store. -/
def Store.Shows (store : Store ε ν) (steps : List (Met ε ν)) : Prop :=
  ∀ cell outcome, .received cell outcome ∈ steps → store.outcome? cell = some outcome

/-- A course that a store bears out has received the outcomes of the store. -/
theorem Store.Runs.leads {store : Store ε ν} {firm : Nat → Prop} {work rest : Computation ε ν α}
    {trace : List ε} (run : store.Runs firm work trace rest) :
    ∃ steps, work.Leads steps rest ∧ store.Shows steps := by
  induction run with
  | stay work => exact ⟨[], .stay work, nofun⟩
  | @note event next rest trace _ ih =>
      obtain ⟨steps, leads, shows⟩ := ih
      refine ⟨_, .note leads, fun cell outcome member => ?_⟩
      rcases List.mem_cons.mp member with impossible | later
      · cases impossible
      · exact shows cell outcome later
  | pass _ _ ih =>
      obtain ⟨steps, leads, shows⟩ := ih
      exact ⟨steps, .pass leads, shows⟩
  | start _ ih =>
      obtain ⟨steps, leads, shows⟩ := ih
      exact ⟨steps, .start leads, shows⟩
  | await known _ ih =>
      obtain ⟨steps, leads, shows⟩ := ih
      refine ⟨_, .await leads, fun other outcome member => ?_⟩
      rcases List.mem_cons.mp member with same | later
      · cases same
        exact known
      · exact shows other outcome later
  | peek _ _ ih =>
      obtain ⟨steps, leads, shows⟩ := ih
      exact ⟨steps, .peek leads, shows⟩

end Lazy

namespace Resolution

open Lazy

variable {α β : Type}

/-! ## Chains that heed failures -/

/-- A request is another form of the one that a chain began with. -/
structure Request.Continues (request origin : Request) : Prop where
  file : request.file = origin.file
  written : request.written = origin.written
  binding : request.binding = origin.binding
  node : request.node = origin.node
  declarations : request.declarations = origin.declarations

namespace Request.Continues

variable {request origin : Request}

theorem refl (request : Request) : request.Continues request := ⟨rfl, rfl, rfl, rfl, rfl⟩

theorem withReference (continues : request.Continues origin) (reference : ReferenceName) :
    (request.withReference reference).Continues origin :=
  ⟨continues.file, continues.written, continues.binding, continues.node, continues.declarations⟩

theorem consultation_eq (continues : request.Continues origin) :
    request.consultation? = origin.consultation? := by
  rw [consultation?, continues.binding, continues.node, consultation?]

theorem bindingError_eq (continues : request.Continues origin) (error : Error) :
    bindingError request error = bindingError origin error := by
  cases error <;> simp only [bindingError, continues.file, continues.written]

end Request.Continues

/-- Whether a step is a lookup that a request asks for: its node is looked up in the semantic
bindings, or one of the sources of its declarations is pulled. -/
inductive Request.LooksUp (request : Request) : Met Event Payload → Prop
  | binding {node : SyntaxNode} : request.node = some node →
      LooksUp request (.noted (.consulted node))
  | source {declarations : Collection DeclaredName} {source : Source DeclaredName}
      (outcome : Outcome Payload) : request.declarations = some declarations →
      source ∈ declarations.sources → LooksUp request (.received source.cell outcome)

/-- A lookup that has not failed. -/
def Request.Succeeds (request : Request) : Met Event Payload → Prop
  | .noted _ => ∃ value, request.consultation? = some (.answer value)
  | .received _ outcome => ∃ value, outcome = .ok value

/-- How a chain ends because of a lookup. -/
inductive Request.Stops (request : Request) :
    Met Event Payload → Computation Event Payload (Outcome α) → Prop
  | binding (event : Event) {error : Error} : request.consultation? = some (.failure error) →
      Stops request (.noted event) (.finish (.error (bindingError request error)))
  | broken (event : Event) : request.consultation? = some .breakOff →
      Stops request (.noted event) .breakOff
  | source (cell : Nat) (error : Error) :
      Stops request (.received cell (.error error)) (.finish (.error error))

/-- A computation makes no lookups but those of a request, goes on after those that succeed, ends at
once after one that fails, and never fails otherwise. -/
def Request.Heeded (request : Request) : Computation Event Payload (Outcome α) → Prop
  | .finish outcome => ∃ value, outcome = .ok value
  | .breakOff => False
  | .note event next => request.LooksUp (.noted event) ∧
      (request.Succeeds (.noted event) ∧ request.Heeded next ∨ request.Stops (.noted event) next)
  | .pass _ next => request.Heeded next
  | .start _ next => request.Heeded next
  | .await cell next => (∀ outcome, request.LooksUp (.received cell outcome)) ∧
      (∀ value, request.Heeded (next (.ok value))) ∧
      ∀ error, next (.error error) = .finish (.error error)
  | .peek _ next => ∀ seen, request.Heeded (next seen)

namespace Request

variable {request : Request}

theorem Stops.bind {step : Met Event Payload} {work : Computation Event Payload (Outcome α)}
    (stops : request.Stops step work) (next : α → Computation Event Payload (Outcome β)) :
    request.Stops step (work.andThen next) := by
  cases stops with
  | binding event failed => exact .binding event failed
  | broken event broken => exact .broken event broken
  | source cell error => exact .source cell error

theorem heeded_andThen {work : Computation Event Payload (Outcome α)}
    {next : α → Computation Event Payload (Outcome β)} (heeded : request.Heeded work)
    (next_heeded : ∀ value, request.Heeded (next value)) :
    request.Heeded (work.andThen next) := by
  induction work with
  | finish outcome =>
      obtain ⟨value, rfl⟩ := heeded
      exact next_heeded value
  | breakOff => exact heeded.elim
  | note event work ih =>
      obtain ⟨asked, ⟨succeeds, rest_heeded⟩ | stops⟩ := heeded
      · exact ⟨asked, .inl ⟨succeeds, ih rest_heeded⟩⟩
      · exact ⟨asked, .inr (stops.bind next)⟩
  | pass gate work ih => exact ih heeded
  | start cell work ih => exact ih heeded
  | await cell work ih =>
      obtain ⟨asked, succeeded, failed⟩ := heeded
      refine ⟨asked, fun value => ih _ (succeeded value), fun error => ?_⟩
      show (work (.error error)).bind _ = _
      rw [failed error]
      rfl
  | peek cell work ih => exact fun seen => ih seen (heeded seen)

theorem Stops.ended {step : Met Event Payload} {work rest : Computation Event Payload (Outcome α)}
    {steps : List (Met Event Payload)} (stops : request.Stops step work)
    (leads : work.Leads steps rest) : steps = [] ∧ rest = work := by
  cases stops <;> cases leads <;> exact ⟨rfl, rfl⟩

/-- What a computation has met when it heeds failures: all is fine so far, or the last lookup has
failed and the computation has ended because of it. -/
def Fares (request : Request) (steps : List (Met Event Payload))
    (rest : Computation Event Payload (Outcome α)) : Prop :=
  (∀ step ∈ steps, request.Succeeds step) ∧ request.Heeded rest ∨
    ∃ before last, steps = before ++ [last] ∧ (∀ step ∈ before, request.Succeeds step) ∧
      request.Stops last rest

theorem Fares.cons {step : Met Event Payload} {steps : List (Met Event Payload)}
    {rest : Computation Event Payload (Outcome α)} (succeeds : request.Succeeds step)
    (fares : request.Fares steps rest) : request.Fares (step :: steps) rest := by
  rcases fares with ⟨fine, heeded⟩ | ⟨before, last, rfl, fine, stops⟩
  · exact .inl ⟨List.forall_mem_cons.mpr ⟨succeeds, fine⟩, heeded⟩
  · exact .inr ⟨step :: before, last, rfl, List.forall_mem_cons.mpr ⟨succeeds, fine⟩, stops⟩

theorem Stops.fares {step : Met Event Payload} {work rest : Computation Event Payload (Outcome α)}
    {steps : List (Met Event Payload)} (stops : request.Stops step work)
    (leads : work.Leads steps rest) : request.Fares (step :: steps) rest := by
  obtain ⟨rfl, rfl⟩ := stops.ended leads
  exact .inr ⟨[], step, rfl, nofun, stops⟩

/-- How a computation that heeds failures fares along its course. -/
theorem Heeded.fares {work rest : Computation Event Payload (Outcome α)}
    {steps : List (Met Event Payload)} (heeded : request.Heeded work)
    (leads : work.Leads steps rest) : request.Fares steps rest := by
  induction leads with
  | stay work => exact .inl ⟨nofun, heeded⟩
  | note leads ih =>
      obtain ⟨-, ⟨succeeds, next_heeded⟩ | stops⟩ := heeded
      · exact (ih next_heeded).cons succeeds
      · exact stops.fares leads
  | pass _ ih => exact ih heeded
  | start _ ih => exact ih heeded
  | @await cell next outcome rest steps leads ih =>
      obtain ⟨-, succeeded, failed⟩ := heeded
      cases outcome with
      | ok value => exact (ih (succeeded value)).cons ⟨value, rfl⟩
      | error error =>
          rw [failed error] at leads
          exact (Stops.source cell error).fares leads
  | peek _ ih => exact ih (heeded _)

theorem Heeded.looksUp {work rest : Computation Event Payload (Outcome α)}
    {steps : List (Met Event Payload)} (heeded : request.Heeded work)
    (leads : work.Leads steps rest) : ∀ step ∈ steps, request.LooksUp step := by
  induction leads with
  | stay work => exact nofun
  | note leads ih =>
      obtain ⟨asked, ⟨-, next_heeded⟩ | stops⟩ := heeded
      · exact List.forall_mem_cons.mpr ⟨asked, ih next_heeded⟩
      · rw [(stops.ended leads).1]
        exact List.forall_mem_singleton.mpr asked
  | pass _ ih => exact ih heeded
  | start _ ih => exact ih heeded
  | @await cell next outcome rest steps leads ih =>
      obtain ⟨asked, succeeded, failed⟩ := heeded
      cases outcome with
      | ok value => exact List.forall_mem_cons.mpr ⟨asked _, ih (succeeded value)⟩
      | error error =>
          rw [failed error] at leads
          cases leads
          exact List.forall_mem_singleton.mpr (asked _)
  | peek _ ih => exact ih (heeded _)

end Request

/-! ## Built-in stages -/

section Stages

variable {origin request : Request}

theorem pull_heeded {declarations : Collection DeclaredName}
    (found : origin.declarations = some declarations) {source : Source DeclaredName}
    (member : source ∈ declarations.sources) :
    origin.Heeded (Collection.pull source : Computation Event Payload _) := by
  refine ⟨fun outcome => .source outcome found member, fun value => ⟨_, rfl⟩, fun error => rfl⟩

theorem scanFirst_heeded {declarations : Collection DeclaredName}
    (found : origin.declarations = some declarations) (test : DeclaredName → Bool)
    {sources : List (Source DeclaredName)}
    (known : ∀ source ∈ sources, source ∈ declarations.sources) :
    origin.Heeded (Collection.scanFirst test sources : Computation Event Payload _) := by
  induction sources with
  | nil => exact ⟨none, rfl⟩
  | cons source sources ih =>
      rw [List.forall_mem_cons] at known
      refine Request.heeded_andThen (pull_heeded found known.1) fun items => ?_
      cases items.find? test with
      | some declared => exact ⟨_, rfl⟩
      | none => exact ih known.2

theorem first?_heeded {declarations : Collection DeclaredName}
    (found : origin.declarations = some declarations) (test : DeclaredName → Bool) :
    origin.Heeded (declarations.first? test : Computation Event Payload _) := by
  have scanned := scanFirst_heeded found test fun _ => id
  rintro (_ | ⟨error⟩ | ⟨stored⟩)
  · exact scanned
  · exact scanned
  · exact ⟨_, rfl⟩

theorem lookUp_heeded {declarations : Collection DeclaredName}
    (found : origin.declarations = some declarations) {otherwise : Resolving}
    (heeded : origin.Heeded otherwise) (candidates : List ReferenceName) :
    origin.Heeded (lookUp declarations otherwise candidates) := by
  induction candidates with
  | nil => exact heeded
  | cons candidate candidates ih =>
      refine Request.heeded_andThen (first?_heeded found _) fun declared? => ?_
      cases declared? with
      | some declared => exact ⟨_, rfl⟩
      | none => exact ih

theorem useConsultation_heeded (continues : request.Continues origin) {next : Request → Resolving}
    (heeded : origin.Heeded (next request)) {node : SyntaxNode} (at_node : origin.node = some node)
    {consultation : Consultation} (asked : origin.consultation? = some consultation) :
    origin.Heeded (.note (.consulted node) (useConsultation request next consultation)) := by
  refine ⟨.binding at_node, ?_⟩
  cases consultation with
  | answer value =>
      refine .inl ⟨⟨value, asked⟩, ?_⟩
      simp only [useConsultation]
      split
      · exact ⟨_, rfl⟩
      · exact heeded
  | failure error =>
      right
      simp only [useConsultation, continues.bindingError_eq]
      exact .binding _ asked
  | breakOff => exact .inr (.broken _ asked)

/-- A built-in stage heeds failures if the rest of the chain does. -/
theorem intercept_heeded (kind : StageKind) (continues : request.Continues origin)
    {next : Request → Resolving}
    (next_heeded : ∀ passed : Request, passed.Continues origin → origin.Heeded (next passed)) :
    origin.Heeded (kind.intercept request next) := by
  have same_heeded := next_heeded request continues
  cases kind with
  | importAlias =>
      simp only [StageKind.intercept, expandAlias]
      split
      · exact next_heeded _ (continues.withReference _)
      · exact same_heeded
  | semanticBinding =>
      simp only [StageKind.intercept]
      split
      · rename_i binding node has_binding has_node
        refine useConsultation_heeded continues same_heeded (continues.node ▸ has_node) ?_
        rw [← continues.consultation_eq, Request.consultation?, has_binding, has_node]
      · exact same_heeded
  | explicitImport =>
      simp only [StageKind.intercept]
      split
      · exact ⟨_, rfl⟩
      · exact same_heeded
  | declarationLookup =>
      simp only [StageKind.intercept]
      split
      · rename_i declarations found
        exact lookUp_heeded (continues.declarations ▸ found) same_heeded _
      · exact same_heeded
  | stdlib =>
      simp only [StageKind.intercept]
      split
      · exact ⟨_, rfl⟩
      · exact same_heeded

theorem chain_heeded (kinds : List StageKind) (continues : request.Continues origin) :
    origin.Heeded (Chain.run (kinds.map StageKind.stage) request) := by
  induction kinds generalizing request with
  | nil => exact ⟨none, rfl⟩
  | cons kind kinds ih =>
      rw [run_cons]
      exact intercept_heeded kind continues fun _ => ih

end Stages

/-! ## Reports -/

/-- The end of a chain reports what its lookups have come to. -/
structure Reports (request : Request) (steps : List (Met Event Payload)) (ending : Ending Answer) :
    Prop where
  /-- Nothing has been looked up but what the request asks for. -/
  lookups : ∀ step ∈ steps, request.LooksUp step
  /-- With an answer, be it that nothing is known, every lookup has succeeded. -/
  answered : ∀ answer, ending = .finished (.ok answer) → ∀ step ∈ steps, request.Succeeds step
  /-- A binding error of the semantic bindings is passed on as it is. -/
  own_error : ∀ node message file reference, .noted (.consulted node) ∈ steps →
    request.consultation? = some (.failure (.binding message file reference)) →
    ending = .finished (.error (.binding message file reference))
  /-- Any other of their errors becomes a binding error for the text that the request began with. -/
  other_error : ∀ node error, .noted (.consulted node) ∈ steps →
    request.consultation? = some (.failure error) →
    (∀ message file reference, error ≠ .binding message file reference) →
    ending = .finished (.error (.binding error.display request.file.path request.written))
  broken_off : ∀ node, .noted (.consulted node) ∈ steps →
    request.consultation? = some .breakOff → ending = .brokenOff
  source_error : ∀ cell error, .received cell (.error error) ∈ steps →
    ending = .finished (.error error)
  /-- Errors come from nowhere else. -/
  error_origin : ∀ error, ending = .finished (.error error) →
    ∃ step ∈ steps, ¬ request.Succeeds step

namespace Request

variable {request : Request} {steps : List (Met Event Payload)} {rest : Resolving}

theorem Fares.stops (fares : request.Fares steps rest) {step : Met Event Payload}
    (member : step ∈ steps) (failed : ¬ request.Succeeds step) : request.Stops step rest := by
  rcases fares with ⟨fine, -⟩ | ⟨before, last, rfl, fine, stops⟩
  · exact absurd (fine step member) failed
  · rcases List.mem_append.mp member with early | at_last
    · exact absurd (fine step early) failed
    · exact List.mem_singleton.mp at_last ▸ stops

theorem Stops.not_ok {step : Met Event Payload} (stops : request.Stops step rest)
    (answer : Answer) : rest.progress ≠ .finished (.ok answer) := by
  cases stops <;> exact nofun

theorem Heeded.not_error (heeded : request.Heeded rest) (error : Error) :
    rest.progress ≠ .finished (.error error) := by
  cases rest with
  | finish outcome =>
      obtain ⟨value, rfl⟩ := heeded
      exact nofun
  | breakOff | note | pass | start | await | peek => exact nofun

theorem not_succeeds_of_failure {error : Error}
    (failed : request.consultation? = some (.failure error)) (event : Event) :
    ¬ request.Succeeds (.noted event) := by
  rintro ⟨value, answered⟩
  rw [failed] at answered
  cases answered

theorem Fares.reports (fares : request.Fares steps rest)
    (lookups : ∀ step ∈ steps, request.LooksUp step) : Reports request steps rest.progress where
  lookups := lookups
  answered := by
    intro answer answered step member
    apply Classical.byContradiction
    intro failed
    exact (fares.stops member failed).not_ok answer answered
  own_error := by
    intro node message file reference member failed
    cases fares.stops member (not_succeeds_of_failure failed _) with
    | binding _ found =>
        rw [failed] at found
        cases found
        rfl
    | broken _ found =>
        rw [failed] at found
        cases found
  other_error := by
    intro node error member failed other
    cases fares.stops member (not_succeeds_of_failure failed _) with
    | binding _ found =>
        rw [failed] at found
        cases found
        cases error with
        | binding message file reference => exact absurd rfl (other message file reference)
        | validation | computation | cancelled | config | snapshot => rfl
    | broken _ found =>
        rw [failed] at found
        cases found
  broken_off := by
    intro node member broken
    have failed : ¬ request.Succeeds (.noted (.consulted node)) := by
      rintro ⟨value, answered⟩
      rw [broken] at answered
      cases answered
    cases fares.stops member failed with
    | binding _ found =>
        rw [broken] at found
        cases found
    | broken _ _ => rfl
  source_error := by
    intro cell error member
    have failed : ¬ request.Succeeds (.received cell (.error error)) := by
      rintro ⟨value, impossible⟩
      cases impossible
    cases fares.stops member failed
    rfl
  error_origin := by
    -- The chain itself never fails, so the last lookup is to blame.
    intro error ended
    rcases fares with ⟨-, heeded⟩ | ⟨before, last, rfl, -, stops⟩
    · exact absurd ended (heeded.not_error error)
    · refine ⟨last, List.mem_append_right _ (List.mem_singleton_self last), fun succeeds => ?_⟩
      cases stops with
      | binding event failed => exact not_succeeds_of_failure failed event succeeds
      | broken event broken => cases ended
      | source cell error =>
          obtain ⟨value, impossible⟩ := succeeds
          cases impossible

end Request

/-- Whatever the lookups of a chain come to, its end reports them. -/
theorem chain_reports (kinds : List StageKind) (request : Request)
    {steps : List (Met Event Payload)} {rest : Resolving}
    (leads : (Chain.run (kinds.map StageKind.stage) request).Leads steps rest) :
    Reports request steps rest.progress := by
  have heeded : request.Heeded (Chain.run (kinds.map StageKind.stage) request) :=
    chain_heeded kinds (.refl request)
  exact (heeded.fares leads).reports (heeded.looksUp leads)

/-- An ending is that of a course of the chain that has received outcomes of a store, and it reports
them. -/
def Reported (stages : List Stage) (request : Request) (store : Store Event Payload)
    (ending : Ending Answer) : Prop :=
  ∃ steps rest, (Chain.run stages request).Leads steps rest ∧ store.Shows steps ∧
    rest.progress = ending ∧ Reports request steps ending

theorem reported_of_runs (kinds : List StageKind) {request : Request}
    {store : Store Event Payload} {firm : Nat → Prop} {trace : List Event} {rest : Resolving}
    (run : store.Runs firm (Chain.run (kinds.map StageKind.stage) request) trace rest) :
    Reported (kinds.map StageKind.stage) request store rest.progress := by
  obtain ⟨steps, leads, shows⟩ := run.leads
  exact ⟨steps, rest, leads, shows, rfl, chain_reports kinds request leads⟩

/-! ## Resolving -/

/-- Without a cache a request follows a course of its chain. -/
theorem reported_runDirectly (kinds : List StageKind) (request : Request) (world : World) :
    let ended := Resolver.runDirectly (Chain.run (kinds.map StageKind.stage) request) world
    Reported (kinds.map StageKind.stage) request ended.2.store ended.1 := by
  have silent : world.store.Within fun _ => silence fun _ => false :=
    fun _ state _ => state.within_unmarked
  obtain ⟨trace, -, run⟩ :=
    Store.run_notes silent (Chain.run (kinds.map StageKind.stage) request)
  exact reported_of_runs kinds run

/-- Those who wait for a cell with the course of a chain are held up, or get the end of that course.
-/
def Forwarded (stages : List Stage) (request : Request) (ended : Ending Answer × World) : Prop :=
  ended.1 = .waiting ∨
    ∃ ending, Reported stages request ended.2.store ending ∧ ended.1 = ending.guarded

theorem guarded_of_mapOk {middle : Resolving} {outcome : Outcome Payload}
    (ended : middle.mapOk Payload.answer = .finish outcome ∨
      middle.mapOk Payload.answer = .breakOff ∧ outcome = .error .brokenOff) :
    Computation.Progress.finished (outcome.map Payload.toAnswer) = middle.progress.guarded := by
  cases middle with
  | finish result =>
      rcases ended with same | ⟨impossible, -⟩
      · cases result <;> cases same <;> rfl
      · cases result <;> cases impossible
  | breakOff =>
      rcases ended with impossible | ⟨-, rfl⟩
      · cases impossible
      · rfl
  | note | pass | start | await | peek =>
      rcases ended with impossible | ⟨impossible, -⟩ <;> cases impossible

/-- The entry of a request gives the end of a course of its chain to everyone with its key. -/
theorem forwarded_of_retains {kinds : List StageKind} {request : Request} {world : World}
    {number cell : Nat} {key : CacheKey}
    (retains : world.Retains number key cell
      (.pending ((Chain.run (kinds.map StageKind.stage) request).mapOk Payload.answer)))
    {resolver : Resolver} (cached : resolver.cache = some number) {repeated : Request}
    (same_key : Resolver.keyOf repeated = key) :
    Forwarded (kinds.map StageKind.stage) request (resolver.dispatch repeated world) := by
  obtain ⟨ended, store_eq⟩ := retains.dispatch_eq cached same_key
  have after := retains.dispatch resolver repeated
  rcases world.store.run_outcomeOf_cases cell Payload.toAnswer with
    ⟨-, waiting⟩ | ⟨outcome, known, finished⟩
  · exact .inl (ended.trans waiting)
  · obtain ⟨trace, rest, run, rest_ended⟩ := after.comes.course (store_eq ▸ known)
    obtain ⟨middle, middle_run, rfl⟩ := run.of_mapOk
    refine .inr ⟨middle.progress, reported_of_runs kinds middle_run, ?_⟩
    rw [ended, finished]
    exact guarded_of_mapOk rest_ended

/-- Failing lookups are never reported as unresolved. Whatever the semantic bindings and the sources
of declarations come to, the end of a chain of built-in stages reports it; so does the end of a
request without a cache, and of one that makes an entry in its cache. What such a request has got,
every later one with its key gets, until the entry is removed. -/
theorem failures_reported (kinds : List StageKind) (resolver : Resolver)
    (built_in : resolver.stages = kinds.map StageKind.stage) (file : FileContext) (text : String)
    (language : Language) (node : Option SyntaxNode) :
    let request := resolver.request file text language node
    request.file = file ∧ request.written = Text.trim text ∧
    (∀ steps rest, (Chain.run resolver.stages request).Leads steps rest →
      Reports request steps rest.progress) ∧
    (∀ world, resolver.cache = none →
      let ended := resolver.dispatch request world
      Reported resolver.stages request ended.2.store ended.1) ∧
    ∀ world number, resolver.cache = some number → number < world.caches.length →
      (world.cacheAt number).cell? (Resolver.keyOf request) = none →
      ∀ calls : List (Resolver × Call),
        (∀ entry ∈ calls, ¬ entry.2.removes number (Resolver.keyOf request) entry.1) →
        ∀ (other : Resolver) (repeated : Request), other.cache = some number →
          Resolver.keyOf repeated = Resolver.keyOf request →
          let first := resolver.dispatch request world
          let again := other.dispatch repeated (Resolver.callAll first.2 calls).2
          Forwarded resolver.stages request first ∧ Forwarded resolver.stages request again ∧
            ∀ outcome, first.1 = .finished outcome → again.1 = .finished outcome := by
  intro request
  rw [built_in]
  refine ⟨rfl, rfl, fun steps rest => chain_reports kinds request, ?_, ?_⟩
  · intro world uncached
    simp only [Resolver.dispatch, uncached, built_in]
    exact reported_runDirectly kinds request world
  · intro world number cached exists_cache unanswered calls kept other repeated other_cached
      same_key first again
    obtain ⟨ready, retains, first_eq⟩ := World.retains_new cached exists_cache unanswered
    rw [built_in] at retains
    have first_eq : first = resolver.dispatch request ready := first_eq
    have later := (retains.dispatch resolver request).callAll calls kept
    rw [← first_eq] at later
    refine ⟨?_, forwarded_of_retains later other_cached same_key, ?_⟩
    · rw [first_eq]
      exact forwarded_of_retains retains cached rfl
    · intro outcome finished
      rw [first_eq] at finished
      simp only [again, first_eq]
      exact retains.dispatch_again cached other_cached rfl same_key finished calls kept

/-- The error of a node whose text is an alias names the text as written. It is kept while other
requests are made and another file is dropped from the cache. -/
theorem failures_reported_node :
    let binding : Binding := ⟨fun _ => .failure (.computation "unreadable")⟩
    let kinds : List StageKind := [.importAlias, .semanticBinding, .stdlib]
    let resolver : Resolver :=
      ⟨kinds.map StageKind.stage, fun _ => some "lib.Std", some binding, none, some 0⟩
    let file : FileContext := ⟨⟨"file:a"⟩, "a.kt", .default, .kotlin,
      some (TextTable.empty.insert "F" "lib.Foo"), []⟩
    let request := resolver.request file " F " .kotlin (some ⟨⟨1⟩, " F "⟩)
    let calls : List (Resolver × Call) :=
      [(resolver, .resolve file "F" .kotlin), (resolver, .invalidate ⟨"file:b"⟩)]
    let first := resolver.dispatch request ⟨.empty, [.empty]⟩
    first.1 = .finished (.error (.binding "computation failed: unreadable" "a.kt" "F")) ∧
      (resolver.dispatch request (Resolver.callAll first.2 calls).2).1 = first.1 := by
  intro binding kinds resolver file request calls first
  have failed : first.1 =
      .finished (.error (.binding "computation failed: unreadable" "a.kt" "F")) := by
    decide +kernel
  have kept : ∀ entry ∈ calls, ¬ entry.2.removes 0 (Resolver.keyOf request) entry.1 := by
    simp [calls, Call.removes, Resolver.keyOf, request, Resolver.request, Request.ofText, file]
  obtain ⟨-, -, -, -, cached⟩ :=
    failures_reported kinds resolver rfl file " F " .kotlin (some ⟨⟨1⟩, " F "⟩)
  obtain ⟨-, -, again⟩ :=
    cached ⟨.empty, [.empty]⟩ 0 rfl (by decide) rfl calls kept resolver request rfl rfl
  exact ⟨failed, (again _ failed).trans failed.symm⟩

end Resolution

end SymbolResolver
