import SymbolResolver.Proofs.DeclarationLookups
import SymbolResolver.Proofs.DeclarationSets
import SymbolResolver.Proofs.TrimmedAnswers

/-!
# Requests on their way through a chain

A built-in stage that has no answer hands on the request that it got, and only the alias stage puts
another reference into it. So what a stage gets can be computed from the stages before it
(`reaching`), and a chain in two parts is the first part, and if that knows no answer, the second
part on this request (`run_append`). Nothing but the reference differs from the first request, every
difference is a replaced first segment, and the language is that of the first request, also in the
answer (`requests_framed`).
-/

namespace SymbolResolver

/-- The stages of an accepted configuration differ from each other. -/
theorem Config.nodup_of_validate {config : Config} (valid : config.validate = .ok ()) :
    config.stages.Nodup := by
  have unrepeated : ∀ seen kinds : List Resolution.StageKind, firstRepeated? seen kinds = none →
      kinds.Nodup ∧ ∀ kind ∈ kinds, kind ∉ seen := by
    intro seen kinds none_repeated
    induction kinds generalizing seen with
    | nil => simp
    | cons kind kinds ih =>
        rw [firstRepeated?] at none_repeated
        split at none_repeated
        · cases none_repeated
        · rename_i new
          obtain ⟨others_differ, not_seen⟩ := ih (kind :: seen) none_repeated
          rw [List.contains_iff_mem] at new
          refine ⟨List.nodup_cons.mpr ⟨fun again => ?_, others_differ⟩, ?_⟩
          · exact not_seen kind again List.mem_cons_self
          · rw [List.forall_mem_cons]
            exact ⟨new, fun other member seen_before =>
              not_seen other member (List.mem_cons_of_mem _ seen_before)⟩
  refine (unrepeated [] config.stages ?_).1
  cases repeated : firstRepeated? [] config.stages with
  | none => rfl
  | some kind =>
      have faulty : ∃ fault, config.fault? = some fault := by
        unfold fault?
        split
        · exact ⟨_, rfl⟩
        · rw [repeated]
          exact ⟨_, rfl⟩
      obtain ⟨fault, found⟩ := faulty
      rw [validate, found] at valid
      cases valid

theorem Lazy.Computation.eq_finish_of_progress {ε ν α : Type} {rest : Computation ε ν α}
    {result : α} (finished : rest.progress = .finished result) : rest = .finish result := by
  cases rest with
  | finish outcome =>
      cases finished
      rfl
  | breakOff | note | pass | start | await | peek => cases finished

namespace Resolution

open Lazy

/-! ## What a stage hands on -/

/-- What the alias in front of a reference stands for in a file, if it is one. -/
def aliasTarget? (file : FileContext) (reference : ReferenceName) : Option String := do
  let aliases ← file.aliases
  let first ← reference.firstSegment?
  aliases.get? first

/-- The targets that the alias stages of a list put in the place of the first segment, one for each
stage that finds the first segment of its time among the aliases of the file. -/
def aliasTargets (file : FileContext) : List StageKind → ReferenceName → List String
  | [], _ => []
  | .importAlias :: kinds, reference =>
    match aliasTarget? file reference with
    | some target => target :: aliasTargets file kinds (reference.replaceFirstSegment target)
    | none => aliasTargets file kinds reference
  | _ :: kinds, reference => aliasTargets file kinds reference

/-- The request that a built-in stage hands on if it has no answer. -/
def StageKind.passed : StageKind → Request → Request
  | importAlias, request => expandAlias request
  | _, request => request

/-- The request that comes out of built-in stages without an answer. -/
def reaching (kinds : List StageKind) (request : Request) : Request :=
  kinds.foldl (fun current kind => kind.passed current) request

theorem reaching_cons (kind : StageKind) (kinds : List StageKind) (request : Request) :
    reaching (kind :: kinds) request = reaching kinds (kind.passed request) := rfl

theorem reaching_append (before after : List StageKind) (request : Request) :
    reaching (before ++ after) request = reaching after (reaching before request) :=
  List.foldl_append ..

theorem StageKind.passed_of_ne {kind : StageKind} (not_alias : kind ≠ importAlias)
    (request : Request) : kind.passed request = request := by
  cases kind with
  | importAlias => exact absurd rfl not_alias
  | semanticBinding | explicitImport | declarationLookup | stdlib => rfl

/-- Without an alias stage the request stays as it is. -/
theorem reaching_of_not_mem {kinds : List StageKind} (no_alias : .importAlias ∉ kinds)
    (request : Request) : reaching kinds request = request := by
  induction kinds with
  | nil => rfl
  | cons kind kinds ih =>
      rw [List.mem_cons, not_or] at no_alias
      rw [reaching_cons, StageKind.passed_of_ne (Ne.symm no_alias.1), ih no_alias.2]

/-- All that has happened to a request is that first segments have been replaced. -/
theorem reaching_eq (kinds : List StageKind) (request : Request) :
    reaching kinds request = request.withReference
      ((aliasTargets request.file kinds request.reference).foldl
        ReferenceName.replaceFirstSegment request.reference) := by
  induction kinds generalizing request with
  | nil => rfl
  | cons kind kinds ih =>
      rw [reaching_cons, ih]
      cases kind with
      | importAlias =>
          have expanded : expandAlias request =
              match aliasTarget? request.file request.reference with
              | some target =>
                request.withReference (request.reference.replaceFirstSegment target)
              | none => request := rfl
          rw [StageKind.passed, expanded, aliasTargets]
          cases aliasTarget? request.file request.reference with
          | none => rfl
          | some target => rfl
      | semanticBinding | explicitImport | declarationLookup | stdlib => rfl

theorem language_foldl_replaceFirstSegment (targets : List String) (reference : ReferenceName) :
    (targets.foldl ReferenceName.replaceFirstSegment reference).language = reference.language := by
  induction targets generalizing reference with
  | nil => rfl
  | cons target targets ih => exact ih _

theorem language_reaching (kinds : List StageKind) (request : Request) :
    (reaching kinds request).language = request.language := by
  rw [reaching_eq]
  exact language_foldl_replaceFirstSegment _ _

theorem length_aliasTargets_le (file : FileContext) (kinds : List StageKind)
    (reference : ReferenceName) :
    (aliasTargets file kinds reference).length ≤ kinds.count .importAlias := by
  induction kinds generalizing reference with
  | nil => exact Nat.le_refl 0
  | cons kind kinds ih =>
      cases kind with
      | importAlias =>
          rw [aliasTargets, List.count_cons_self]
          cases aliasTarget? file reference with
          | none => exact Nat.le_succ_of_le (ih reference)
          | some target => exact Nat.succ_le_succ (ih _)
      | semanticBinding | explicitImport | declarationLookup | stdlib =>
          rw [List.count_cons_of_ne (by decide)]
          exact ih reference

/-! ## Chains in parts -/

/-- A stage that has no answer goes on with the request that it hands on. -/
theorem intercept_forwards (kind : StageKind) (request : Request) (next : Request → Resolving) :
    kind.intercept request next =
      (kind.intercept request fun _ => .answer none).andThen
        (answerOr (next (kind.passed request))) := by
  cases kind with
  | importAlias => rfl
  | semanticBinding =>
      simp only [StageKind.intercept]
      split
      · rename_i binding node _ _
        cases binding.consult node with
        | answer value =>
            simp only [useConsultation]
            cases value.bind (boundReference? request.language) <;> rfl
        | failure error => rfl
        | breakOff => rfl
      · rfl
  | explicitImport =>
      simp only [StageKind.intercept]
      cases importedReference? request <;> rfl
  | declarationLookup =>
      simp only [StageKind.intercept]
      cases request.declarations with
      | none => rfl
      | some declarations => exact lookUp_forwards declarations _ _
  | stdlib =>
      simp only [StageKind.intercept]
      cases request.stdlib request.reference.text <;> rfl

/-- Built-in stages in front of any continuation. -/
def inFront (kinds : List StageKind) (next : Request → Resolving) : Request → Resolving :=
  kinds.foldr (fun kind rest request => kind.intercept request rest) next

theorem run_eq_inFront (kinds : List StageKind) :
    Chain.run (kinds.map StageKind.stage) = inFront kinds fun _ => .answer none := by
  induction kinds with
  | nil => rfl
  | cons kind kinds ih =>
      funext request
      rw [run_cons, ih]
      rfl

/-- Stages without an answer leave the request that reaches the continuation to it. -/
theorem inFront_forwards (kinds : List StageKind) (next : Request → Resolving)
    (request : Request) :
    inFront kinds next request =
      (Chain.run (kinds.map StageKind.stage) request).andThen
        (answerOr (next (reaching kinds request))) := by
  induction kinds generalizing request with
  | nil => rfl
  | cons kind kinds ih =>
      calc inFront (kind :: kinds) next request
          = (kind.intercept request fun _ => .answer none).andThen
              (answerOr (inFront kinds next (kind.passed request))) := intercept_forwards ..
        _ = (kind.intercept request fun _ => .answer none).andThen fun found =>
              (answerOr (Chain.run (kinds.map StageKind.stage) (kind.passed request))
                found).andThen (answerOr (next (reaching (kind :: kinds) request))) := by
            refine congrArg _ (funext fun found => ?_)
            cases found with
            | none => exact ih (kind.passed request)
            | some reference => rfl
        _ = _ := by
            rw [run_cons, intercept_forwards kind request (Chain.run _), Computation.andThen_assoc]

/-- A chain in two parts is the first part, and without an answer there, the second part on the
request that reaches it. -/
theorem run_append (before after : List StageKind) (request : Request) :
    Chain.run ((before ++ after).map StageKind.stage) request =
      (Chain.run (before.map StageKind.stage) request).andThen
        (answerOr (Chain.run (after.map StageKind.stage) (reaching before request))) := by
  rw [← inFront_forwards, run_eq_inFront, run_eq_inFront, inFront, List.foldr_append]
  rfl

/-- Any stage behind built-in stages gets the request that reaches it. -/
theorem run_behind (before : List StageKind) (stage : Stage) (after : List Stage)
    (request : Request) :
    let stages := before.map StageKind.stage ++ stage :: after
    Chain.run stages request =
      (Chain.run (before.map StageKind.stage) request).andThen
        (answerOr (stage.intercept (Chain.place stages before.length) (reaching before request)
          (Chain.proceed stages after.length))) := by
  intro stages
  have length_eq : stages.length = before.length + (after.length + 1) := by simp [stages]
  have from_stage : ∀ packet, Chain.proceed stages (after.length + 1) packet =
      stage.intercept (Chain.place stages before.length) packet
        (Chain.proceed stages after.length) := by
    intro packet
    have position : stages.length - (after.length + 1) = before.length := by omega
    have next_position : stages.length - after.length = before.length + 1 := by omega
    have remaining : stages.length - (before.length + 1) = after.length := by omega
    have found : stages[before.length]? = some stage := by simp [stages]
    simp only [Chain.proceed, position, found, next_position, Chain.place, remaining]
  -- The built-in stages in front do not look at their places.
  have folded : ∀ (kinds passed : List StageKind), before = passed ++ kinds →
      Chain.proceed stages (kinds.length + (after.length + 1)) =
        inFront kinds (Chain.proceed stages (after.length + 1)) := by
    intro kinds
    induction kinds with
    | nil =>
        intro passed _
        rw [List.length_nil, Nat.zero_add]
        rfl
    | cons kind kinds ih =>
        rintro passed rfl
        have position : stages.length - (kinds.length + (after.length + 1) + 1) =
            passed.length := by
          rw [length_eq, List.length_append, List.length_cons]
          omega
        have found : stages[passed.length]? = some kind.stage := by simp [stages]
        funext packet
        rw [List.length_cons, Nat.add_right_comm, Chain.proceed, position, found,
          ih (passed ++ [kind]) (by simp)]
        rfl
  calc Chain.run stages request
      = inFront before (Chain.proceed stages (after.length + 1)) request := by
        rw [Chain.run, length_eq, folded before [] rfl]
    _ = _ := by rw [inFront_forwards, from_stage]

/-! ## Visits -/

/-- A built-in stage hands on one request only. -/
theorem passed_of_handsOn {store : Store Event Payload} {kind : StageKind} {place : Place}
    {request passed : Request} (hands_on : kind.stage.HandsOn store place request passed) :
    passed = kind.passed request := by
  obtain ⟨trace, finish, course⟩ := hands_on
  by_contra different
  classical
  -- A rest of the chain that starts a cell on every other request would show up in the course.
  let telling (packet : Request) : Resolving :=
    if packet = kind.passed request then .answer none else .start 0 (Resolving.answer none)
  have shown : telling passed = .start 0 (Resolving.answer none) := if_neg different
  have hidden : telling (kind.passed request) = .answer none := if_pos rfl
  have leads := course telling
  rw [shown] at leads
  have starts_nothing : (kind.intercept request telling).Within
      { started := fun _ => False } := by
    rw [intercept_forwards, hidden, ← intercept_forwards kind request fun _ => .answer none]
    exact intercept_within kind ⟨fun _ => trivial, fun _ _ => trivial, fun _ _ _ _ => trivial,
      fun _ => trivial⟩ fun _ _ => trivial
  exact (leads.within starts_nothing).1.1

/-- The requests that built-in stages get one after the other are those that reach them. -/
theorem packet_of_visits {store : Store Event Payload} {kinds : List StageKind}
    {request : Request} {packets : List Request}
    (visits : Chain.Visits store (kinds.map StageKind.stage) 0 request packets) {index : Nat}
    {packet : Request} (found : packets[index]? = some packet) :
    packet = reaching (kinds.take index) request := by
  induction index generalizing packet with
  | zero => exact visits.first packet found
  | succ index ih =>
      have inside : index + 1 < packets.length := (List.getElem?_eq_some_iff.mp found).1
      have earlier := List.getElem?_eq_getElem (Nat.lt_of_succ_lt inside)
      obtain ⟨stage, at_index, hands_on⟩ := visits.handed index _ packet earlier found
      rw [Nat.zero_add, List.getElem?_map, Option.map_eq_some_iff] at at_index
      obtain ⟨kind, has_kind, rfl⟩ := at_index
      rw [passed_of_handsOn hands_on, ih earlier, List.take_add_one, has_kind, reaching_append]
      rfl

/-! ## Languages of answers -/

/-- What a request answers is in a language. -/
def SpokenIn (language : Language) (outcome : Outcome Answer) : Prop :=
  ∀ reference, outcome = .ok (some reference) → reference.language = language

theorem spokenIn_error (language : Language) (error : Error) :
    SpokenIn language (.error error) := nofun

theorem spokenIn_some {language : Language} {reference : ReferenceName}
    (same : reference.language = language) : SpokenIn language (.ok (some reference)) := by
  rintro _ ⟨⟩
  exact same

theorem endsIn_answerOr {Good : Outcome Answer → Prop} {work otherwise : Resolving}
    (ends : work.EndsIn Good) (otherwise_ends : otherwise.EndsIn Good) :
    (work.andThen (answerOr otherwise)).EndsIn Good := by
  induction work with
  | finish outcome =>
      rcases outcome with error | (_ | reference)
      · exact ends
      · exact otherwise_ends
      · exact ends
  | breakOff => trivial
  | note event next ih => exact ih ends
  | pass gate next ih => exact ih ends
  | start cell next ih => exact ih ends
  | await cell next ih => exact fun outcome => ih outcome (ends outcome)
  | peek cell next ih => exact fun seen => ih seen (ends seen)

theorem StageKind.Proposes.language_eq {kind : StageKind} {request : Request}
    {reference : ReferenceName} (proposed : kind.Proposes request reference) :
    reference.language = request.language := by
  cases proposed with
  | @bound target _ found =>
      cases target with
      | qualifiedName text =>
          cases found
          rfl
      | declaration declared =>
          simp only [boundReference?, DeclaredName.toReference?] at found
          split at found
          · cases found
            rfl
          · cases found
  | imported found =>
      rw [importedReference?_eq, Option.map_eq_some_iff] at found
      obtain ⟨text, -, rfl⟩ := found
      rfl
  | declared among => exact language_of_mem_candidates among
  | standard qualified => rfl

/-- Each stage makes its answers in the language of the request that it gets. -/
theorem intercept_spokenIn (kind : StageKind) (request : Request) :
    (kind.intercept request fun _ => .answer none).EndsIn (SpokenIn request.language) :=
  intercept_endsIn (spokenIn_error _) kind
    (fun _ proposed => spokenIn_some proposed.language_eq) nofun nofun

theorem chain_spokenIn (kinds : List StageKind) (request : Request) :
    (Chain.run (kinds.map StageKind.stage) request).EndsIn (SpokenIn request.language) := by
  induction kinds generalizing request with
  | nil => exact nofun
  | cons kind kinds ih =>
      have kept : (kind.passed request).language = request.language :=
        language_reaching [kind] request
      rw [run_cons, intercept_forwards]
      exact endsIn_answerOr (intercept_spokenIn kind request) (kept ▸ ih (kind.passed request))

/-! ## Whole chains -/

/-- Stages change nothing but the reference, and that only by replacing its first segment. Whatever
stage stands behind built-in stages, it gets the request that has come out of them, and so does each
built-in stage that a course visits. In this request all is as in the first one, except that each
alias stage before has replaced a first segment that was an alias then. In the chain of an accepted
configuration this happens at most once. The answers are in the language of the first request. -/
theorem requests_framed (kinds : List StageKind) (request : Request) :
    (∀ (before : List StageKind) (stage : Stage) (after : List Stage),
      let stages := before.map StageKind.stage ++ stage :: after
      Chain.run stages request =
        (Chain.run (before.map StageKind.stage) request).andThen
          (answerOr (stage.intercept (Chain.place stages before.length) (reaching before request)
            (Chain.proceed stages after.length)))) ∧
    (∀ (store : Store Event Payload) (packets : List Request),
      Chain.Visits store (kinds.map StageKind.stage) 0 request packets →
      ∀ index packet, packets[index]? = some packet →
        packet = reaching (kinds.take index) request) ∧
    (∀ before : List StageKind,
      let packet := reaching before request
      packet.file = request.file ∧ packet.written = request.written ∧
        packet.language = request.language ∧ packet.node = request.node ∧
        packet.binding = request.binding ∧ packet.stdlib = request.stdlib ∧
        packet.declarations = request.declarations ∧
        packet.reference = (aliasTargets request.file before request.reference).foldl
          ReferenceName.replaceFirstSegment request.reference) ∧
    (∀ (resolver : Resolver) (file : FileContext) (text : String) (language : Language)
        (node : Option SyntaxNode), request = resolver.request file text language node →
      request.reference = ⟨Text.trim text, language⟩ ∧ request.written = Text.trim text) ∧
    (∀ config : Config, config.validate = .ok () → config.stages = kinds →
      ∀ index, (aliasTargets request.file (kinds.take index) request.reference).length ≤ 1) ∧
    (∀ (store : Store Event Payload) (firm : Nat → Prop) (trace : List Event)
        (answer : ReferenceName),
      store.Runs firm (Chain.run (kinds.map StageKind.stage) request) trace
        (.finish (.ok (some answer))) →
      answer.language = request.language) := by
  refine ⟨fun before stage after => run_behind before stage after request,
    fun store packets visits index packet found => packet_of_visits visits found, ?_, ?_, ?_, ?_⟩
  · intro before packet
    refine ⟨?_, ?_, language_reaching before request, ?_, ?_, ?_, ?_, ?_⟩ <;>
      simp only [packet, reaching_eq, Request.withReference]
  · rintro resolver file text language node rfl
    exact ⟨rfl, rfl⟩
  · rintro config valid rfl index
    calc (aliasTargets request.file (config.stages.take index) request.reference).length
        ≤ (config.stages.take index).count .importAlias := length_aliasTargets_le ..
      _ ≤ config.stages.count .importAlias := (List.take_sublist index _).count_le _
      _ ≤ 1 := List.nodup_iff_count_le_one.mp (Config.nodup_of_validate valid) _
  · intro store firm trace answer course
    exact course.endsIn (chain_spokenIn kinds request) answer rfl

/-- Two aliases stand for each other. The usual chain replaces the first segment once, and the stage
after the next one still gets the result of that. -/
theorem requests_framed_cyclic :
    let file : FileContext := ⟨⟨"file:a"⟩, "a.kt", .default, .kotlin,
      some ((TextTable.empty.insert "A" "B").insert "B" "A"), []⟩
    let config : Config := { Config.default with stdlib := TextTable.empty.insert "B.x" "lib.Bx" }
    let resolver := (Resolver.ofConfig config .empty).1
    let request := resolver.request file " A.x " .kotlin none
    let expanded := request.withReference ⟨"B.x", .kotlin⟩
    Chain.Visits .empty (config.stages.map StageKind.stage) 0 request
        [request, expanded, expanded] ∧
      expanded = reaching (config.stages.take 2) request ∧
      (aliasTargets file (config.stages.take 5) request.reference).length ≤ 1 ∧
      (Store.empty.run (Chain.run (config.stages.map StageKind.stage) request)).1.progress =
        .finished (.ok (some ⟨"lib.Bx", .kotlin⟩)) ∧
      (⟨"lib.Bx", .kotlin⟩ : ReferenceName).language = request.language := by
  intro file config resolver request expanded
  obtain ⟨-, visited, -, -, once, spoken⟩ := requests_framed config.stages request
  have replaced : aliased file "A.x" = "B.x" := by decide +kernel
  have expands : expandAlias request = expanded := by
    rw [expandAlias_eq]
    exact congrArg (fun text => request.withReference ⟨text, .kotlin⟩) replaced
  have visits : Chain.Visits .empty (config.stages.map StageKind.stage) 0 request
      [request, expanded, expanded] := by
    refine .cons rfl ⟨[], .finish, fun next => ?_⟩ (.cons rfl ⟨[], .finish, fun next => ?_⟩
      (.single (by decide)))
    · rw [Computation.bind_finish, ← expands]
      exact .stay _
    · rw [Computation.bind_finish]
      exact .stay _
  have answered : (Store.empty.run (Chain.run (config.stages.map StageKind.stage)
      request)).1.progress = .finished (.ok (some ⟨"lib.Bx", .kotlin⟩)) := by decide +kernel
  obtain ⟨trace, course⟩ :=
    Store.empty.run_runs (Chain.run (config.stages.map StageKind.stage) request)
  rw [Computation.eq_finish_of_progress answered] at course
  exact ⟨visits, visited .empty _ visits 2 expanded rfl, once config (by decide +kernel) rfl 5,
    answered, spoken _ _ _ _ course⟩

end Resolution

end SymbolResolver
