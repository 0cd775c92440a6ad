import Mathlib.Tactic.Choose
import SymbolResolver.Proofs.Replays
import SymbolResolver.Proofs.Tracking
import SymbolResolver.Resolution.Stages

/-!
# Chains as nested continuations

A chain finds its stages by position, yet it is the fold of its stages over the continuation that
knows no answer (`Chain.run_eq_foldr`). A stage that passes a request on at most once decides first
and then either answers or goes on with what the rest of the chain answers. For such stages every
course of a chain enters the stages from the first one on, each once, and each with the request that
the stage before it has passed on (`Chain.visits_of_runs`).
-/

namespace SymbolResolver

namespace Resolution

open Lazy

/-- What a stage does when it does not ask for its place. -/
abbrev Interceptor := Request → (Request → Resolving) → Resolving

/-- The stage that does the same at every place. -/
def Stage.plain (name : String) (interceptor : Interceptor) : Stage := ⟨name, fun _ => interceptor⟩

namespace Chain

/-! ## Folds -/

/-- The place of a stage in a chain. -/
def place (stages : List Stage) (position : Nat) : Place :=
  ⟨position + 1, stages.length - (position + 1)⟩

/-- The place of the stage that comes next when some are left. -/
theorem place_next {stages : List Stage} {remaining : Nat} (lt : remaining < stages.length) :
    stages.length - (remaining + 1) + 1 = stages.length - remaining ∧
      place stages (stages.length - (remaining + 1)) = ⟨stages.length - remaining, remaining⟩ := by
  have next_position : stages.length - (remaining + 1) + 1 = stages.length - remaining := by
    omega
  refine ⟨next_position, ?_⟩
  simp only [place, next_position, Place.mk.injEq, true_and]
  omega

/-- What is left of a chain is the fold of the stages that have not run. -/
theorem proceed_eq_foldr (stages : List Stage) {remaining : Nat}
    (le : remaining ≤ stages.length) :
    proceed stages remaining =
      (stages.zipIdx.drop (stages.length - remaining)).foldr
        (fun entry next request => entry.1.intercept (place stages entry.2) request next)
        (fun _ => .answer none) := by
  induction remaining with
  | zero =>
      have nothing_left : stages.zipIdx.drop (stages.length - 0) = [] :=
        List.drop_eq_nil_of_le (by simp)
      rw [nothing_left]
      rfl
  | succ remaining ih =>
      have inside : stages.length - (remaining + 1) < stages.length := by omega
      have inside_indexed : stages.length - (remaining + 1) < stages.zipIdx.length := by
        simpa using inside
      obtain ⟨next_position, stands⟩ := place_next le
      rw [List.drop_eq_getElem_cons inside_indexed, List.foldr_cons, next_position,
        ← ih (by omega)]
      funext request
      simp only [proceed, List.getElem?_eq_getElem inside, List.getElem_zipIdx, Nat.zero_add,
        stands]

/-- A chain is the fold of its stages over the continuation without an answer. -/
theorem run_eq_foldr (stages : List Stage) :
    run stages =
      stages.zipIdx.foldr
        (fun entry next request => entry.1.intercept (place stages entry.2) request next)
        (fun _ => .answer none) := by
  have whole := proceed_eq_foldr stages (Nat.le_refl _)
  rw [Nat.sub_self, List.drop_zero] at whole
  exact whole

theorem run_plain (interceptors : List (String × Interceptor)) :
    run (interceptors.map fun (name, interceptor) => .plain name interceptor) =
      interceptors.foldr (fun entry next request => entry.2 request next)
        (fun _ => .answer none) := by
  have entries : interceptors.zipIdx.map Prod.fst = interceptors := List.zipIdx_map_fst 0 _
  rw [run_eq_foldr, List.zipIdx_map, List.foldr_map]
  calc
    _ = interceptors.zipIdx.foldr (fun entry next request => entry.1.2 request next)
          (fun _ => .answer none) := rfl
    _ = (interceptors.zipIdx.map Prod.fst).foldr (fun entry next request => entry.2 request next)
          (fun _ => .answer none) := by rw [List.foldr_map]
    _ = _ := by rw [entries]

/-- A chain in two parts is the first part over the second. -/
theorem run_plain_append (first second : List (String × Interceptor)) :
    run ((first ++ second).map fun (name, interceptor) => .plain name interceptor) =
      first.foldr (fun entry next request => entry.2 request next)
        (run (second.map fun (name, interceptor) => .plain name interceptor)) := by
  rw [run_plain, run_plain, List.foldr_append]

end Chain

/-! ## Stages that pass on at most once -/

/-- How a stage decides on a request. -/
inductive Decision
  /-- It answers. -/
  | answer (outcome : Outcome Answer)
  /-- It passes a request on and goes on with what comes back. -/
  | passOn (passed : Request) (finish : Outcome Answer → Resolving)

/-- Carries a decision out, given the rest of the chain. -/
def Decision.enact (next : Request → Resolving) : Decision → Resolving
  | answer outcome => .finish outcome
  | passOn passed finish => (next passed).bind finish

/-- Decides by the value of an outcome. An error is the answer. -/
def Decision.ofOutcome {α : Type} (deciding : α → Computation Event Payload Decision) :
    Outcome α → Computation Event Payload Decision
  | .ok value => deciding value
  | .error error => .finish (.answer (.error error))

/-- What is done with the rest of a chain comes to a decision without it, so the rest is asked at
most once. -/
def AsksOnce (course : (Request → Resolving) → Resolving) : Prop :=
  ∃ deciding : Computation Event Payload Decision,
    ∀ next, course next = deciding.bind (Decision.enact next)

namespace AsksOnce

theorem ask (passed : Request) : AsksOnce fun next => next passed :=
  ⟨.finish (.passOn passed .finish), fun next => (Computation.bind_finish (next passed)).symm⟩

theorem finish (outcome : Outcome Answer) : AsksOnce fun _ => .finish outcome :=
  ⟨.finish (.answer outcome), fun _ => rfl⟩

theorem breakOff : AsksOnce fun _ => .breakOff :=
  ⟨.breakOff, fun _ => rfl⟩

theorem note (event : Event) {course : (Request → Resolving) → Resolving} (once : AsksOnce course) :
    AsksOnce fun next => .note event (course next) := by
  obtain ⟨deciding, course_eq⟩ := once
  exact ⟨.note event deciding, fun next => congrArg _ (course_eq next)⟩

theorem andThen {α : Type} (work : Computation Event Payload (Outcome α))
    {course : α → (Request → Resolving) → Resolving} (once : ∀ value, AsksOnce (course value)) :
    AsksOnce fun next => work.andThen fun value => course value next := by
  choose deciding course_eq using once
  refine ⟨work.bind (Decision.ofOutcome deciding), fun next => ?_⟩
  simp only [Lazy.Computation.bind_assoc, Lazy.Computation.andThen]
  congr
  funext outcome
  cases outcome with
  | ok value => exact course_eq value next
  | error error => rfl

/-- Rests of a chain that differ in their notes only are asked alike. -/
theorem alike {course : (Request → Resolving) → Resolving} (once : AsksOnce course)
    {next other : Request → Resolving} (same : ∀ passed, (next passed).Alike (other passed)) :
    (course next).Alike (course other) := by
  obtain ⟨deciding, course_eq⟩ := once
  rw [course_eq next, course_eq other]
  refine (Computation.Alike.refl deciding).bind fun decision => ?_
  cases decision with
  | answer outcome => exact .refl _
  | passOn passed finish => exact (same passed).bind fun outcome => .refl (finish outcome)

end AsksOnce

namespace Stage

/-- A stage asks the rest of its chain at most once. -/
def PassesOnce (stage : Stage) : Prop :=
  ∀ (place : Place) (request : Request), AsksOnce (stage.intercept place request)

/-- A stage passes a request on, in a course that a store bears out. What the rest of the chain does
with it plays no part in this. -/
def HandsOn (store : Store Event Payload) (stage : Stage) (place : Place)
    (request passed : Request) : Prop :=
  ∃ trace finish, ∀ next, store.Runs (fun _ => False) (stage.intercept place request next) trace
    ((next passed).bind finish)

/-- A stage leaves no notes of a kind unless the rest of the chain does. -/
def Silent (mine : Event → Bool) (stage : Stage) : Prop :=
  ∀ (place : Place) (request : Request) (next : Request → Resolving),
    (∀ passed, (next passed).Within (silence mine)) →
    (stage.intercept place request next).Within (silence mine)

/-- The stage that also notes each request it gets. -/
def noting (tag : Place → Request → Event) (stage : Stage) : Stage where
  name := stage.name
  intercept place request next :=
    .note (tag place request) (stage.intercept place request next)

/-- A course through a stage that passes on once: it gets to the rest of the chain along a trace of
its own, or never does. The notes of the stage are not of the kind. -/
theorem PassesOnce.course {stage : Stage} (once : stage.PassesOnce) {mine : Event → Bool}
    (silent : stage.Silent mine) {store : Store Event Payload} {place : Place} {request : Request}
    {next : Request → Resolving} {trace : List Event} {rest : Resolving}
    (run : store.Runs (fun _ => False) (stage.intercept place request next) trace rest) :
    trace.filter mine = [] ∨
      ∃ passed, stage.HandsOn store place request passed ∧ ∃ asked middle,
        trace.filter mine = asked.filter mine ∧
        store.Runs (fun _ => False) (next passed) asked middle := by
  obtain ⟨deciding, intercept_eq⟩ := once place request
  have no_notes : ∀ {own : List Event}, (∀ event ∈ own, (silence mine).noted event) →
      own.filter mine = [] := by
    intro own noted
    refine List.filter_eq_nil_iff.mpr fun event member => ?_
    have other : mine event = false := noted event member
    simp [other]
  have deciding_silent : deciding.Within (silence mine) := by
    have stage_silent := silent place request (fun _ => .breakOff) (fun _ => trivial)
    rw [intercept_eq] at stage_silent
    exact Computation.within_of_bind stage_silent
  rw [intercept_eq] at run
  rcases run.of_bind with ⟨middle, undecided, _⟩ | ⟨first, second, decision, rfl, decided, after⟩
  · exact Or.inl (no_notes (undecided.within deciding_silent).2)
  · have first_notes : first.filter mine = [] := no_notes (decided.within deciding_silent).2
    cases decision with
    | answer outcome =>
        cases after
        left
        rw [List.append_nil, first_notes]
    | passOn passed finish =>
        have hands_on : stage.HandsOn store place request passed := by
          refine ⟨first, finish, fun other => ?_⟩
          rw [intercept_eq]
          exact decided.bind (Decision.enact other)
        refine Or.inr ⟨passed, hands_on, ?_⟩
        rcases after.of_bind with ⟨middle, asking, _⟩ |
          ⟨asked, more, outcome, rfl, asked_all, finishing⟩
        · exact ⟨second, middle, by rw [List.filter_append, first_notes, List.nil_append], asking⟩
        · -- What the stage does with the answer is silent for every rest of the chain.
          have finish_silent : (finish outcome).Within (silence mine) := by
            have stage_silent := silent place request (fun _ => .finish outcome) (fun _ => trivial)
            rw [intercept_eq] at stage_silent
            have reached := decided.bind (Decision.enact fun _ => .finish outcome)
            exact (reached.within stage_silent).1
          have more_notes : more.filter mine = [] := no_notes (finishing.within finish_silent).2
          refine ⟨asked, .finish outcome, ?_, asked_all⟩
          rw [List.filter_append, List.filter_append, first_notes, more_notes, List.nil_append,
            List.append_nil]

end Stage

theorem lookUp_asksOnce (declarations : Collection DeclaredName) (request : Request)
    (candidates : List ReferenceName) :
    AsksOnce fun next => lookUp declarations (next request) candidates := by
  induction candidates with
  | nil => exact .ask request
  | cons candidate candidates ih =>
      refine .andThen _ fun found => ?_
      cases found with
      | some declared => exact .finish _
      | none => exact ih

/-- Every built-in stage passes a request on at most once. -/
theorem StageKind.passesOnce (kind : StageKind) : kind.stage.PassesOnce := by
  intro place request
  show AsksOnce fun next => kind.intercept request next
  cases kind with
  | importAlias => exact .ask _
  | semanticBinding =>
      simp only [intercept]
      split
      · next binding node _ _ =>
        refine .note _ ?_
        cases binding.consult node with
        | answer value =>
            simp only [useConsultation]
            split
            · exact .finish _
            · exact .ask _
        | failure error => exact .finish _
        | breakOff => exact .breakOff
      · exact .ask _
  | explicitImport =>
      simp only [intercept]
      split
      · exact .finish _
      · exact .ask _
  | declarationLookup =>
      simp only [intercept]
      split
      · exact lookUp_asksOnce _ request _
      · exact .ask _
  | stdlib =>
      simp only [intercept]
      split
      · exact .finish _
      · exact .ask _

namespace Chain

/-! ## Visits -/

/-- Requests that the stages from a position on get one after the other. -/
structure Visits (store : Store Event Payload) (stages : List Stage) (position : Nat)
    (request : Request) (packets : List Request) : Prop where
  /-- There are enough stages. -/
  fits : position + packets.length ≤ stages.length
  /-- The first stage gets the request. -/
  first : ∀ packet, packets[0]? = some packet → packet = request
  /-- Every other stage gets what the stage before it has passed on. -/
  handed : ∀ (index : Nat) (packet passed : Request), packets[index]? = some packet →
    packets[index + 1]? = some passed → ∃ stage, stages[position + index]? = some stage ∧
      stage.HandsOn store (place stages (position + index)) packet passed

namespace Visits

variable {store : Store Event Payload} {stages : List Stage} {position : Nat} {request : Request}

theorem nil (inside : position ≤ stages.length) : Visits store stages position request [] :=
  ⟨inside, fun _ found => by simp at found, fun _ _ _ found => by simp at found⟩

theorem single (inside : position < stages.length) :
    Visits store stages position request [request] where
  fits := inside
  first packet found := by simpa using found.symm
  handed index packet passed _ later := by simp at later

theorem cons {stage : Stage} (found : stages[position]? = some stage) {passed : Request}
    (hands_on : stage.HandsOn store (place stages position) request passed)
    {packets : List Request} (visits : Visits store stages (position + 1) passed packets) :
    Visits store stages position request (request :: packets) where
  fits := by
    have fits := visits.fits
    rw [List.length_cons]
    omega
  first packet at_first := by simpa using at_first.symm
  handed index packet later at_index at_next := by
    cases index with
    | zero =>
        obtain rfl : request = packet := by simpa using at_index
        obtain rfl : later = passed := visits.first later (by simpa using at_next)
        exact ⟨stage, found, hands_on⟩
    | succ index =>
        have shifted : position + 1 + index = position + (index + 1) := by omega
        rw [← shifted]
        exact visits.handed index packet later (by simpa using at_index) (by simpa using at_next)

end Visits

/-- The notes that the stages from a position on leave when they get requests. -/
def tags (tag : Place → Request → Event) (stages : List Stage) (position : Nat)
    (packets : List Request) : List Event :=
  packets.mapIdx fun index packet => tag (place stages (position + index)) packet

theorem tags_cons (tag : Place → Request → Event) (stages : List Stage) (position : Nat)
    (packet : Request) (packets : List Request) :
    tags tag stages position (packet :: packets) =
      tag (place stages position) packet :: tags tag stages (position + 1) packets := by
  simp only [tags, List.mapIdx_cons, Nat.add_zero, Nat.add_assoc, Nat.add_comm 1]

section Courses

variable {stages : List Stage} {mine : Event → Bool} {tag : Place → Request → Event}
  (once : ∀ stage ∈ stages, stage.PassesOnce) (silent : ∀ stage ∈ stages, stage.Silent mine)
  (marked : ∀ place request, mine (tag place request) = true)

include once silent marked

/-- Every course of what is left of a chain visits the stages that are left, in order. -/
theorem visits_of_runs {store : Store Event Payload} {remaining : Nat}
    (le : remaining ≤ stages.length) {request : Request} {trace : List Event} {rest : Resolving}
    (run : store.Runs (fun _ => False)
      (proceed (stages.map (Stage.noting tag)) remaining request) trace rest) :
    ∃ packets, trace.filter mine = tags tag stages (stages.length - remaining) packets ∧
      Visits store stages (stages.length - remaining) request packets := by
  induction remaining generalizing request trace rest with
  | zero =>
      cases run
      exact ⟨[], rfl, .nil (Nat.le_refl _)⟩
  | succ remaining ih =>
      have inside : stages.length - (remaining + 1) < stages.length := by omega
      obtain ⟨next_position, stands⟩ := place_next le
      have found := List.getElem?_eq_getElem inside
      simp only [proceed, List.length_map, List.getElem?_map, found, Option.map_some, Stage.noting,
        ← stands] at run
      have member := List.getElem_mem inside
      cases run with
      | stay => exact ⟨[], rfl, .nil (Nat.le_of_lt inside)⟩
      | @note _ _ _ trace run =>
          rw [List.filter_cons_of_pos (marked _ _)]
          rcases (once _ member).course (silent _ member) run with
            no_notes | ⟨passed, hands_on, asked, middle, same_notes, asking⟩
          · exact ⟨[request], by rw [no_notes, tags_cons]; rfl, .single inside⟩
          · obtain ⟨packets, notes_eq, visits⟩ := ih (by omega) asking
            rw [← next_position] at notes_eq visits
            refine ⟨request :: packets, ?_, .cons found hands_on visits⟩
            rw [same_notes, notes_eq, tags_cons]

end Courses

/-- Noting requests changes nothing but the notes. -/
theorem proceed_noting_alike {stages : List Stage} (once : ∀ stage ∈ stages, stage.PassesOnce)
    (tag : Place → Request → Event) (remaining : Nat) (request : Request) :
    (proceed (stages.map (Stage.noting tag)) remaining request).Alike
      (proceed stages remaining request) := by
  induction remaining generalizing request with
  | zero => exact .refl _
  | succ remaining ih =>
      simp only [proceed, List.length_map, List.getElem?_map]
      cases found : stages[stages.length - (remaining + 1)]? with
      | none => exact .refl _
      | some stage => exact .left ((once stage (List.mem_of_getElem? found) _ request).alike ih)

/-- A chain that finds its stages by position is a nest of continuations. -/
theorem run_nested :
    -- The chain is the right fold of its stages over the continuation without an answer.
    (∀ stages : List Stage, run stages =
      stages.zipIdx.foldr
        (fun entry next request => entry.1.intercept (place stages entry.2) request next)
        (fun _ => .answer none)) ∧
    -- Stages that do not ask for their places can be any functions.
    (∀ interceptors : List (String × Interceptor),
      run (interceptors.map fun (name, interceptor) => .plain name interceptor) =
        interceptors.foldr (fun entry next request => entry.2 request next)
          (fun _ => .answer none)) ∧
    (∀ first second : List (String × Interceptor),
      run ((first ++ second).map fun (name, interceptor) => .plain name interceptor) =
        first.foldr (fun entry next request => entry.2 request next)
          (run (second.map fun (name, interceptor) => .plain name interceptor))) ∧
    -- Stages that pass on once are entered from the first one on, each once, and each with what the
    -- one before it has passed on: in every course, and so in every run beside silent cells.
    ∀ (stages : List Stage) (mine : Event → Bool) (tag : Place → Request → Event),
      (∀ stage ∈ stages, stage.PassesOnce) → (∀ stage ∈ stages, stage.Silent mine) →
      (∀ place request, mine (tag place request) = true) →
      ∀ request : Request,
        let noted := run (stages.map (Stage.noting tag)) request
        noted.Alike (run stages request) ∧
        (∀ (store : Store Event Payload) (trace : List Event) (rest : Resolving),
          store.Runs (fun _ => False) noted trace rest →
          ∃ packets, trace.filter mine = tags tag stages 0 packets ∧
            Visits store stages 0 request packets) ∧
        ∀ store : Store Event Payload, (store.Within fun _ => silence mine) →
          ∃ packets,
            (store.run noted).2.notes.filter mine =
              store.notes.filter mine ++ tags tag stages 0 packets ∧
            Visits (store.run noted).2 stages 0 request packets := by
  refine ⟨run_eq_foldr, run_plain, run_plain_append, ?_⟩
  intro stages mine tag once silent marked request noted
  have visited : ∀ (store : Store Event Payload) (trace : List Event) (rest : Resolving),
      store.Runs (fun _ => False) noted trace rest →
      ∃ packets, trace.filter mine = tags tag stages 0 packets ∧
        Visits store stages 0 request packets := by
    intro store trace rest course
    have from_start : store.Runs (fun _ => False)
        (proceed (stages.map (Stage.noting tag)) stages.length request) trace rest := by
      simpa [noted, run] using course
    have whole := visits_of_runs once silent marked (Nat.le_refl _) from_start
    rw [Nat.sub_self] at whole
    exact whole
  have alike : noted.Alike (run stages request) := by
    simpa [noted, run] using proceed_noting_alike once tag stages.length request
  refine ⟨alike, visited, fun store cells_silent => ?_⟩
  obtain ⟨trace, notes_eq, course⟩ := Store.run_notes cells_silent noted
  obtain ⟨packets, tags_eq, visits⟩ := visited _ trace _ course
  exact ⟨packets, by rw [notes_eq, tags_eq], visits⟩

/-- Two stages append to the reference and a third one answers with it, as they stand in the chain.
The stage after them is never entered. -/
theorem run_nested_appending :
    let appending (segment : String) : Stage := .plain "append" fun request next =>
      next (request.withReference
        { request.reference with
          text := Text.appendSegments request.reference.text [segment] })
    let echo : Stage := .plain "echo" fun request _ => .answer (some request.reference)
    let stages := [appending "A", appending "B", echo, appending "C"]
    let tag (place : Place) (request : Request) : Event :=
      .probed "entered" place.position place.remaining request.reference.text request.written
        request.language
    let file := FileContext.ofPath "Main.kt" .default .kotlin
    let request := Request.ofText file "x" .kotlin .nothing
    let ran := (Store.empty : Store Event Payload).run
      (run (stages.map (Stage.noting tag)) request)
    ran.2.notes =
        [.probed "entered" 1 3 "x" "x" .kotlin, .probed "entered" 2 2 "x.A" "x" .kotlin,
          .probed "entered" 3 1 "x.A.B" "x" .kotlin] ∧
      ∃ packets, ran.2.notes.filter (fun _ => true) = tags tag stages 0 packets ∧
        Visits ran.2 stages 0 request packets := by
  intro appending echo stages tag file request ran
  obtain ⟨_, _, _, visited⟩ := run_nested
  have once : ∀ stage ∈ stages, stage.PassesOnce := by
    simp only [stages, List.forall_mem_cons]
    refine ⟨?_, ?_, ?_, ?_, by simp⟩
    · exact fun _ _ => .ask _
    · exact fun _ _ => .ask _
    · exact fun _ _ => .finish _
    · exact fun _ _ => .ask _
  have silent : ∀ stage ∈ stages, stage.Silent fun _ => true := by
    simp only [stages, List.forall_mem_cons]
    refine ⟨?_, ?_, ?_, ?_, by simp⟩
    · exact fun _ _ _ next_silent => next_silent _
    · exact fun _ _ _ next_silent => next_silent _
    · exact fun _ _ _ _ => trivial
    · exact fun _ _ _ next_silent => next_silent _
  have no_cells : (Store.empty : Store Event Payload).Within fun _ => silence fun _ => true := by
    intro cell state found
    simp [Store.empty, Store.state?] at found
  refine ⟨by decide +kernel, ?_⟩
  obtain ⟨packets, notes_eq, visits⟩ :=
    (visited stages (fun _ => true) tag once silent (fun _ _ => rfl) request).2.2 .empty no_cells
  exact ⟨packets, notes_eq, visits⟩

end Chain

end Resolution

end SymbolResolver
