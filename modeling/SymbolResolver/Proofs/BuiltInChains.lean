import SymbolResolver.Proofs.Collections
import SymbolResolver.Proofs.NestedChains

/-!
# Chains of built-in stages

A chain of built-in stages runs its first stage before the chain of the others (`run_cons`), so what
every stage takes over from the rest of a chain holds of all chains. This gives what a chain can
read: it looks at the merged declarations, waits for the sources of declarations, and uses nothing of
a node but the answer of the semantic bindings (`chain_within`, `chain_alike`).
-/

namespace SymbolResolver

namespace Resolution

open Lazy

/-- Built-in stages do not look at their places, so a chain runs its first stage before the chain of
the others. -/
theorem run_cons (kind : StageKind) (kinds : List StageKind) (request : Request) :
    Chain.run ((kind :: kinds).map StageKind.stage) request =
      kind.intercept request (Chain.run (kinds.map StageKind.stage)) := by
  have as_plain : ∀ kinds : List StageKind, kinds.map StageKind.stage =
      (kinds.map fun kind => (kind.tag, kind.intercept)).map fun (name, interceptor) =>
        Stage.plain name interceptor := by
    intro kinds
    rw [List.map_map]
    rfl
  have folded := Chain.run_plain_append [(kind.tag, kind.intercept)]
    (kinds.map fun kind => (kind.tag, kind.intercept))
  rw [as_plain, as_plain]
  exact congrFun folded request

/-- What the semantic bindings answer about the node of a request, if they are asked. -/
def Request.consultation? (request : Request) : Option Consultation :=
  match request.binding, request.node with
  | some binding, some node => some (binding.consult node)
  | _, _ => none

theorem intercept_unconsulted {request : Request} (unasked : request.consultation? = none)
    (next : Request → Resolving) :
    StageKind.semanticBinding.intercept request next = next request := by
  simp only [Request.consultation?, StageKind.intercept] at unasked ⊢
  split
  · next found_binding found_node => simp [found_binding, found_node] at unasked
  · rfl

theorem intercept_consulted {request : Request} {consultation : Consultation}
    (asked : request.consultation? = some consultation) (next : Request → Resolving) :
    ∃ node, StageKind.semanticBinding.intercept request next =
      .note (.consulted node) (useConsultation request next consultation) := by
  cases found_binding : request.binding with
  | none => simp [Request.consultation?, found_binding] at asked
  | some binding =>
      cases found_node : request.node with
      | none => simp [Request.consultation?, found_binding, found_node] at asked
      | some node =>
          obtain rfl : binding.consult node = consultation := by
            simpa [Request.consultation?, found_binding, found_node] using asked
          exact ⟨node, by simp only [StageKind.intercept, found_binding, found_node]⟩

/-- Two requests give every built-in stage the same to read. -/
structure Request.Matches (request other : Request) : Prop where
  file : request.file = other.file
  reference : request.reference = other.reference
  written : request.written = other.written
  stdlib : request.stdlib = other.stdlib
  declarations : request.declarations = other.declarations
  consultation : request.consultation? = other.consultation?

theorem Request.Matches.withReference {request other : Request} (same : request.Matches other)
    (reference : ReferenceName) :
    (request.withReference reference).Matches (other.withReference reference) :=
  ⟨same.file, rfl, same.written, same.stdlib, same.declarations, same.consultation⟩

/-! ## Declarations -/

/-- The sources of a collection come before its merged list, and that is a cell of the store. -/
structure Placed (store : Store Event Payload) (collection : Collection DeclaredName) : Prop where
  sources_before : ∀ source ∈ collection.sources, source.cell < collection.merged
  merged_lt : collection.merged < store.size

/-- A collection that is built from cells of a store has its place in it. -/
theorem placed_build {store : Store Event Payload} (ordered : store.Ordered)
    {registered : List (Source DeclaredName)}
    (inside : ∀ source ∈ registered, source.cell < store.size) :
    let built := Collection.build store registered
    built.2.Ordered ∧ Placed built.2 built.1 := by
  have arranged : ∀ source ∈ Collection.arrange registered, source.cell < store.size :=
    fun source member => inside source (Collection.mem_arrange.mp member)
  refine ⟨ordered.defer (Collection.mergeWork_within arranged arranged) _, arranged, ?_⟩
  exact Nat.lt_of_lt_of_eq (Nat.lt_succ_self store.size) (store.size_allocate _ _).symm

/-! ## Scopes of stages -/

section Scopes

variable {scope : Scope Event}

/-- The stages of a request may look at its declarations and wait for their sources, and may break
off only if the semantic bindings do. -/
structure Request.Allows (scope : Scope Event) (request : Request) : Prop where
  /-- Notes are unrestricted. -/
  noted : ∀ event, scope.noted event
  merged : ∀ declarations, request.declarations = some declarations →
    scope.looked declarations.merged
  sources : ∀ declarations, request.declarations = some declarations →
    ∀ source ∈ declarations.sources, scope.awaited source.cell
  broken : request.consultation? = some .breakOff → scope.broken

theorem Request.Allows.withReference {request : Request} (allows : request.Allows scope)
    (reference : ReferenceName) : (request.withReference reference).Allows scope :=
  ⟨allows.noted, allows.merged, allows.sources, allows.broken⟩

theorem lookUp_within {declarations : Collection DeclaredName} {otherwise : Resolving}
    (merged : scope.looked declarations.merged)
    (sources : ∀ source ∈ declarations.sources, scope.awaited source.cell)
    (otherwise_within : otherwise.Within scope) (candidates : List ReferenceName) :
    (lookUp declarations otherwise candidates).Within scope := by
  induction candidates with
  | nil => exact otherwise_within
  | cons candidate candidates ih =>
      refine Computation.within_andThen (Collection.first?_within merged sources _) fun found => ?_
      cases found with
      | some declared => trivial
      | none => exact ih

/-- A built-in stage stays within a scope if the rest of the chain does. -/
theorem intercept_within (kind : StageKind) {request : Request} (allows : request.Allows scope)
    {next : Request → Resolving}
    (next_within : ∀ passed : Request, passed.Allows scope → (next passed).Within scope) :
    (kind.intercept request next).Within scope := by
  have same_within := next_within request allows
  cases kind with
  | importAlias =>
      simp only [StageKind.intercept, expandAlias]
      split
      · exact next_within _ (allows.withReference _)
      · exact same_within
  | semanticBinding =>
      cases consulted : request.consultation? with
      | none =>
          rw [intercept_unconsulted consulted]
          exact same_within
      | some consultation =>
          obtain ⟨node, noted⟩ := intercept_consulted consulted next
          rw [noted]
          refine ⟨allows.noted _, ?_⟩
          cases consultation with
          | answer value =>
              simp only [useConsultation]
              split
              · trivial
              · exact same_within
          | failure error => trivial
          | breakOff => exact allows.broken consulted
  | explicitImport =>
      simp only [StageKind.intercept]
      split
      · trivial
      · exact same_within
  | declarationLookup =>
      simp only [StageKind.intercept]
      split
      · next declarations found =>
        exact lookUp_within (allows.merged _ found) (allows.sources _ found) same_within _
      · exact same_within
  | stdlib =>
      simp only [StageKind.intercept]
      split
      · trivial
      · exact same_within

end Scopes

/-! ## Requests that cannot be told apart -/

theorem lookUp_alike (declarations : Collection DeclaredName) {otherwise other : Resolving}
    (alike : otherwise.Alike other) (candidates : List ReferenceName) :
    (lookUp declarations otherwise candidates).Alike (lookUp declarations other candidates) := by
  induction candidates with
  | nil => exact alike
  | cons candidate candidates ih =>
      refine (Computation.Alike.refl _).andThen fun found => ?_
      cases found with
      | some declared => exact .refl _
      | none => exact ih

/-- Requests that match go through a built-in stage alike, if they go through the rest of the chain
alike. -/
theorem intercept_alike (kind : StageKind) {request other : Request} (same : request.Matches other)
    {next other_next : Request → Resolving}
    (next_alike : ∀ passed second : Request, passed.Matches second →
      (next passed).Alike (other_next second)) :
    (kind.intercept request next).Alike (kind.intercept other other_next) := by
  have same_alike := next_alike request other same
  have same_language : request.language = other.language := by
    rw [Request.language, same.reference, Request.language]
  cases kind with
  | importAlias =>
      simp only [StageKind.intercept, expandAlias, same.file, same.reference]
      split
      · exact next_alike _ _ (same.withReference _)
      · exact same_alike
  | semanticBinding =>
      cases consulted : request.consultation? with
      | none =>
          rw [intercept_unconsulted consulted,
            intercept_unconsulted (same.consultation ▸ consulted)]
          exact same_alike
      | some consultation =>
          obtain ⟨node, noted⟩ := intercept_consulted consulted next
          obtain ⟨other_node, other_noted⟩ :=
            intercept_consulted (same.consultation ▸ consulted) other_next
          rw [noted, other_noted]
          refine .left (.right ?_)
          cases consultation with
          | answer value =>
              simp only [useConsultation, same_language]
              cases value.bind (boundReference? other.language) with
              | some reference => exact .refl _
              | none => exact same_alike
          | failure error =>
              cases error <;> simp only [useConsultation, bindingError, same.file, same.written] <;>
                exact .refl _
          | breakOff => exact .refl _
  | explicitImport =>
      have same_import : importedReference? request = importedReference? other := by
        rw [importedReference?, same.file, same.reference, importedReference?]
      simp only [StageKind.intercept, same_import]
      split
      · exact .refl _
      · exact same_alike
  | declarationLookup =>
      have same_candidates : candidates request = candidates other := by
        rw [candidates, same.file, same.reference, same_language, candidates]
      simp only [StageKind.intercept, same.declarations, same_candidates]
      split
      · exact lookUp_alike _ same_alike _
      · exact same_alike
  | stdlib =>
      simp only [StageKind.intercept, same.stdlib, same.reference, same_language]
      split
      · exact .refl _
      · exact same_alike

/-! ## Whole chains -/

/-- A chain of built-in stages reads what its request allows. -/
theorem chain_within (kinds : List StageKind) {scope : Scope Event} {request : Request}
    (allows : request.Allows scope) :
    (Chain.run (kinds.map StageKind.stage) request).Within scope := by
  induction kinds generalizing request with
  | nil => trivial
  | cons kind kinds ih =>
      rw [run_cons]
      exact intercept_within kind allows fun _ => ih

/-- A chain of built-in stages cannot tell matching requests apart. -/
theorem chain_alike (kinds : List StageKind) {request other : Request}
    (same : request.Matches other) :
    (Chain.run (kinds.map StageKind.stage) request).Alike
      (Chain.run (kinds.map StageKind.stage) other) := by
  induction kinds generalizing request other with
  | nil => exact .refl _
  | cons kind kinds ih =>
      rw [run_cons, run_cons]
      exact intercept_alike kind same fun _ _ => ih

end Resolution

end SymbolResolver
