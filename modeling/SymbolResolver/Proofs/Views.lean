import Mathlib.Data.List.Forall2
import SymbolResolver.Proofs.Prospects
import SymbolResolver.Proofs.Unions

/-!
# Unions and views

What can be had of a collection is what can be had of its sources, put together
(`Collection.Built.prospect_eq`), and what can be had of a source of a view is what the function of
the view makes of the source behind it (`Collection.IsView.prospect_eq`). The sources of a view
stand as those of the collection it views, also when both are joined with others
(`Collection.forall₂_arrange`).
-/

namespace SymbolResolver

namespace Lazy

variable {ε ν α β : Type}

namespace Computation

/-- How far a computation has come that has a result or waits. -/
def Progress.ofResult? : Option α → Progress α
  | some result => finished result
  | none => waiting

theorem Progress.outcome?_ofResult? (result : Option (Outcome ν)) :
    (Progress.ofResult? result).outcome? = result := by
  cases result <;> rfl

variable {had : Nat → Option (Outcome ν)} {opened : String → Bool}

theorem prospect_outcomeOf (cell : Nat) :
    (outcomeOf cell : Computation ε ν (Outcome ν)).prospect had opened = .ofResult? (had cell) := by
  simp only [outcomeOf, prospect]
  cases had cell <;> rfl

theorem prospect_mapOk {work : Computation ε ν (Outcome α)} {result : Option (Outcome α)}
    (ends : work.prospect had opened = .ofResult? result) (f : α → β) :
    (work.mapOk f).prospect had opened = .ofResult? (result.map (Except.map f)) := by
  rw [mapOk, andThen, prospect_bind, ends]
  rcases result with _ | (error | value) <;> rfl

end Computation

/-! ## Functions on elements -/

namespace Leaf

theorem result?_bind (leaf : Leaf ε α) (continuation : α → Leaf ε β) :
    (leaf.bind continuation).result? =
      leaf.result?.bind fun result => (continuation result).result? := by
  induction leaf with
  | finish result => rfl
  | breakOff => rfl
  | note event next ih => exact ih
  | pass gate next ih => exact ih

theorem gates_bind (leaf : Leaf ε α) {continuation : α → Leaf ε β}
    (prompt : ∀ result, (continuation result).gates = []) :
    (leaf.bind continuation).gates = leaf.gates := by
  induction leaf with
  | finish result => exact prompt result
  | breakOff => rfl
  | note event next ih => exact ih
  | pass gate next ih => exact congrArg (gate :: ·) ih

theorem gates_filterMap {keep : α → Leaf ε (Option β)} (prompt : ∀ item, (keep item).gates = [])
    (items : List α) : (filterMap keep items).gates = [] := by
  induction items with
  | nil => rfl
  | cons item items ih =>
      rw [filterMap, gates_bind, prompt item]
      intro kept
      rw [gates_bind _ fun _ => rfl, ih]

/-- What a leaf comes to at once, given which gates are open. -/
def prospect (opened : String → Bool) : Leaf ε α → Computation.Progress α
  | finish result => .finished result
  | breakOff => .brokenOff
  | note _ next => next.prospect opened
  | pass gate next => if opened gate then next.prospect opened else .waiting

theorem prospect_work (leaf : Leaf ε α) (had : Nat → Option (Outcome ν)) (opened : String → Bool) :
    (leaf.work : Computation ε ν α).prospect had opened = leaf.prospect opened := by
  induction leaf with
  | finish result => rfl
  | breakOff => rfl
  | note event next ih => exact ih
  | pass gate next ih => simp only [work, Computation.prospect, prospect, ih]

/-- A leaf that waits at no gate comes to its end. -/
theorem prospect_of_prompt {leaf : Leaf ε α} (prompt : leaf.gates = []) (opened : String → Bool) :
    leaf.prospect opened = leaf.ending := by
  induction leaf with
  | finish result => rfl
  | breakOff => rfl
  | note event next ih => exact ih prompt
  | pass gate next ih => cases prompt

end Leaf

/-- The results of a function on the elements of a list, unless it breaks off on one of them. -/
def applied (keep : α → Leaf ε (Option β)) (items : List α) : Outcome (List β) :=
  if items.all fun item => (keep item).result?.isSome then
    .ok (items.filterMap fun item => (keep item).result?.join)
  else .error .brokenOff

theorem applied_cons_none {keep : α → Leaf ε (Option β)} {item : α}
    (broken : (keep item).result? = none) (items : List α) :
    applied keep (item :: items) = .error .brokenOff := by
  simp [applied, broken]

theorem applied_cons_some {keep : α → Leaf ε (Option β)} {item : α} {kept : Option β}
    (found : (keep item).result? = some kept) (items : List α) :
    applied keep (item :: items) = (applied keep items).map (kept.toList ++ ·) := by
  simp only [applied, List.all_cons, found, Option.isSome_some, Bool.true_and]
  split
  · cases kept <;> simp [found, Except.map]
  · rfl

theorem applied_append (keep : α → Leaf ε (Option β)) (left right : List α) :
    applied keep (left ++ right) =
      (applied keep left).bind fun kept => (applied keep right).map (kept ++ ·) := by
  induction left with
  | nil =>
      rw [List.nil_append]
      cases applied keep right <;> rfl
  | cons item items ih =>
      cases found : (keep item).result? with
      | none =>
          rw [List.cons_append, applied_cons_none found, applied_cons_none found]
          rfl
      | some kept =>
          rw [List.cons_append, applied_cons_some found, applied_cons_some found, ih]
          cases applied keep items with
          | error error => rfl
          | ok first =>
              cases applied keep right with
              | error error => rfl
              | ok second => simp [Except.bind, Except.map, List.append_assoc]

theorem applied_of_results {keep : α → Leaf ε (Option β)} {results : α → Option β}
    (has_result : ∀ item, (keep item).result? = some (results item)) (items : List α) :
    applied keep items = .ok (items.filterMap results) := by
  simp [applied, has_result]

/-- The result of a view on a list, as far as a leaf has one. -/
theorem result?_filterMap (keep : α → Leaf ε (Option β)) (items : List α) :
    (Leaf.filterMap keep items).result? = (applied keep items).toOption := by
  induction items with
  | nil => rfl
  | cons item items ih =>
      rw [Leaf.filterMap, Leaf.result?_bind]
      cases found : (keep item).result? with
      | none =>
          rw [applied_cons_none found]
          rfl
      | some kept =>
          rw [Option.bind_some, Leaf.result?_bind, ih, applied_cons_some found]
          cases applied keep items <;> rfl

/-! ## What can be had of collections -/

/-- The lists of sources one after the other, or the first failure among them. Nothing is said as
long as one that comes before is missing. -/
def gathered : List (Option (Outcome (List α))) → Option (Outcome (List α))
  | [] => some (.ok [])
  | none :: _ => none
  | some (.error error) :: _ => some (.error error)
  | some (.ok items) :: others => (gathered others).map (Except.map (items ++ ·))

/-- What can be had of a source. -/
def Source.prospect [Listed ν α] (store : Store ε ν) (source : Source α) :
    Option (Outcome (List α)) :=
  (store.prospect source.cell).map (Except.map Listed.unwrap)

namespace Collection

/-- What can be had of a collection. -/
def prospect [Listed ν α] (store : Store ε ν) (collection : Collection α) :
    Option (Outcome (List α)) :=
  (store.prospect collection.merged).map (Except.map Listed.unwrap)

section Merging

variable [Listed ν α] {store : Store ε ν}

theorem prospect_pull (source : Source α) :
    (pull source : Computation ε ν (Outcome (List α))).prospect store.prospect store.isOpen =
      .ofResult? (source.prospect store) :=
  Computation.prospect_mapOk (Computation.prospect_outcomeOf source.cell) _

theorem prospect_gather (sources : List (Source α)) :
    (gather sources : Computation ε ν (Outcome (List α))).prospect store.prospect store.isOpen =
      .ofResult? (gathered (sources.map (Source.prospect store))) := by
  induction sources with
  | nil => rfl
  | cons source sources ih =>
      rw [gather, Computation.andThen, Computation.prospect_bind, prospect_pull, List.map_cons]
      rcases source.prospect store with _ | (error | items)
      · rfl
      · rfl
      · exact Computation.prospect_mapOk ih _

omit [Listed ν α] in
theorem prospect_startAll (sources : List (Source α)) (next : Computation ε ν β)
    (had : Nat → Option (Outcome ν)) (opened : String → Bool) :
    (startAll sources next).prospect had opened = next.prospect had opened := by
  induction sources with
  | nil => rfl
  | cons source sources ih => exact ih

variable [BEq α]

/-- What can be had of a collection is put together from what can be had of its sources. -/
theorem Built.prospect_eq {collection : Collection α} (built : collection.Built store) :
    collection.prospect store =
      (gathered (collection.sources.map (Source.prospect store))).map (Except.map distinct) := by
  have merged : (mergeWork collection.sources : Computation ε ν (Outcome ν)).prospect
      store.prospect store.isOpen = .ofResult? _ :=
    (prospect_startAll _ _ _ _).trans (Computation.prospect_mapOk (prospect_gather _) _)
  rw [prospect, built.holds.prospect_eq (mergeWork_within (fun _ _ => trivial) fun _ _ => trivial)
    (mergeWork_within (fun _ _ => trivial) built.earlier), merged,
    Computation.Progress.outcome?_ofResult?, Option.map_map]
  rcases gathered (collection.sources.map (Source.prospect store)) with _ | (error | items)
  · rfl
  · rfl
  · simp [Except.map]

end Merging

/-! ## Views of sources -/

variable [Listed ν α] [Listed ν β]

/-- A source views another through a function. -/
structure IsView (store : Store ε ν) (keep : α → Leaf ε (Option β)) (source : Source α)
    (view : Source β) : Prop where
  priority_eq : view.priority = source.priority
  earlier : source.cell < view.cell
  holds : store.Holds view.cell (viewWork keep source)

/-- What can be had of a view, given what can be had of the source and which gates are open. -/
def viewed (keep : α → Leaf ε (Option β)) (opened : String → Bool) :
    Option (Outcome (List α)) → Option (Outcome (List β))
  | none => none
  | some (.error error) => some (.error error)
  | some (.ok items) =>
    match (Leaf.filterMap keep items).prospect opened with
    | .finished kept => some (.ok kept)
    | .brokenOff => some (.error .brokenOff)
    | .waiting => none

omit [Listed ν α] [Listed ν β] in
/-- A function that waits at no gate is applied to the list of the source. -/
theorem viewed_of_prompt {keep : α → Leaf ε (Option β)} (prompt : ∀ item, (keep item).gates = [])
    (opened : String → Bool) (fate : Option (Outcome (List α))) :
    viewed keep opened fate = fate.map (Except.bind · (applied keep)) := by
  rcases fate with _ | (error | items)
  · rfl
  · rfl
  · simp only [viewed, Leaf.prospect_of_prompt (Leaf.gates_filterMap prompt items), Leaf.ending,
      result?_filterMap]
    rcases all : applied keep items with error | kept
    · obtain rfl : error = .brokenOff := by
        rw [applied] at all
        split at all <;> simp_all
      simp [Except.bind, Except.toOption, all]
    · simp [Except.bind, Except.toOption, all]

namespace IsView

variable {store later : Store ε ν} {keep : α → Leaf ε (Option β)} {source : Source α}
  {view : Source β}

theorem evolves (is_view : IsView store keep source view) (evolves : store.Evolves later) :
    IsView later keep source view :=
  ⟨is_view.priority_eq, is_view.earlier, is_view.holds.evolves evolves⟩

theorem prospect_eq (is_view : IsView store keep source view) :
    view.prospect store = viewed keep store.isOpen (source.prospect store) := by
  have kept_within : ∀ {scope : Scope ε}, scope.noted = (fun _ => True) →
      scope.passed = (fun _ => True) → scope.broken → ∀ item,
      ((keep item).work : Computation ε ν (Option β)).Within scope := by
    intro scope noted passed broken item
    exact Leaf.within_work (by simp [noted]) (by simp [passed]) broken
  rw [Source.prospect, is_view.holds.prospect_eq
    (viewWork_within trivial (kept_within rfl rfl trivial))
    (viewWork_within is_view.earlier (kept_within rfl rfl trivial)), viewWork, Computation.andThen,
    Computation.prospect_bind, prospect_pull]
  rcases source.prospect store with _ | (error | items)
  · rfl
  · rfl
  · simp only [Computation.Progress.ofResult?, viewed, Computation.prospect_bind,
      Leaf.prospect_work]
    cases (Leaf.filterMap keep items).prospect store.isOpen with
    | finished kept =>
        simp [Computation.prospect, Computation.Progress.outcome?, Except.map]
    | brokenOff => rfl
    | waiting => rfl

end IsView

/-! ## Views of collections -/

section Arranging

variable {Related : Source α → Source β → Prop} {left : List (Source α)} {right : List (Source β)}

omit [Listed ν α] [Listed ν β] in
/-- Sources of the same priorities are put into the same order. -/
theorem forall₂_arrange
    (same : ∀ {source view}, Related source view → view.priority = source.priority)
    (related : List.Forall₂ Related left right) :
    List.Forall₂ Related (arrange left) (arrange right) := by
  have tier : ∀ rank : Priority, List.Forall₂ Related (left.filter (·.priority == rank))
      (right.filter (·.priority == rank)) := by
    intro rank
    refine List.rel_filter ?_ related
    intro source view pair
    simp [same pair]
  exact List.rel_append (List.rel_append (tier .high) (tier .normal)) (tier .low)

end Arranging

theorem viewSources_evolves (keep : α → Leaf ε (Option β)) (store : Store ε ν)
    (sources : List (Source α)) : store.Evolves (viewSources keep store sources).2 := by
  induction sources generalizing store with
  | nil => exact .refl store
  | cons source sources ih =>
      have made : store.Evolves (viewSource keep store source).2 :=
        (Store.Evolves.refl store).step (.allocate _ _)
      exact made.trans (ih (viewSource keep store source).2)

theorem isView_viewSources (keep : α → Leaf ε (Option β)) {store : Store ε ν}
    {sources : List (Source α)} (inside : ∀ source ∈ sources, source.cell < store.size) :
    List.Forall₂ (IsView (viewSources keep store sources).2 keep) sources
      (viewSources keep store sources).1 := by
  induction sources generalizing store with
  | nil => exact .nil
  | cons source sources ih =>
      rw [List.forall_mem_cons] at inside
      have made : IsView (viewSource keep store source).2 keep source
          (viewSource keep store source).1 :=
        ⟨rfl, inside.1, store.holds_defer _ _⟩
      refine .cons (made.evolves (viewSources_evolves keep _ sources)) (ih fun other member => ?_)
      exact Nat.lt_of_lt_of_le (inside.2 other member) (store.precedes_allocate _ _).size_le

theorem inside_of_views {store : Store ε ν} {keep : α → Leaf ε (Option β)}
    {sources : List (Source α)} {views : List (Source β)}
    (are_views : List.Forall₂ (IsView store keep) sources views) :
    ∀ view ∈ views, view.cell < store.size := by
  induction are_views with
  | nil => exact List.forall_mem_nil _
  | cons is_view _ ih => exact List.forall_mem_cons.mpr ⟨is_view.holds.inside, ih⟩

/-- The prospects of views follow from those of the sources. -/
theorem map_prospect_views {store : Store ε ν} {keep : α → Leaf ε (Option β)}
    {sources : List (Source α)} {views : List (Source β)}
    (are_views : List.Forall₂ (IsView store keep) sources views) :
    views.map (Source.prospect store) =
      (sources.map (Source.prospect store)).map (viewed keep store.isOpen) := by
  induction are_views with
  | nil => rfl
  | cons is_view _ ih => rw [List.map_cons, List.map_cons, List.map_cons, is_view.prospect_eq, ih]

end Collection

end Lazy

end SymbolResolver
