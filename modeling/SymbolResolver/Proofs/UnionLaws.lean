import SymbolResolver.Proofs.Views

/-!
# Laws of unions and views

Two collections have the same members if, whatever happens, materializing one of them tells what the
other materializes to (`Collection.Same`). Up to this, unions are associative, the collection
without sources is their unit, views are compatible with unions and with each other, and a view
through a function that respects equality has the distinct results on the members
(`Collection.laws_of_unions`). All of this comes down to what can be had of the sources: a priority
keeps the order of registration however often sources are arranged, and keeping the first of equal
elements can be put off until after a function that respects equality.
-/

namespace SymbolResolver

namespace Lazy

variable {ε ν α β γ : Type}

/-! ## Functions on elements -/

section Applying

/-- A function respects equality: on equal elements it has equal results, or breaks off on both. -/
def Respects [BEq α] [BEq β] (keep : α → Leaf ε (Option β)) : Prop :=
  ∀ left right, (left == right) = true → ((keep left).result? == (keep right).result?) = true

/-- One function after the other. -/
def composed (first : α → Leaf ε (Option β)) (second : β → Leaf ε (Option γ)) (item : α) :
    Leaf ε (Option γ) :=
  (first item).bind fun
    | some kept => second kept
    | none => .finish none

theorem gates_composed {first : α → Leaf ε (Option β)} {second : β → Leaf ε (Option γ)}
    (first_prompt : ∀ item, (first item).gates = [])
    (second_prompt : ∀ item, (second item).gates = []) (item : α) :
    (composed first second item).gates = [] := by
  rw [composed, Leaf.gates_bind, first_prompt item]
  intro kept
  cases kept with
  | none => rfl
  | some kept => exact second_prompt kept

theorem error_of_applied {keep : α → Leaf ε (Option β)} {items : List α} {error : Error}
    (fails : applied keep items = .error error) : error = .brokenOff := by
  rw [applied] at fails
  split at fails
  · cases fails
  · injection fails with same
    exact same.symm

theorem applied_composed (first : α → Leaf ε (Option β)) (second : β → Leaf ε (Option γ))
    (items : List α) :
    applied (composed first second) items = (applied first items).bind (applied second) := by
  induction items with
  | nil => rfl
  | cons item items ih =>
      have result_eq : (composed first second item).result? = _ := Leaf.result?_bind _ _
      cases found : (first item).result? with
      | none =>
          rw [applied_cons_none found, applied_cons_none (by rw [result_eq, found]; rfl)]
          rfl
      | some kept =>
          rw [found, Option.bind_some] at result_eq
          rw [applied_cons_some found]
          cases kept with
          | none =>
              rw [applied_cons_some result_eq, ih]
              cases applied first items with
              | error error => rfl
              | ok kept_items =>
                  change (applied second kept_items).map id = applied second kept_items
                  exact id_map (applied second kept_items)
          | some kept =>
              cases found_second : (second kept).result? with
              | none =>
                  rw [applied_cons_none (result_eq.trans found_second)]
                  cases others : applied first items with
                  | error error => rw [error_of_applied others]; rfl
                  | ok kept_items => exact (applied_cons_none found_second _).symm
              | some result =>
                  rw [applied_cons_some (result_eq.trans found_second), ih]
                  cases applied first items with
                  | error error => rfl
                  | ok kept_items => exact (applied_cons_some found_second _).symm

end Applying

/-! ## Keeping the first of equal elements -/

section Distinct

variable [BEq α] [BEq β] [EquivBEq β]

/-- The result of an element that is equal to one met before is known, as the results of those met
before are. -/
theorem contains_result {results : α → Option β}
    (respects : ∀ left right, (left == right) = true → (results left == results right) = true)
    {met : List α} {known : List β}
    (met_known : ∀ result ∈ met.filterMap results, known.contains result = true) {item : α}
    {result : β} (item_met : met.contains item = true) (found : results item = some result) :
    known.contains result = true := by
  obtain ⟨earlier, member, same⟩ := List.contains_iff_exists_mem_beq.mp item_met
  have same_result := respects item earlier same
  cases found_earlier : results earlier with
  | none => simp [found, found_earlier] at same_result
  | some other =>
      rw [found, found_earlier, Option.some_beq_some] at same_result
      rw [List.contains_congr same_result]
      exact met_known other (List.mem_filterMap.mpr ⟨earlier, member, found_earlier⟩)

/-- Leaving out equal elements first makes no difference if equal elements have equal results, as
long as the results of the elements met before are known. -/
theorem distinctAfter_filterMap {results : α → Option β}
    (respects : ∀ left right, (left == right) = true → (results left == results right) = true)
    {met : List α} {known : List β}
    (met_known : ∀ result ∈ met.filterMap results, known.contains result = true)
    (items : List α) :
    distinctAfter known ((distinctAfter met items).filterMap results) =
      distinctAfter known (items.filterMap results) := by
  induction items generalizing met known with
  | nil => rfl
  | cons item items ih =>
      rw [distinctAfter]
      split
      · next item_met =>
        rw [ih met_known]
        cases found : results item with
        | none => rw [List.filterMap_cons_none found]
        | some result =>
            rw [List.filterMap_cons_some found, distinctAfter,
              if_pos (contains_result respects met_known item_met found)]
      · cases found : results item with
        | none =>
            rw [List.filterMap_cons_none found, List.filterMap_cons_none found]
            exact ih (by rwa [List.filterMap_cons_none found])
        | some result =>
            rw [List.filterMap_cons_some found, List.filterMap_cons_some found, distinctAfter,
              distinctAfter]
            split
            · next result_known =>
              refine ih ?_
              rw [List.filterMap_cons_some found, List.forall_mem_cons]
              exact ⟨result_known, met_known⟩
            · refine congrArg (result :: ·) (ih ?_)
              rw [List.filterMap_cons_some found, List.forall_mem_cons]
              refine ⟨by simp, fun other member => ?_⟩
              rw [List.contains_cons, met_known other member, Bool.or_true]

/-- Keeping the first of equal elements can be put off until after a function that respects
equality. -/
theorem applied_distinct {keep : α → Leaf ε (Option β)} (respects : Respects keep)
    (items : List α) :
    (applied keep (distinct items)).map distinct = (applied keep items).map distinct := by
  have break_alike : ∀ left right, (left == right) = true →
      (!(keep left).result?.isSome) = !(keep right).result?.isSome := by
    intro left right same
    have same_result := respects left right same
    cases found_left : (keep left).result? <;> cases found_right : (keep right).result? <;>
      simp_all
  have results_alike : ∀ left right, (left == right) = true →
      ((keep left).result?.join == (keep right).result?.join) = true := by
    intro left right same
    have same_result := respects left right same
    cases found_left : (keep left).result? <;> cases found_right : (keep right).result? <;>
      simp_all
  have all_alike : (distinct items).all (fun item => (keep item).result?.isSome) =
      items.all fun item => (keep item).result?.isSome := by
    rw [List.all_eq_not_any_not, List.all_eq_not_any_not, ← List.isSome_find?,
      find?_distinct break_alike, List.isSome_find?]
  rw [applied, applied, all_alike]
  split
  · exact congrArg Except.ok
      (distinctAfter_filterMap results_alike (by simp) items)
  · rfl

end Distinct

namespace Collection

/-! ## Views of what can be had -/

section Viewed

variable {opened : String → Bool}

/-- A view of a view is a view through one function after the other. -/
theorem viewed_composed {first : α → Leaf ε (Option β)} {second : β → Leaf ε (Option γ)}
    (first_prompt : ∀ item, (first item).gates = [])
    (second_prompt : ∀ item, (second item).gates = []) (fate : Option (Outcome (List α))) :
    viewed second opened (viewed first opened fate) =
      viewed (composed first second) opened fate := by
  rw [viewed_of_prompt first_prompt, viewed_of_prompt second_prompt,
    viewed_of_prompt (gates_composed first_prompt second_prompt), Option.map_map]
  congr 1
  funext outcome
  cases outcome with
  | error error => rfl
  | ok items => exact (applied_composed first second items).symm

variable {keep : α → Leaf ε (Option β)} (prompt : ∀ item, (keep item).gates = [])

include prompt

/-- If all sources succeed, a view has the results on their elements. -/
theorem gathered_viewed_of_ok {fates : List (Option (Outcome (List α)))} {items : List α}
    (succeed : gathered fates = some (.ok items)) :
    gathered (fates.map (viewed keep opened)) = some (applied keep items) := by
  induction fates generalizing items with
  | nil =>
      obtain rfl : [] = items := by simpa [gathered] using succeed
      rfl
  | cons fate fates ih =>
      rcases fate with _ | (error | first)
      · cases succeed
      · cases succeed
      · obtain ⟨outcome, others, kept⟩ := Option.map_eq_some_iff.mp succeed
        cases outcome with
        | error error => cases kept
        | ok rest =>
            obtain rfl : first ++ rest = items := Except.ok.inj kept
            rw [List.map_cons, viewed_of_prompt prompt, applied_append]
            cases found : applied keep first with
            | error error => simp [Except.bind, found, gathered]
            | ok kept_first => simp [Except.bind, found, gathered, ih others]

/-- If the function has a result on every element, a view fails just as the sources do. -/
theorem gathered_viewed_of_results {results : α → Option β}
    (has_result : ∀ item, (keep item).result? = some (results item))
    (fates : List (Option (Outcome (List α)))) :
    gathered (fates.map (viewed keep opened)) =
      (gathered fates).map (Except.map (List.filterMap results)) := by
  induction fates with
  | nil => rfl
  | cons fate fates ih =>
      rw [List.map_cons, viewed_of_prompt prompt]
      rcases fate with _ | (error | items)
      · rfl
      · rfl
      · simp only [Option.map_some, Except.bind, applied_of_results has_result, gathered, ih,
          Option.map_map]
        congr 1
        funext outcome
        cases outcome <;> simp [Except.map]

end Viewed

/-! ## Collections with the same members -/

section Same

variable [Listed ν α] [Listed ν β]

/-- What one collection materializes to is read off what another does: as soon as one of them has
materialized, so does the other, whatever happens in between. -/
structure Determines (store : Store ε ν) (left : Collection α) (right : Collection β)
    (read : Outcome (List α) → Outcome (List β)) : Prop where
  forth : ∀ {later final : Store ε ν} {outcome : Outcome (List α)}, store.Evolves later →
    (later.run left.materialize).1.progress = .finished outcome →
    (later.run left.materialize).2.Evolves final →
    (final.run right.materialize).1.progress = .finished (read outcome)
  back : ∀ {later final : Store ε ν} {outcome : Outcome (List β)}, store.Evolves later →
    (later.run right.materialize).1.progress = .finished outcome →
    (later.run right.materialize).2.Evolves final →
    ∃ origin, (final.run left.materialize).1.progress = .finished origin ∧ read origin = outcome

/-- Two collections materialize to the same outcome. -/
def Same (store : Store ε ν) (left right : Collection α) : Prop := Determines store left right id

theorem run_materialize_rest (store : Store ε ν) (collection : Collection α) :
    store.run (collection.materialize : Computation ε ν (Outcome (List α))) =
      ((store.run (Computation.outcomeOf collection.merged)).1.mapOk Listed.unwrap,
        (store.run (Computation.outcomeOf collection.merged)).2) :=
  Store.advance_mapOk _ _ _ _

/-- What can be had is materialized. -/
theorem materialize_of_prospect {store : Store ε ν} {collection : Collection α}
    {outcome : Outcome (List α)} (can_be_had : collection.prospect store = some outcome) :
    (store.run (collection.materialize : Computation ε ν (Outcome (List α)))).1.progress =
      .finished outcome := by
  obtain ⟨stored, in_prospect, rfl⟩ := Option.map_eq_some_iff.mp can_be_had
  rw [run_materialize_rest, Store.run_outcomeOf_of_prospect in_prospect]
  cases stored <;> rfl

/-- What was materialized can be had ever since. -/
theorem prospect_of_materialize {store final : Store ε ν} {collection : Collection α}
    {outcome : Outcome (List α)}
    (materialized : (store.run (collection.materialize :
      Computation ε ν (Outcome (List α)))).1.progress = .finished outcome)
    (since : (store.run (collection.materialize : Computation ε ν (Outcome (List α)))).2.Evolves
      final) : collection.prospect final = some outcome := by
  rw [run_materialize_rest] at materialized since
  rw [Store.run_outcomeOf_rest] at materialized
  cases known : (store.run (Computation.outcomeOf collection.merged)).2.outcome?
      collection.merged with
  | none =>
      rw [known] at materialized
      cases materialized
  | some stored =>
      rw [known] at materialized
      rw [prospect, Store.prospect_of_known (since.order.outcome_kept known), Option.map_some]
      cases stored with
      | error error =>
          injection materialized with same
          exact congrArg some same
      | ok stored =>
          injection materialized with same
          exact congrArg some same

/-- Collections are compared by what can be had of them. -/
theorem determines_of_prospects {store : Store ε ν} {left : Collection α} {right : Collection β}
    {read : Outcome (List α) → Outcome (List β)}
    (same : ∀ later, store.Evolves later →
      right.prospect later = (left.prospect later).map read) :
    Determines store left right read where
  forth {later final outcome} evolves materialized since := by
    have final_same := same final ((evolves.run left.materialize).trans since)
    rw [prospect_of_materialize materialized since] at final_same
    exact materialize_of_prospect final_same
  back {later final outcome} evolves materialized since := by
    have final_same := same final ((evolves.run right.materialize).trans since)
    rw [prospect_of_materialize materialized since] at final_same
    obtain ⟨origin, can_be_had, read_eq⟩ := Option.map_eq_some_iff.mp final_same.symm
    exact ⟨origin, materialize_of_prospect can_be_had, read_eq⟩

variable [BEq α]

/-- Collections are the same if their sources come to the same. -/
theorem same_of_sources {store : Store ε ν} {left right : Collection α}
    (left_built : left.Built store) (right_built : right.Built store)
    (same : ∀ later, store.Evolves later →
      left.sources.map (Source.prospect later) = right.sources.map (Source.prospect later)) :
    Same store left right := by
  refine determines_of_prospects fun later evolves => ?_
  rw [(left_built.evolves evolves).prospect_eq, (right_built.evolves evolves).prospect_eq,
    same later evolves, Option.map_id, id]

end Same

/-! ## Unions and views in a store -/

section Making

variable [Listed ν α] [BEq α]

/-- The collection without sources was made. -/
def Void (store : Store ε ν) (nothing : Collection α) : Prop :=
  ∃ earlier : Store ε ν, (build earlier ([] : List (Source α))).1 = nothing ∧
    (build earlier ([] : List (Source α))).2.Evolves store

/-- The union of two collections was made. -/
def Chained (store : Store ε ν) (left right whole : Collection α) : Prop :=
  ∃ earlier, left.Built earlier ∧ right.Built earlier ∧ (chain earlier left right).1 = whole ∧
    (chain earlier left right).2.Evolves store

/-- The view of a collection through a function was made. -/
def Viewed [Listed ν β] [BEq β] (store : Store ε ν) (keep : α → Leaf ε (Option β))
    (origin : Collection α) (view : Collection β) : Prop :=
  ∃ earlier, origin.Built earlier ∧ (filterMap earlier origin keep).1 = view ∧
    (filterMap earlier origin keep).2.Evolves store

theorem build_evolves (store : Store ε ν) (registered : List (Source α)) :
    store.Evolves (build store registered).2 := (Store.Evolves.refl store).step (.allocate _ _)

variable {store later : Store ε ν} {left right whole nothing : Collection α}

theorem chained_chain (left_built : left.Built store) (right_built : right.Built store)
    (since : (chain store left right).2.Evolves later) :
    Chained later left right (chain store left right).1 :=
  ⟨store, left_built, right_built, rfl, since⟩

theorem Void.built (void : nothing.Void store) : nothing.Built store := by
  obtain ⟨earlier, rfl, since⟩ := void
  exact (built_build (by simp)).evolves since

theorem Void.sources_eq (void : nothing.Void store) : nothing.sources = [] := by
  obtain ⟨_, rfl, _⟩ := void
  rfl

theorem Chained.sources_eq (chained : Chained store left right whole) :
    whole.sources = arrange (left.sources ++ right.sources) := by
  obtain ⟨_, _, _, rfl, _⟩ := chained
  rfl

theorem Chained.left_built (chained : Chained store left right whole) : left.Built store := by
  obtain ⟨earlier, left_built, _, _, since⟩ := chained
  exact left_built.evolves ((build_evolves earlier _).trans since)

theorem Chained.right_built (chained : Chained store left right whole) : right.Built store := by
  obtain ⟨earlier, _, right_built, _, since⟩ := chained
  exact right_built.evolves ((build_evolves earlier _).trans since)

theorem Chained.built (chained : Chained store left right whole) : whole.Built store := by
  obtain ⟨earlier, left_built, right_built, rfl, since⟩ := chained
  refine (built_build fun source member => ?_).evolves since
  rcases List.mem_append.mp member with of_left | of_right
  · exact left_built.inside source of_left
  · exact right_built.inside source of_right

variable [Listed ν β] [BEq β] {keep : α → Leaf ε (Option β)} {origin : Collection α}
  {view : Collection β}

omit [BEq α] in
theorem filterMap_evolves (store : Store ε ν) (origin : Collection α)
    (keep : α → Leaf ε (Option β)) : store.Evolves (filterMap store origin keep).2 :=
  (viewSources_evolves keep store origin.sources).trans (build_evolves _ _)

theorem viewed_filterMap (origin_built : origin.Built store)
    (since : (filterMap store origin keep).2.Evolves later) :
    Viewed later keep origin (filterMap store origin keep).1 := ⟨store, origin_built, rfl, since⟩

theorem Viewed.evolves (is_view : Viewed store keep origin view) (evolves : store.Evolves later) :
    Viewed later keep origin view := by
  obtain ⟨earlier, origin_built, made, since⟩ := is_view
  exact ⟨earlier, origin_built, made, since.trans evolves⟩

theorem Viewed.origin_built (is_view : Viewed store keep origin view) : origin.Built store := by
  obtain ⟨earlier, origin_built, _, since⟩ := is_view
  exact origin_built.evolves ((filterMap_evolves earlier origin keep).trans since)

/-- The sources of a view are views of the sources. -/
theorem Viewed.views (is_view : Viewed store keep origin view) :
    List.Forall₂ (IsView store keep) origin.sources view.sources := by
  obtain ⟨earlier, origin_built, rfl, since⟩ := is_view
  have made := isView_viewSources keep origin_built.inside
  have arranged := forall₂_arrange IsView.priority_eq made
  rw [origin_built.arranged] at arranged
  exact arranged.imp fun _ _ is_view => is_view.evolves ((build_evolves _ _).trans since)

theorem Viewed.built (is_view : Viewed store keep origin view) : view.Built store := by
  obtain ⟨earlier, origin_built, rfl, since⟩ := is_view
  exact (built_build (inside_of_views (isView_viewSources keep origin_built.inside))).evolves since

/-- What can be had of the sources of a view is what can be had through the function. -/
theorem Viewed.map_prospect (is_view : Viewed store keep origin view)
    (evolves : store.Evolves later) :
    view.sources.map (Source.prospect later) =
      (origin.sources.map (Source.prospect later)).map (viewed keep later.isOpen) :=
  map_prospect_views (is_view.views.imp fun _ _ is_view => is_view.evolves evolves)

end Making

/-! ## Laws -/

section Laws

variable [Listed ν α] [BEq α] {store : Store ε ν}

/-- Unions are associative. -/
theorem same_chain_chain {first second third first_two last_two left right : Collection α}
    (begun : Chained store first second first_two) (is_left : Chained store first_two third left)
    (ended : Chained store second third last_two) (is_right : Chained store first last_two right) :
    Same store left right := by
  refine same_of_sources is_left.built is_right.built fun later _ => ?_
  rw [is_left.sources_eq, is_right.sources_eq, begun.sources_eq, ended.sources_eq,
    arrange_append_left, arrange_append_right, List.append_assoc]

/-- The collection without sources is a unit of unions. -/
theorem same_chain_void {collection nothing before after : Collection α}
    (void : nothing.Void store) (is_before : Chained store nothing collection before)
    (is_after : Chained store collection nothing after) :
    Same store before collection ∧ Same store collection after := by
  have arranged := is_after.left_built.arranged
  constructor
  · refine same_of_sources is_before.built is_after.left_built fun later _ => ?_
    rw [is_before.sources_eq, void.sources_eq, List.nil_append, arranged]
  · refine same_of_sources is_after.left_built is_after.built fun later _ => ?_
    rw [is_after.sources_eq, void.sources_eq, List.append_nil, arranged]

variable [Listed ν β] [BEq β] {keep : α → Leaf ε (Option β)} {origin : Collection α}
  {view : Collection β}

/-- The view of a union is the union of the views. -/
theorem same_view_chain {left right whole : Collection α}
    {left_view right_view views : Collection β} (is_whole : Chained store left right whole)
    (is_view : Viewed store keep whole view) (is_left : Viewed store keep left left_view)
    (is_right : Viewed store keep right right_view)
    (joined : Chained store left_view right_view views) : Same store view views := by
  have are_views : List.Forall₂ (IsView store keep) whole.sources views.sources := by
    rw [is_whole.sources_eq, joined.sources_eq]
    exact forall₂_arrange IsView.priority_eq (List.rel_append is_left.views is_right.views)
  refine same_of_sources is_view.built joined.built fun later evolves => ?_
  rw [is_view.map_prospect evolves,
    map_prospect_views (are_views.imp fun _ _ is_view => is_view.evolves evolves)]

/-- A view of a view is the view through one function after the other. -/
theorem same_view_view [Listed ν γ] [BEq γ] {further : β → Leaf ε (Option γ)}
    {second_view direct_view : Collection γ} (prompt : ∀ item, (keep item).gates = [])
    (further_prompt : ∀ item, (further item).gates = []) (is_view : Viewed store keep origin view)
    (is_second : Viewed store further view second_view)
    (is_direct : Viewed store (composed keep further) origin direct_view) :
    Same store second_view direct_view := by
  refine same_of_sources is_second.built is_direct.built fun later evolves => ?_
  rw [is_second.map_prospect evolves, is_view.map_prospect evolves, is_direct.map_prospect evolves,
    List.map_map]
  exact List.map_congr_left fun fate _ => viewed_composed prompt further_prompt fate

variable [EquivBEq β] (prompt : ∀ item, (keep item).gates = []) (respects : Respects keep)
  (is_view : Viewed store keep origin view)

include prompt respects is_view

/-- A view has the distinct results on the members of the collection. -/
theorem materialize_view_of_ok {later final : Store ε ν} {items : List α}
    (evolves : store.Evolves later)
    (materialized : (later.run origin.materialize).1.progress = .finished (.ok items))
    (since : (later.run origin.materialize).2.Evolves final) :
    (final.run view.materialize).1.progress = .finished ((applied keep items).map distinct) := by
  have evolves_final := (evolves.run origin.materialize).trans since
  have can_be_had := prospect_of_materialize materialized since
  rw [(is_view.origin_built.evolves evolves_final).prospect_eq] at can_be_had
  obtain ⟨outcome, succeed, distinct_eq⟩ := Option.map_eq_some_iff.mp can_be_had
  cases outcome with
  | error error => cases distinct_eq
  | ok all_items =>
      obtain rfl : distinct all_items = items := Except.ok.inj distinct_eq
      apply materialize_of_prospect
      rw [(is_view.built.evolves evolves_final).prospect_eq, is_view.map_prospect evolves_final,
        gathered_viewed_of_ok prompt succeed, Option.map_some, applied_distinct respects]

/-- A view through a function that has results fails just as the collection does. -/
theorem determines_view {results : α → Option β}
    (has_result : ∀ item, (keep item).result? = some (results item)) :
    Determines store origin view
      (Except.map fun items => distinct (items.filterMap results)) := by
  have distinct_later : ∀ items : List α,
      distinct ((distinct items).filterMap results) = distinct (items.filterMap results) := by
    intro items
    have put_off := applied_distinct respects items
    rw [applied_of_results has_result, applied_of_results has_result] at put_off
    exact Except.ok.inj put_off
  refine determines_of_prospects fun later evolves => ?_
  rw [(is_view.built.evolves evolves).prospect_eq,
    (is_view.origin_built.evolves evolves).prospect_eq, is_view.map_prospect evolves,
    gathered_viewed_of_results prompt has_result, Option.map_map, Option.map_map]
  congr 1
  funext outcome
  cases outcome with
  | error error => rfl
  | ok items => exact congrArg Except.ok (distinct_later items).symm

end Laws

/-- The laws of unions and views, for all collections that were made before, whatever their sources
come to. Functions of views wait at no gates. -/
theorem laws_of_unions [Listed ν α] [BEq α] [Listed ν β] [BEq β] [EquivBEq β] [Listed ν γ] [BEq γ]
    (store : Store ε ν) :
    (∀ first second third first_two last_two left right : Collection α,
      Chained store first second first_two → Chained store first_two third left →
      Chained store second third last_two → Chained store first last_two right →
      Same store left right) ∧
    (∀ nothing collection before after : Collection α, nothing.Void store →
      Chained store nothing collection before → Chained store collection nothing after →
      Same store before collection ∧ Same store collection after) ∧
    ∀ keep : α → Leaf ε (Option β),
      (∀ (left right whole : Collection α) (left_view right_view view views : Collection β),
        Chained store left right whole → Viewed store keep whole view →
        Viewed store keep left left_view → Viewed store keep right right_view →
        Chained store left_view right_view views → Same store view views) ∧
      ((∀ item, (keep item).gates = []) →
        (∀ (further : β → Leaf ε (Option γ)) (origin : Collection α) (view : Collection β)
          (second_view direct_view : Collection γ), (∀ item, (further item).gates = []) →
          Viewed store keep origin view → Viewed store further view second_view →
          Viewed store (composed keep further) origin direct_view →
          Same store second_view direct_view) ∧
        (Respects keep → ∀ (origin : Collection α) (view : Collection β),
          Viewed store keep origin view →
          (∀ (later final : Store ε ν) (items : List α), store.Evolves later →
            (later.run origin.materialize).1.progress = .finished (.ok items) →
            (later.run origin.materialize).2.Evolves final →
            (final.run view.materialize).1.progress =
              .finished ((applied keep items).map distinct)) ∧
          ∀ results : α → Option β, (∀ item, (keep item).result? = some (results item)) →
            Determines store origin view
              (Except.map fun items => distinct (items.filterMap results)))) := by
  refine ⟨fun _ _ _ _ _ _ _ => same_chain_chain, fun _ _ _ _ => same_chain_void, fun keep =>
    ⟨fun _ _ _ _ _ _ _ => same_view_chain, fun prompt => ⟨?_, ?_⟩⟩⟩
  · intro further origin view second_view direct_view further_prompt
    exact same_view_view prompt further_prompt
  · intro respects origin view is_view
    refine ⟨fun later final items => materialize_view_of_ok prompt respects is_view, ?_⟩
    exact fun results => determines_view prompt respects is_view

/-- The laws at the union of a source behind a gate and one of a higher priority that holds an equal
element. Once the gate is open, the view has the quarters of the odd members. -/
theorem laws_of_unions_gated :
    let waiting : CellState Unit (List Nat) := .pending (.pass "disk" (.finish (.ok [3, 1])))
    let base : Store Unit (List Nat) := ⟨[⟨waiting, []⟩, ⟨.settled (.ok [2, 1, 5]), []⟩], [], []⟩
    let keep (item : Nat) : Leaf Unit (Option Nat) :=
      .note () (.finish (if item % 2 = 1 then some (item / 4) else none))
    let first := build base [(⟨.normal, 0, none⟩ : Source Nat)]
    let second := build first.2 [(⟨.high, 1, none⟩ : Source Nat)]
    let whole := chain second.2 first.1 second.1
    let view := filterMap whole.2 whole.1 keep
    let first_view := filterMap view.2 first.1 keep
    let second_view := filterMap first_view.2 second.1 keep
    let views := chain second_view.2 first_view.1 second_view.1
    let store := views.2.openGate "disk"
    let asked := store.run whole.1.materialize
    asked.1.progress = .finished (.ok [2, 1, 5, 3]) ∧
      (asked.2.run view.1.materialize).1.progress = .finished (.ok [0, 1]) ∧
      Same store view.1 views.1 := by
  intro waiting base keep first second whole view first_view second_view views store asked
  have first_built : first.1.Built second.2 :=
    (built_build (by decide)).evolves (build_evolves first.2 _)
  have second_built : second.1.Built second.2 := built_build (by decide)
  have whole_built : whole.1.Built whole.2 :=
    (chained_chain first_built second_built (.refl whole.2)).built
  -- The stores in the order in which they were made.
  have to_view : second.2.Evolves view.2 :=
    (build_evolves second.2 _).trans (filterMap_evolves whole.2 whole.1 keep)
  have to_first_view : view.2.Evolves first_view.2 := filterMap_evolves view.2 first.1 keep
  have to_second_view : first_view.2.Evolves second_view.2 := filterMap_evolves _ second.1 keep
  have to_store : second_view.2.Evolves store :=
    (build_evolves second_view.2 _).step (.openGate "disk")
  have from_view : view.2.Evolves store := (to_first_view.trans to_second_view).trans to_store
  have is_whole : Chained store first.1 second.1 whole.1 :=
    chained_chain first_built second_built
      ((filterMap_evolves whole.2 whole.1 keep).trans from_view)
  have is_view : Viewed store keep whole.1 view.1 := viewed_filterMap whole_built from_view
  have is_first : Viewed second_view.2 keep first.1 first_view.1 :=
    viewed_filterMap (first_built.evolves to_view) to_second_view
  have is_second : Viewed second_view.2 keep second.1 second_view.1 :=
    viewed_filterMap (second_built.evolves (to_view.trans to_first_view)) (.refl second_view.2)
  have are_joined : Chained store first_view.1 second_view.1 views.1 :=
    chained_chain is_first.built is_second.built ((Store.Evolves.refl views.2).step (.openGate _))
  obtain ⟨-, -, of_keep⟩ := laws_of_unions (α := Nat) (β := Nat) (γ := Nat) store
  obtain ⟨of_union, of_prompt⟩ := of_keep keep
  obtain ⟨-, of_respectful⟩ := of_prompt fun _ => rfl
  have respects : Respects keep := by
    intro left right same
    rw [beq_iff_eq.mp same, BEq.rfl]
  have materialized : asked.1.progress = .finished (.ok [2, 1, 5, 3]) := by decide +kernel
  refine ⟨materialized, ?_, of_union _ _ _ _ _ _ _ is_whole is_view (is_first.evolves to_store)
    (is_second.evolves to_store) are_joined⟩
  exact (of_respectful respects whole.1 view.1 is_view).1 store _ _ (.refl store) materialized
    (.refl _)

end Collection

end Lazy

end SymbolResolver
