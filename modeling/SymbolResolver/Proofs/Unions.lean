import SymbolResolver.Proofs.Collections

/-!
# Prioritized unions

What registered sources with known outcomes come to together: their lists in the order of the
priorities, and of equal elements the first one (`union`). The order is the stable one by descending
priority (`tiers_eq_mergeSort`), no two elements of the result are equal, every element is
represented there, and the one that is kept is the first of its kind (`mem_distinct_iff`). It makes
no difference whether the pass compares all elements or only those with equal hashes.
-/

namespace SymbolResolver

namespace Lazy

variable {α β γ : Type}

/-! ## Distinct elements -/

section Distinct

variable [BEq α]

theorem distinctAfter_sublist (met items : List α) :
    (distinctAfter met items).Sublist items := by
  induction items generalizing met with
  | nil => exact .slnil
  | cons item items ih =>
      rw [distinctAfter]
      split
      · exact (ih met).cons item
      · exact (ih (item :: met)).cons_cons item

/-- An element that is kept has not been met before. -/
theorem contains_of_mem_distinctAfter {met items : List α} {kept : α}
    (member : kept ∈ distinctAfter met items) : met.contains kept = false := by
  induction items generalizing met with
  | nil => cases member
  | cons item items ih =>
      rw [distinctAfter] at member
      split at member
      · exact ih member
      · next fresh =>
        rcases List.mem_cons.mp member with rfl | later
        · exact Bool.eq_false_iff.mpr fresh
        · have unmet := ih later
          rw [List.contains_cons, Bool.or_eq_false_iff] at unmet
          exact unmet.2

variable [EquivBEq α]

theorem pairwise_distinctAfter (met items : List α) :
    (distinctAfter met items).Pairwise fun earlier later => (earlier == later) = false := by
  induction items generalizing met with
  | nil => exact .nil
  | cons item items ih =>
      rw [distinctAfter]
      split
      · exact ih met
      · refine .cons (fun later member => ?_) (ih (item :: met))
        have unmet := contains_of_mem_distinctAfter member
        rw [List.contains_cons, Bool.or_eq_false_iff] at unmet
        exact BEq.symm_false unmet.1

theorem represented_distinctAfter (met : List α) {items : List α} {item : α}
    (member : item ∈ items) :
    met.contains item = true ∨ ∃ kept ∈ distinctAfter met items, (kept == item) = true := by
  induction items generalizing met with
  | nil => cases member
  | cons first items ih =>
      rw [distinctAfter]
      rcases List.mem_cons.mp member with rfl | later
      · by_cases known : met.contains item = true
        · exact .inl known
        · rw [if_neg known]
          exact .inr ⟨item, List.mem_cons_self, BEq.rfl⟩
      · split
        · exact ih met later
        · rcases ih (first :: met) later with known | ⟨kept, kept_mem, same⟩
          · rw [List.contains_cons, Bool.or_eq_true] at known
            rcases known with same | known
            · exact .inr ⟨first, List.mem_cons_self, BEq.symm same⟩
            · exact .inl known
          · exact .inr ⟨kept, List.mem_cons_of_mem first kept_mem, same⟩

/-- An element that is kept is the first of its kind. -/
theorem find?_of_mem_distinctAfter {met items : List α} {kept : α}
    (member : kept ∈ distinctAfter met items) : items.find? (· == kept) = some kept := by
  induction items generalizing met with
  | nil => cases member
  | cons item items ih =>
      have unmet := contains_of_mem_distinctAfter member
      rw [distinctAfter] at member
      split at member
      · next known =>
        -- Equal to an element that was met before, this one cannot be equal to the kept one.
        have different : (item == kept) = false := by
          rw [Bool.eq_false_iff]
          intro same
          rw [List.contains_congr same, unmet] at known
          cases known
        rw [List.find?_cons_of_neg (by simp [different])]
        exact ih member
      · rcases List.mem_cons.mp member with rfl | later
        · exact List.find?_cons_of_pos BEq.rfl
        · have unmet_later := contains_of_mem_distinctAfter later
          rw [List.contains_cons, Bool.or_eq_false_iff] at unmet_later
          rw [List.find?_cons_of_neg (by simp [BEq.symm_false unmet_later.1])]
          exact ih later

/-- The distinct elements are those that come first among their equals. -/
theorem mem_distinct_iff {items : List α} {kept : α} :
    kept ∈ distinct items ↔ items.find? (· == kept) = some kept := by
  constructor
  · exact find?_of_mem_distinctAfter
  · intro first
    rcases represented_distinctAfter [] (List.mem_of_find?_eq_some first) with met | ⟨other, found⟩
    · cases met
    · have other_first := find?_of_mem_distinctAfter found.1
      have same_test : (fun item => item == other) = (fun item => item == kept) := by
        funext item
        exact BEq.congr_right found.2
      rw [same_test, first] at other_first
      obtain rfl : kept = other := Option.some.inj other_first
      exact found.1

/-! ## Hashes -/

variable [Hashable α]

/-- Keeps the first of equal elements, and compares only elements with equal hashes. -/
def hashedAfter : List α → List α → List α
  | _, [] => []
  | met, item :: items =>
    if met.any fun earlier => hash item == hash earlier && item == earlier then
      hashedAfter met items
    else item :: hashedAfter (item :: met) items

omit [EquivBEq α] in
/-- Nothing is missed by comparing hashes first, if equal elements have equal hashes. -/
theorem hashedAfter_eq [LawfulHashable α] (met items : List α) :
    hashedAfter met items = distinctAfter met items := by
  have same_test : ∀ (item : α) (met : List α),
      (met.any fun earlier => hash item == hash earlier && item == earlier) =
        met.contains item := by
    intro item met
    rw [List.contains_eq_any_beq]
    congr 1
    funext earlier
    cases same : item == earlier with
    | false => simp
    | true => simp [hash_eq same]
  induction items generalizing met with
  | nil => rfl
  | cons item items ih => rw [hashedAfter, distinctAfter, same_test, ih, ih]

end Distinct

/-! ## The order of priorities -/

/-- What is registered with a high priority, then the rest of the usual one, then that of a low one,
each in the order of registration. -/
def tiers (registered : List (Priority × β)) : List β :=
  (registered.filter (·.1 == .high) ++ registered.filter (·.1 == .normal) ++
    registered.filter (·.1 == .low)).map Prod.snd

/-- Not after the other in the order of descending priority. -/
def comesFirst (left right : Priority × β) : Bool := (compare right.1 left.1).isLE

theorem comesFirst_trans (first second third : Priority × β) (left : comesFirst first second = true)
    (right : comesFirst second third = true) : comesFirst first third = true := by
  obtain ⟨rank, _⟩ := first
  obtain ⟨middle, _⟩ := second
  obtain ⟨other, _⟩ := third
  revert left right
  simp only [comesFirst]
  cases rank <;> cases middle <;> cases other <;> decide

theorem comesFirst_total (left right : Priority × β) :
    (comesFirst left right || comesFirst right left) = true := by
  obtain ⟨rank, _⟩ := left
  obtain ⟨other, _⟩ := right
  simp only [comesFirst]
  cases rank <;> cases other <;> decide

/-- A list in descending order is made up of its priorities. -/
theorem eq_filters_of_pairwise {registered : List (Priority × β)}
    (descending : registered.Pairwise fun left right => comesFirst left right = true) :
    registered = registered.filter (·.1 == .high) ++ registered.filter (·.1 == .normal) ++
      registered.filter (·.1 == .low) := by
  induction descending with
  | nil => rfl
  | @cons first registered after _ ih =>
      obtain ⟨rank, value⟩ := first
      -- Nothing of a higher priority comes after the first one.
      have none_left : ∀ higher : Priority, (compare higher rank).isLE = false →
          registered.filter (·.1 == higher) = [] := by
        intro higher above
        rw [List.filter_eq_nil_iff]
        rintro ⟨other, _⟩ member same
        obtain rfl : other = higher := beq_iff_eq.mp same
        exact absurd (after _ member) (by simp [comesFirst, above])
      cases rank with
      | high =>
          simp only [List.filter_cons, beq_self_eq_true, if_true, List.cons_append]
          exact congrArg _ ih
      | normal =>
          rw [none_left .high (by decide), List.nil_append] at ih
          simp only [List.filter_cons, beq_self_eq_true, if_true, none_left .high (by decide)]
          exact congrArg _ ih
      | low =>
          rw [none_left .high (by decide), none_left .normal (by decide), List.nil_append,
            List.nil_append] at ih
          simp only [List.filter_cons, beq_self_eq_true, if_true, none_left .high (by decide),
            none_left .normal (by decide)]
          exact congrArg _ ih

/-- Sorting does not change the order inside a priority. -/
theorem filter_mergeSort (registered : List (Priority × β)) (rank : Priority) :
    (registered.mergeSort comesFirst).filter (·.1 == rank) =
      registered.filter (·.1 == rank) := by
  have level : (registered.filter (·.1 == rank)).Pairwise
      fun left right => comesFirst left right = true := by
    rw [List.pairwise_filter]
    refine List.pairwise_of_forall fun left right left_rank right_rank => ?_
    rw [comesFirst, beq_iff_eq.mp left_rank, beq_iff_eq.mp right_rank]
    cases rank <;> rfl
  have kept := (List.sublist_mergeSort comesFirst_trans comesFirst_total level
    List.filter_sublist).filter (·.1 == rank)
  rw [List.filter_filter] at kept
  simp only [Bool.and_self] at kept
  have lengths := ((List.mergeSort_perm registered comesFirst).filter (·.1 == rank)).length_eq
  exact (kept.eq_of_length lengths.symm).symm

/-- The order of the priorities is the stable one. -/
theorem tiers_eq_mergeSort (registered : List (Priority × β)) :
    tiers registered = (registered.mergeSort comesFirst).map Prod.snd := by
  have sorted := eq_filters_of_pairwise
    (List.pairwise_mergeSort comesFirst_trans comesFirst_total registered)
  rw [filter_mergeSort, filter_mergeSort, filter_mergeSort] at sorted
  rw [sorted, tiers]

theorem mem_tiers {registered : List (Priority × β)} {value : β} :
    value ∈ tiers registered ↔ ∃ rank, (rank, value) ∈ registered := by
  rw [tiers, List.mem_map]
  constructor
  · rintro ⟨⟨rank, found⟩, member, rfl⟩
    simp only [List.mem_append, List.mem_filter] at member
    exact ⟨rank, by rcases member with (found | found) | found <;> exact found.1⟩
  · rintro ⟨rank, member⟩
    refine ⟨(rank, value), ?_, rfl⟩
    simp only [List.mem_append, List.mem_filter]
    cases rank <;> simp [member]

theorem tiers_map (change : β → γ) (registered : List (Priority × β)) :
    tiers (registered.map fun entry => (entry.1, change entry.2)) =
      (tiers registered).map change := by
  simp only [tiers, List.filter_map, List.map_append, List.map_map, Function.comp_def]

/-! ## Failures -/

/-- The beginning of a list up to the first one that fails, and all of it if none does. -/
def upToFailure (outcome : β → Outcome γ) : List β → List β
  | [] => []
  | item :: items =>
    match outcome item with
    | .ok _ => item :: upToFailure outcome items
    | .error _ => [item]

section Failures

variable (outcome : β → Outcome γ)

theorem upToFailure_of_ok {item : β} {value : γ} (succeeds : outcome item = .ok value)
    (items : List β) : upToFailure outcome (item :: items) = item :: upToFailure outcome items := by
  rw [upToFailure, succeeds]

theorem upToFailure_of_error {item : β} {error : Error} (fails : outcome item = .error error)
    (items : List β) : upToFailure outcome (item :: items) = [item] := by
  rw [upToFailure, fails]

theorem upToFailure_sublist (items : List β) : (upToFailure outcome items).Sublist items := by
  induction items with
  | nil => exact .slnil
  | cons item items ih =>
      cases found : outcome item with
      | ok value =>
          rw [upToFailure_of_ok outcome found]
          exact ih.cons_cons item
      | error error =>
          rw [upToFailure_of_error outcome found]
          exact List.singleton_sublist.mpr List.mem_cons_self

/-- An item fails, and all before it succeed. -/
structure FirstFailure (before : List β) (failing : β) (error : Error) : Prop where
  succeed : ∀ item ∈ before, ∃ value, outcome item = .ok value
  fails : outcome failing = .error error

/-- All succeed, or there is a first one that fails. -/
theorem all_ok_or_first_failure (items : List β) :
    (∃ values : List γ, items.map outcome = values.map .ok) ∨
      ∃ before failing after error, items = before ++ failing :: after ∧
        FirstFailure outcome before failing error := by
  induction items with
  | nil => exact .inl ⟨[], rfl⟩
  | cons item items ih =>
      cases found : outcome item with
      | error error => exact .inr ⟨[], item, items, error, rfl, nofun, found⟩
      | ok value =>
          rcases ih with ⟨values, succeed⟩ | ⟨before, failing, after, error, rfl, succeed, fails⟩
          · exact .inl ⟨value :: values, by rw [List.map_cons, found, succeed, List.map_cons]⟩
          · exact .inr ⟨item :: before, failing, after, error, rfl,
              List.forall_mem_cons.mpr ⟨⟨value, found⟩, succeed⟩, fails⟩

variable {outcome} {before : List β} {failing : β} {error : Error}

theorem FirstFailure.mapM_eq (first : FirstFailure outcome before failing error)
    (after : List β) : ((before ++ failing :: after).map outcome).mapM id = .error error := by
  obtain ⟨succeed, fails⟩ := first
  induction before with
  | nil =>
      rw [List.nil_append, List.map_cons, fails]
      rfl
  | cons item before ih =>
      rw [List.forall_mem_cons] at succeed
      obtain ⟨⟨value, found⟩, others⟩ := succeed
      rw [List.cons_append, List.map_cons, List.mapM_cons, found, ih others]
      rfl

theorem FirstFailure.upToFailure_eq (first : FirstFailure outcome before failing error)
    (after : List β) : upToFailure outcome (before ++ failing :: after) = before ++ [failing] := by
  obtain ⟨succeed, fails⟩ := first
  induction before with
  | nil => exact upToFailure_of_error outcome fails after
  | cons item before ih =>
      rw [List.forall_mem_cons] at succeed
      obtain ⟨⟨value, found⟩, others⟩ := succeed
      rw [List.cons_append, upToFailure_of_ok outcome found, ih others, List.cons_append]

end Failures

/-- All succeed in the order of the priorities, if they do in the order of registration. -/
theorem exists_lists_of_all_ok {outcome : β → Outcome γ} {plans : List (Priority × β)}
    (succeed : ∀ plan ∈ plans, ∃ value, outcome plan.2 = .ok value) :
    ∃ values : List γ, (tiers plans).map outcome = values.map .ok := by
  rcases all_ok_or_first_failure outcome (tiers plans) with
    all_ok | ⟨before, failing, after, error, split, first⟩
  · exact all_ok
  · have listed : failing ∈ tiers plans := by
      rw [split]
      exact List.mem_append_right _ List.mem_cons_self
    obtain ⟨rank, member⟩ := mem_tiers.mp listed
    obtain ⟨value, succeeds⟩ := succeed (rank, failing) member
    cases succeeds.symm.trans first.fails

/-- If some fail, there is a first one in the order of the priorities. -/
theorem exists_first_failure {outcome : β → Outcome γ} {plans : List (Priority × β)}
    {plan : Priority × β} (member : plan ∈ plans) {error : Error}
    (fails : outcome plan.2 = .error error) :
    ∃ before failing after error, tiers plans = before ++ failing :: after ∧
      FirstFailure outcome before failing error := by
  rcases all_ok_or_first_failure outcome (tiers plans) with ⟨values, all_ok⟩ | first
  · have listed : outcome plan.2 ∈ (tiers plans).map outcome :=
      List.mem_map_of_mem (mem_tiers.mpr ⟨plan.1, member⟩)
    rw [all_ok, fails] at listed
    obtain ⟨value, -, impossible⟩ := List.mem_map.mp listed
    cases impossible
  · exact first

theorem mapM_id_map_ok (values : List β) :
    (values.map (.ok : β → Outcome β)).mapM id = .ok values := by
  induction values with
  | nil => rfl
  | cons value values ih =>
      rw [List.map_cons, List.mapM_cons, ih]
      rfl

/-- What registered lists come to together: the distinct elements in the order of the priorities, or
the first failure in that order. -/
def union [BEq α] (registered : List (Priority × Outcome (List α))) : Outcome (List α) :=
  ((tiers registered).mapM id).map fun lists => distinct lists.flatten

section Union

variable [BEq α] {outcome : β → Outcome (List α)} {plans : List (Priority × β)}

theorem union_of_ok {lists : List (List α)} (succeed : (tiers plans).map outcome = lists.map .ok) :
    union (plans.map fun plan => (plan.1, outcome plan.2)) = .ok (distinct lists.flatten) := by
  rw [union, tiers_map, succeed, mapM_id_map_ok]
  rfl

theorem union_of_first_failure {before after : List β} {failing : β} {error : Error}
    (split : tiers plans = before ++ failing :: after)
    (first : FirstFailure outcome before failing error) :
    union (plans.map fun plan => (plan.1, outcome plan.2)) = .error error := by
  rw [union, tiers_map, split, first.mapM_eq after]
  rfl

end Union

end Lazy

end SymbolResolver
