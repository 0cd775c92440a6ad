import SymbolResolver.Lazy.Shelf
import SymbolResolver.Proofs.Meanings
import SymbolResolver.Proofs.Turns

/-!
# Reading collections

What the computations of a collection touch, and what they come to when the outcomes of its cells
are given. A merged list waits for the sources in order, so the first failure among them is its own,
and a search finds the same whether it reads the merged list or one source after the other.
-/

namespace SymbolResolver

namespace Lazy

variable {ε ν α : Type}

/-! ## Elements up to equality -/

section Distinct

variable [BEq α] {test : α → Bool}

theorem find?_distinctAfter
    (respects : ∀ left right, (left == right) = true → test left = test right)
    (met items : List α) (met_fail : ∀ item ∈ met, test item = false) :
    (distinctAfter met items).find? test = items.find? test := by
  induction items generalizing met with
  | nil => rfl
  | cons item items ih =>
      rw [distinctAfter]
      by_cases known : met.contains item = true
      · obtain ⟨earlier, member, same⟩ := List.contains_iff_exists_mem_beq.mp known
        have item_fails : test item = false := (respects _ _ same).trans (met_fail earlier member)
        rw [if_pos known, List.find?_cons_of_neg (by simp [item_fails])]
        exact ih met met_fail
      · rw [if_neg known, List.find?_cons, List.find?_cons]
        cases passes : test item with
        | true => rfl
        | false => exact ih _ (List.forall_mem_cons.mpr ⟨passes, met_fail⟩)

/-- A test that cannot tell equal elements apart finds the same among the distinct elements. -/
theorem find?_distinct (respects : ∀ left right, (left == right) = true → test left = test right)
    (items : List α) : (distinct items).find? test = items.find? test :=
  find?_distinctAfter respects [] items (by simp)

end Distinct

/-! ## Searching lists -/

/-- What the outcome of a list decides about a search: a failure ends it, and so does a match. -/
def decision (test : α → Bool) : Outcome (List α) → Option (Outcome (Option α))
  | .ok items => (items.find? test).map fun found => .ok (some found)
  | .error error => some (.error error)

/-- The first match among lists, unless a failure comes before it. -/
def firstIn (test : α → Bool) (outcomes : List (Outcome (List α))) : Outcome (Option α) :=
  (outcomes.findSome? (decision test)).getD (.ok none)

section Searching

variable {test : α → Bool}

theorem firstIn_cons_error (error : Error) (outcomes : List (Outcome (List α))) :
    firstIn test (.error error :: outcomes) = .error error := by
  rw [firstIn, List.findSome?_cons]
  rfl

theorem firstIn_cons_of_some {items : List α} {found : α} (matched : items.find? test = some found)
    (outcomes : List (Outcome (List α))) :
    firstIn test (.ok items :: outcomes) = .ok (some found) := by
  rw [firstIn, List.findSome?_cons, decision, matched]
  rfl

theorem firstIn_cons_of_none {items : List α} (unmatched : items.find? test = none)
    (outcomes : List (Outcome (List α))) :
    firstIn test (.ok items :: outcomes) = firstIn test outcomes := by
  rw [firstIn, List.findSome?_cons, decision, unmatched]
  rfl

/-- A match among the lists in front ends a search before anything after them is looked at. -/
theorem firstIn_append (lists : List (List α)) (outcomes : List (Outcome (List α))) :
    firstIn test (lists.map .ok ++ outcomes) =
      match lists.flatten.find? test with
      | some found => .ok (some found)
      | none => firstIn test outcomes := by
  induction lists with
  | nil => rfl
  | cons items lists ih =>
      rw [List.map_cons, List.cons_append, List.flatten_cons, List.find?_append]
      cases matched : items.find? test with
      | some found => exact firstIn_cons_of_some matched _
      | none =>
          rw [firstIn_cons_of_none matched, ih]
          rfl

/-- Without a failure a search finds the first match of all. -/
theorem firstIn_map_ok (lists : List (List α)) :
    firstIn test (lists.map .ok) = .ok (lists.flatten.find? test) := by
  have searched : firstIn test (lists.map .ok ++ []) = _ := firstIn_append lists []
  rw [List.append_nil] at searched
  rw [searched]
  cases lists.flatten.find? test <;> rfl

end Searching

/-! ## Leaves -/

theorem Leaf.work_bind {β : Type} (leaf : Leaf ε α) (continuation : α → Leaf ε β) :
    ((leaf.bind continuation).work : Computation ε ν β) =
      leaf.work.bind fun result => (continuation result).work := by
  induction leaf with
  | finish result => rfl
  | breakOff => rfl
  | note event next ih => simp only [Leaf.bind, work, Computation.bind, ih]
  | pass gate next ih => simp only [Leaf.bind, work, Computation.bind, ih]

theorem Leaf.filterMap_within {β : Type} {scope : Scope ε} {keep : α → Leaf ε (Option β)}
    (kept_within : ∀ item, ((keep item).work : Computation ε ν (Option β)).Within scope)
    (items : List α) :
    ((filterMap keep items).work : Computation ε ν (List β)).Within scope := by
  induction items with
  | nil => trivial
  | cons item items ih =>
      rw [filterMap, work_bind]
      refine Computation.within_bind (kept_within item) fun kept => ?_
      rw [work_bind]
      exact Computation.within_bind ih fun _ => trivial

namespace Collection

variable [Listed ν α]

theorem mem_arrange {sources : List (Source α)} {source : Source α} :
    source ∈ arrange sources ↔ source ∈ sources := by
  simp only [arrange, List.mem_append, List.mem_filter]
  cases source.priority <;> simp

/-- A membership test is a search among the sources that admit the value. -/
theorem scanFor_eq [BEq α] (value : α) (sources : List (Source α)) :
    (scanFor value sources : Computation ε ν (Outcome Bool)) =
      (scanFirst (value == ·) (sources.filter (·.admits value))).mapOk Option.isSome := by
  induction sources with
  | nil => rfl
  | cons source sources ih =>
      rw [scanFor, List.filter_cons]
      split
      · next admitted =>
        refine congrArg (Computation.await source.cell) (funext fun outcome => ?_)
        cases outcome with
        | error error => rfl
        | ok stored =>
            simp only [Computation.bind]
            rw [List.contains_eq_any_beq, ← List.isSome_find?]
            cases (Listed.unwrap stored).find? (value == ·) with
            | some found => rfl
            | none => exact ih
      · exact ih

/-! ## Scopes -/

section Scopes

variable {scope : Scope ε}

theorem pull_within {source : Source α} (awaited : scope.awaited source.cell) :
    (pull source : Computation ε ν (Outcome (List α))).Within scope :=
  Computation.within_mapOk (Computation.outcomeOf_within source.cell awaited) _

omit [Listed ν α] in
theorem startAll_within {β : Type} {sources : List (Source α)}
    (started : ∀ source ∈ sources, scope.started source.cell) {next : Computation ε ν β}
    (within : next.Within scope) : (startAll sources next).Within scope := by
  induction sources with
  | nil => exact within
  | cons source sources ih =>
      rw [List.forall_mem_cons] at started
      exact ⟨started.1, ih started.2⟩

theorem gather_within {sources : List (Source α)}
    (awaited : ∀ source ∈ sources, scope.awaited source.cell) :
    (gather sources : Computation ε ν (Outcome (List α))).Within scope := by
  induction sources with
  | nil => trivial
  | cons source sources ih =>
      rw [List.forall_mem_cons] at awaited
      refine Computation.within_andThen (pull_within awaited.1) fun items => ?_
      exact Computation.within_mapOk (ih awaited.2) _

/-- Merging touches the sources and nothing else. -/
theorem mergeWork_within [BEq α] {sources : List (Source α)}
    (started : ∀ source ∈ sources, scope.started source.cell)
    (awaited : ∀ source ∈ sources, scope.awaited source.cell) :
    (mergeWork sources : Computation ε ν (Outcome ν)).Within scope :=
  startAll_within started (Computation.within_mapOk (gather_within awaited) _)

theorem materialize_within {collection : Collection α} (merged : scope.awaited collection.merged) :
    (materialize collection : Computation ε ν (Outcome (List α))).Within scope :=
  Computation.within_mapOk (Computation.outcomeOf_within collection.merged merged) _

theorem scanFirst_within (test : α → Bool) {sources : List (Source α)}
    (awaited : ∀ source ∈ sources, scope.awaited source.cell) :
    (scanFirst test sources : Computation ε ν (Outcome (Option α))).Within scope := by
  induction sources with
  | nil => trivial
  | cons source sources ih =>
      rw [List.forall_mem_cons] at awaited
      refine Computation.within_andThen (pull_within awaited.1) fun items => ?_
      cases items.find? test with
      | some found => trivial
      | none => exact ih awaited.2

/-- A membership test waits only for sources that admit the value. -/
theorem scanFor_within [BEq α] {value : α} {sources : List (Source α)}
    (awaited : ∀ source ∈ sources, source.admits value = true → scope.awaited source.cell) :
    (scanFor value sources : Computation ε ν (Outcome Bool)).Within scope := by
  rw [scanFor_eq]
  refine Computation.within_mapOk (scanFirst_within _ fun source member => ?_) _
  obtain ⟨listed, admitted⟩ := List.mem_filter.mp member
  exact awaited source listed admitted

theorem readMerged_within {β : Type} {collection : Collection α} {ofMerged : List α → β}
    {ofSources : Computation ε ν (Outcome β)} (merged : scope.looked collection.merged)
    (sources_within : ofSources.Within scope) :
    (readMerged collection ofMerged ofSources).Within scope := by
  refine ⟨merged, fun seen => ?_⟩
  rcases seen with _ | (error | stored)
  · exact sources_within
  · exact sources_within
  · trivial

theorem first?_within {collection : Collection α} (merged : scope.looked collection.merged)
    (awaited : ∀ source ∈ collection.sources, scope.awaited source.cell) (test : α → Bool) :
    (collection.first? test : Computation ε ν (Outcome (Option α))).Within scope :=
  readMerged_within merged (scanFirst_within test awaited)

/-- A reading leaves nothing behind; it looks at the merged list and waits for it or for sources. -/
theorem query_within [BEq α] {collection : Collection α} (looked : scope.looked collection.merged)
    (merged : scope.awaited collection.merged)
    (awaited : ∀ source ∈ collection.sources, scope.awaited source.cell) (query : Query α) :
    (query.work collection : Computation ε ν (Outcome (Finding α))).Within scope := by
  have all_members := materialize_within (ε := ε) (ν := ν) merged
  cases query with
  | materialize => exact Computation.within_mapOk all_members _
  | size => exact Computation.within_mapOk (Computation.within_mapOk all_members _) _
  | isEmpty => exact Computation.within_mapOk (Computation.within_mapOk all_members _) _
  | contains value =>
      have admitted : ∀ source ∈ collection.sources, source.admits value = true →
          scope.awaited source.cell := fun source member _ => awaited source member
      exact Computation.within_mapOk (readMerged_within looked (scanFor_within admitted)) _
  | first test => exact Computation.within_mapOk (first?_within looked awaited test) _

/-- A view waits for the source it views, and otherwise does what its function does. -/
theorem viewWork_within {β : Type} [Listed ν β] {keep : α → Leaf ε (Option β)} {viewed : Source α}
    (awaited : scope.awaited viewed.cell)
    (kept_within : ∀ item, ((keep item).work : Computation ε ν (Option β)).Within scope) :
    (viewWork keep viewed : Computation ε ν (Outcome ν)).Within scope := by
  refine Computation.within_andThen (pull_within awaited) fun items => ?_
  exact Computation.within_bind (Leaf.filterMap_within kept_within items) fun _ => trivial

end Scopes

/-! ## Meanings -/

/-- The members of sources, one list after the other, or the first failure among them. -/
def members (shown : Nat → Outcome ν) (sources : List (Source α)) : Outcome (List α) :=
  (sources.mapM fun source => (shown source.cell).map Listed.unwrap).map List.flatten

section Meanings

variable {shown : Nat → Outcome ν}

theorem members_cons_ok {source : Source α} {stored : ν} (succeeds : shown source.cell = .ok stored)
    (sources : List (Source α)) :
    members shown (source :: sources) =
      (members shown sources).map (Listed.unwrap stored ++ ·) := by
  simp only [members, List.mapM_cons, succeeds]
  cases sources.mapM fun source => (shown source.cell).map (Listed.unwrap (α := α)) <;> rfl

theorem members_cons_error {source : Source α} {error : Error}
    (fails : shown source.cell = .error error) (sources : List (Source α)) :
    members shown (source :: sources) = .error error := by
  simp only [members, List.mapM_cons, fails]
  rfl

theorem members_congr {other : Nat → Outcome ν} {sources : List (Source α)}
    (same : ∀ source ∈ sources, shown source.cell = other source.cell) :
    members shown sources = members other sources := by
  induction sources with
  | nil => rfl
  | cons source sources ih =>
      rw [List.forall_mem_cons] at same
      cases found : shown source.cell with
      | ok stored =>
          rw [members_cons_ok found, members_cons_ok (same.1.symm.trans found), ih same.2]
      | error error =>
          rw [members_cons_error found, members_cons_error (same.1.symm.trans found)]

theorem pull_means (source : Source α) :
    (pull source : Computation ε ν (Outcome (List α))).Means shown
      (.finished ((shown source.cell).map Listed.unwrap)) :=
  (Computation.means_outcomeOf source.cell).mapOk _

omit [Listed ν α] in
theorem startAll_means {β : Type} (sources : List (Source α)) {next : Computation ε ν β}
    {ending : Computation.Progress β} (means : next.Means shown ending) :
    (startAll sources next).Means shown ending := by
  induction sources with
  | nil => exact means
  | cons source sources ih => exact ih

theorem gather_means (sources : List (Source α)) :
    (gather sources : Computation ε ν (Outcome (List α))).Means shown
      (.finished (members shown sources)) := by
  induction sources with
  | nil => rfl
  | cons source sources ih =>
      have pulled : (pull source : Computation ε ν (Outcome (List α))).Means shown
          (.finished ((shown source.cell).map Listed.unwrap)) := pull_means source
      cases found : shown source.cell with
      | ok stored =>
          rw [found] at pulled
          rw [members_cons_ok found]
          exact Computation.Means.andThen pulled (ih.mapOk _)
      | error error =>
          rw [found] at pulled
          rw [members_cons_error found]
          exact Computation.Means.andThen_error pulled

/-- A merged list holds the distinct members of the sources. -/
theorem mergeWork_means [BEq α] (sources : List (Source α)) :
    (mergeWork sources : Computation ε ν (Outcome ν)).Means shown
      (.finished ((members shown sources).map fun items => Listed.wrap (distinct items))) :=
  startAll_means sources ((gather_means sources).mapOk _)

/-- The lists of sources that all succeed make up their members. -/
theorem members_of_lists {sources : List (Source α)} {lists : List (List α)}
    (succeed : (sources.map fun source => (shown source.cell).map Listed.unwrap) =
      lists.map .ok) : members shown sources = .ok lists.flatten := by
  induction sources generalizing lists with
  | nil =>
      cases lists with
      | nil => rfl
      | cons items lists => cases succeed
  | cons source sources ih =>
      cases lists with
      | nil => cases succeed
      | cons items lists =>
          rw [List.map_cons, List.map_cons, List.cons.injEq] at succeed
          obtain ⟨first_ok, others_ok⟩ := succeed
          cases found : shown source.cell with
          | error error =>
              rw [found] at first_ok
              cases first_ok
          | ok stored =>
              rw [found] at first_ok
              obtain rfl : Listed.unwrap stored = items := Except.ok.inj first_ok
              rw [members_cons_ok found, ih others_ok]
              rfl

/-- Sources that all succeed have lists, which make up their members. -/
theorem exists_lists_of_members {sources : List (Source α)} {items : List α}
    (succeed : members shown sources = .ok items) :
    ∃ lists : List (List α),
      (sources.map fun source => (shown source.cell).map Listed.unwrap) = lists.map .ok ∧
        items = lists.flatten := by
  induction sources generalizing items with
  | nil =>
      obtain rfl : [] = items := by
        injection succeed
      exact ⟨[], rfl, rfl⟩
  | cons source sources ih =>
      cases found : shown source.cell with
      | error error =>
          rw [members_cons_error found] at succeed
          cases succeed
      | ok stored =>
          rw [members_cons_ok found] at succeed
          cases rest : members shown sources with
          | error error =>
              rw [rest] at succeed
              cases succeed
          | ok others =>
              rw [rest] at succeed
              obtain rfl : Listed.unwrap stored ++ others = items := by
                injection succeed
              obtain ⟨lists, shown_lists, rfl⟩ := ih rest
              refine ⟨Listed.unwrap stored :: lists, ?_, rfl⟩
              rw [List.map_cons, List.map_cons, found, shown_lists]
              rfl

/-- A scan comes to the first match among the sources, unless a failure comes before it. -/
theorem scanFirst_means (test : α → Bool) (sources : List (Source α)) :
    (scanFirst test sources : Computation ε ν (Outcome (Option α))).Means shown
      (.finished (firstIn test
        (sources.map fun source => (shown source.cell).map Listed.unwrap))) := by
  induction sources with
  | nil => rfl
  | cons source sources ih =>
      have pulled : (pull source : Computation ε ν (Outcome (List α))).Means shown
          (.finished ((shown source.cell).map Listed.unwrap)) := pull_means source
      rw [List.map_cons]
      cases listed : (shown source.cell).map (Listed.unwrap (α := α)) with
      | error error =>
          rw [listed] at pulled
          rw [firstIn_cons_error]
          exact pulled.andThen_error
      | ok items =>
          rw [listed] at pulled
          refine pulled.andThen ?_
          cases matched : items.find? test with
          | some found =>
              rw [firstIn_cons_of_some matched]
              rfl
          | none =>
              rw [firstIn_cons_of_none matched]
              exact ih

/-- A membership test comes to whether a source that admits the value holds it, unless a failure of
such a source comes before. -/
theorem scanFor_means [BEq α] (value : α) (sources : List (Source α)) :
    (scanFor value sources : Computation ε ν (Outcome Bool)).Means shown
      (.finished ((firstIn (value == ·) ((sources.filter (·.admits value)).map fun source =>
        (shown source.cell).map Listed.unwrap)).map Option.isSome)) := by
  rw [scanFor_eq]
  exact (scanFirst_means (value == ·) (sources.filter (·.admits value))).mapOk Option.isSome

/-- A search comes to the first match among the members of the sources, whether or not the merged
list is there already. -/
theorem first?_means [BEq α] {test : α → Bool}
    (respects : ∀ left right, (left == right) = true → test left = test right)
    {collection : Collection α} {items : List α}
    (succeed : members shown collection.sources = .ok items)
    (merged : shown collection.merged = .ok (Listed.wrap (distinct items))) :
    (collection.first? test : Computation ε ν (Outcome (Option α))).Means shown
      (.finished (.ok (items.find? test))) := by
  have scanned : (scanFirst test collection.sources :
      Computation ε ν (Outcome (Option α))).Means shown _ := scanFirst_means test collection.sources
  obtain ⟨lists, shown_lists, rfl⟩ := exists_lists_of_members succeed
  rw [shown_lists, firstIn_map_ok] at scanned
  refine ⟨scanned, ?_⟩
  rw [merged]
  simp only [Listed.unwrap_wrap, find?_distinct respects, Computation.Means]

end Meanings

end Collection

end Lazy

end SymbolResolver
