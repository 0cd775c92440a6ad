import SymbolResolver.Proofs.Collections
import SymbolResolver.Proofs.Unions

/-!
# Decided computations

A computation need not depend on everything that it may wait for: once a source has failed, a merged
list does not ask for those after it. Along the way that the outcomes of cells lead, a decided
computation waits only for cells that can be relied on and at gates that are open
(`Computation.Decided`), so it comes to its end, whatever is in the way of other cells
(`Store.Tells.settles_of_decided`). What a computation means and that it is decided stays so along
its course, and so it can be said of a cell long after the cell was made.
-/

namespace SymbolResolver

namespace Lazy

variable {ε ν α β : Type}

namespace Computation

/-- On the way that given outcomes lead, a computation waits only for sure cells and at open gates.
A look may come too early. -/
def Decided (sure : Nat → Prop) (opened : String → Prop) (shown : Nat → Outcome ν) :
    Computation ε ν α → Prop
  | finish _ => True
  | breakOff => True
  | note _ next => next.Decided sure opened shown
  | pass gate next => opened gate ∧ next.Decided sure opened shown
  | start _ next => next.Decided sure opened shown
  | await cell next => sure cell ∧ (next (shown cell)).Decided sure opened shown
  | peek cell next => sure cell ∧ (next none).Decided sure opened shown ∧
      (next (some (shown cell))).Decided sure opened shown

variable {sure : Nat → Prop} {opened : String → Prop} {shown : Nat → Outcome ν}

theorem Decided.bind {work : Computation ε ν α} {result : α} {continuation : α → Computation ε ν β}
    (decided : work.Decided sure opened shown) (means : work.Means shown (.finished result))
    (continued : (continuation result).Decided sure opened shown) :
    (work.bind continuation).Decided sure opened shown := by
  induction work with
  | finish own_result =>
      obtain rfl : result = own_result := by
        injection means
      exact continued
  | breakOff => trivial
  | note event next ih => exact ih decided means
  | pass gate next ih => exact ⟨decided.1, ih decided.2 means⟩
  | start cell next ih => exact ih decided means
  | await cell next ih => exact ⟨decided.1, ih _ decided.2 means⟩
  | peek cell next ih =>
      exact ⟨decided.1, ih _ decided.2.1 means.1, ih _ decided.2.2 means.2⟩

theorem Decided.mapOk {work : Computation ε ν (Outcome α)} {outcome : Outcome α}
    (decided : work.Decided sure opened shown) (means : work.Means shown (.finished outcome))
    (f : α → β) : (work.mapOk f).Decided sure opened shown := by
  refine decided.bind means ?_
  cases outcome <;> trivial

end Computation

/-! ## Merging -/

namespace Collection

variable [Listed ν α] {sure : Nat → Prop} {opened : String → Prop} {shown : Nat → Outcome ν}

theorem pull_decided {source : Source α} (is_sure : sure source.cell) :
    (pull source : Computation ε ν (Outcome (List α))).Decided sure opened shown := by
  have waited : (Computation.outcomeOf source.cell : Computation ε ν (Outcome ν)).Decided
      sure opened shown := ⟨is_sure, trivial⟩
  exact waited.mapOk (Computation.means_outcomeOf source.cell) _

omit [Listed ν α] in
theorem startAll_decided (sources : List (Source α)) {next : Computation ε ν β}
    (decided : next.Decided sure opened shown) :
    (startAll sources next).Decided sure opened shown := by
  induction sources with
  | nil => exact decided
  | cons source sources ih => exact ih

/-- Gathering goes no further than the first source that fails. -/
theorem gather_decided {sources : List (Source α)}
    (are_sure : ∀ source ∈ upToFailure (fun source => shown source.cell) sources,
      sure source.cell) :
    (gather sources : Computation ε ν (Outcome (List α))).Decided sure opened shown := by
  induction sources with
  | nil => trivial
  | cons source sources ih =>
      have pulled : (pull source : Computation ε ν (Outcome (List α))).Means shown
          (.finished ((shown source.cell).map Listed.unwrap)) := pull_means source
      cases found : shown source.cell with
      | ok stored =>
          rw [upToFailure_of_ok (fun source : Source α => shown source.cell) found,
            List.forall_mem_cons] at are_sure
          refine (pull_decided are_sure.1).bind pulled ?_
          rw [found]
          exact (ih are_sure.2).mapOk (gather_means sources) _
      | error error =>
          rw [upToFailure_of_error (fun source : Source α => shown source.cell) found,
            List.forall_mem_singleton] at are_sure
          refine (pull_decided are_sure).bind pulled ?_
          rw [found]
          trivial

theorem mergeWork_decided [BEq α] {sources : List (Source α)}
    (are_sure : ∀ source ∈ upToFailure (fun source => shown source.cell) sources,
      sure source.cell) :
    (mergeWork sources : Computation ε ν (Outcome ν)).Decided sure opened shown :=
  startAll_decided sources ((gather_decided are_sure).mapOk (gather_means sources) _)

end Collection

/-! ## Along a course -/

section Courses

variable {store : Store ε ν} {firm : Nat → Prop} {shown : Nat → Outcome ν} {trace : List ε}
  {sure : Nat → Prop} {opened : String → Prop} {scope : Scope ε}

/-- What is left of a computation means what it has meant, if the cells in its scope have shown what
was given. -/
theorem Store.Runs.means {work rest : Computation ε ν α} {ending : Computation.Progress α}
    (run : store.Runs firm work trace rest) (within : work.Within scope)
    (awaited_agree : ∀ cell outcome, scope.awaited cell → store.outcome? cell = some outcome →
      outcome = shown cell)
    (looked_agree : ∀ cell outcome, scope.looked cell → store.outcome? cell = some outcome →
      outcome = shown cell)
    (means : work.Means shown ending) : rest.Means shown ending := by
  induction run with
  | stay => exact means
  | note _ ih => exact ih within.2 means
  | pass _ _ ih => exact ih within.2 means
  | start _ ih => exact ih within.2 means
  | await known _ ih =>
      obtain rfl := awaited_agree _ _ within.1 known
      exact ih (within.2 _) means
  | @peek cell next seen rest trace looked _ ih =>
      refine ih (within.2 seen) ?_
      cases seen with
      | none => exact means.1
      | some outcome =>
          have known : store.outcome? cell = some outcome := by
            rcases looked with shown_now | ⟨_, early⟩
            · exact shown_now.symm
            · cases early
          obtain rfl := looked_agree cell outcome within.1 known
          exact means.2

theorem Store.Runs.decided {work rest : Computation ε ν α}
    (run : store.Runs firm work trace rest)
    (agree : ∀ cell outcome, sure cell → store.outcome? cell = some outcome →
      outcome = shown cell)
    (decided : work.Decided sure opened shown) :
    rest.Decided sure opened shown := by
  induction run with
  | stay => exact decided
  | note _ ih => exact ih decided
  | pass _ _ ih => exact ih decided.2
  | start _ ih => exact ih decided
  | await known _ ih =>
      obtain rfl := agree _ _ decided.1 known
      exact ih decided.2
  | @peek cell next seen rest trace looked _ ih =>
      refine ih ?_
      cases seen with
      | none => exact decided.2.1
      | some outcome =>
          have known : store.outcome? cell = some outcome := by
            rcases looked with shown_now | ⟨_, early⟩
            · exact shown_now.symm
            · cases early
          obtain rfl := agree cell outcome decided.1 known
          exact decided.2.2

end Courses

namespace CellState

variable {store : Store ε ν} {shown : Nat → Outcome ν} {trace : List ε} {sure : Nat → Prop}
  {opened : String → Prop} {scope : Scope ε}

/-- What is left to do in a cell is decided. -/
def Decided (sure : Nat → Prop) (opened : String → Prop) (shown : Nat → Outcome ν) :
    CellState ε ν → Prop
  | pending work | running work => work.Decided sure opened shown
  | settled _ => True

theorem decided_ofRest {rest : Computation ε ν (Outcome ν)}
    (decided : rest.Decided sure opened shown) : (ofRest rest).Decided sure opened shown := by
  cases rest <;> exact decided

/-- What holds of the computation of a cell holds of the states to which it leads, if it stays so
along a course. -/
theorem Advances.carries (Holds : Computation ε ν (Outcome ν) → Prop)
    (HoldsOf : CellState ε ν → Prop) {work : Computation ε ν (Outcome ν)} {state : CellState ε ν}
    (pending_holds : HoldsOf (pending work))
    (running_holds : ∀ rest, Holds rest → HoldsOf (running rest))
    (rest_holds : ∀ rest, Holds rest → HoldsOf (ofRest rest))
    (course_holds : ∀ rest, store.Runs (fun _ => False) work trace rest → Holds rest)
    (advances : (pending work).Advances store trace state) : HoldsOf state := by
  rcases advances with ⟨_, rfl⟩ | ⟨rest, run, rfl | rfl⟩
  · exact pending_holds
  · exact running_holds rest (course_holds rest run)
  · exact rest_holds rest (course_holds rest run)

theorem Advances.within {work : Computation ε ν (Outcome ν)} {state : CellState ε ν}
    (advances : (pending work).Advances store trace state) (within : work.Within scope) :
    state.Within scope :=
  advances.carries (fun rest => rest.Within scope) (fun state => state.Within scope) within
    (fun _ => id) (fun _ => within_ofRest) fun _ run => (run.within within).1

theorem Advances.means {work : Computation ε ν (Outcome ν)} {state : CellState ε ν}
    {ending : Computation.Progress (Outcome ν)} {outcome : Outcome ν}
    (advances : (pending work).Advances store trace state) (within : work.Within scope)
    (awaited_agree : ∀ cell outcome, scope.awaited cell → store.outcome? cell = some outcome →
      outcome = shown cell)
    (looked_agree : ∀ cell outcome, scope.looked cell → store.outcome? cell = some outcome →
      outcome = shown cell)
    (means : work.Means shown ending) (guarded : ending.guarded = .finished outcome) :
    state.Means shown outcome :=
  advances.carries (fun rest => rest.Means shown ending)
    (fun state => state.Means shown outcome) ⟨ending, means, guarded⟩
    (fun _ rest_means => ⟨ending, rest_means, guarded⟩)
    (fun _ rest_means => means_ofRest rest_means guarded)
    fun _ run => run.means within awaited_agree looked_agree means

theorem Advances.decided {work : Computation ε ν (Outcome ν)} {state : CellState ε ν}
    (advances : (pending work).Advances store trace state)
    (agree : ∀ cell outcome, sure cell → store.outcome? cell = some outcome →
      outcome = shown cell)
    (decided : work.Decided sure opened shown) : state.Decided sure opened shown :=
  advances.carries (fun rest => rest.Decided sure opened shown)
    (fun state => state.Decided sure opened shown) decided (fun _ => id)
    (fun _ => decided_ofRest) fun _ run => run.decided agree decided

end CellState

/-! ## Coming to an end -/

theorem CellState.within_all (state : CellState ε ν) : state.Within {} := by
  cases state with
  | pending work => exact work.within_all
  | running work => exact work.within_all
  | settled outcome => trivial

/-- A cell that nobody relies on may do anything. -/
theorem all_le_among {trusted : Nat → Prop} (opened : String → Prop) {cell : Nat}
    (untrusted : ¬ trusted cell) : ({} : Scope ε).Le (among trusted opened cell) :=
  ⟨fun _ _ => trivial, fun _ _ is_trusted => absurd is_trusted untrusted, fun _ _ => trivial,
    fun _ _ is_trusted => absurd is_trusted untrusted,
    fun _ _ is_trusted => absurd is_trusted untrusted, fun _ => trivial⟩

namespace Store.Tells

variable {trusted : Nat → Prop} {opened : String → Prop} {shown : Nat → Outcome ν}
  {store : Store ε ν}

/-- A decided computation comes to its end, if the gates on its way are open. -/
theorem advance_ends {bound : Nat} {work : Computation ε ν α}
    (tells : store.Tells trusted opened shown)
    (gates : ∀ gate, opened gate → store.isOpen gate = true) (bound_le : bound ≤ store.size)
    (decided : work.Decided (fun cell => trusted cell ∧ cell < bound) opened shown) :
    (Store.advance (Store.pollBelow bound) work store).1.progress ≠ .waiting := by
  induction work generalizing store with
  | finish result => exact fun impossible => nomatch impossible
  | breakOff => exact fun impossible => nomatch impossible
  | note event next ih => exact ih ⟨tells.within, tells.means⟩ gates bound_le decided
  | pass gate next ih =>
      simp only [Store.advance, gates gate decided.1, if_true]
      exact ih tells gates bound_le decided.2
  | start cell next ih =>
      refine ih (tells.start cell) gates ?_ decided
      rw [size_start]
      exact bound_le
  | await cell next ih =>
      have polled := (tells.start cell).pollBelow bound cell
      have flowing : store.Flowing trusted opened := ⟨tells.within, gates⟩
      obtain ⟨outcome, known⟩ :=
        flowing.pollBelow_settles decided.1.1 decided.1.2 bound_le
      obtain rfl := polled.outcome_eq decided.1.1 known
      simp only [Store.advance, known]
      refine ih (shown cell) polled (fun gate allowed => ?_) ?_ decided.2
      · exact (precedes_pollBelow bound cell _).gate_kept (gates gate allowed)
      · rw [size_pollBelow, size_start]
        exact bound_le
  | peek cell next ih =>
      simp only [Store.advance]
      cases known : store.outcome? cell with
      | none => exact ih none tells gates bound_le decided.2.1
      | some outcome =>
          obtain rfl := tells.outcome_eq decided.1.1 known
          exact ih _ tells gates bound_le decided.2.2

/-- Whoever waits for a cell gets its outcome if what is left to do there is decided. -/
theorem settles_of_decided (tells : store.Tells trusted opened shown)
    (gates : ∀ gate, opened gate → store.isOpen gate = true) {cell : Nat} {state : CellState ε ν}
    (found : store.state? cell = some state)
    (decided : state.Decided (fun other => trusted other ∧ other < cell) opened shown) :
    ∃ outcome, (Store.pollBelow store.size cell (store.start cell)).outcome? cell =
      some outcome := by
  have inside := lt_size_of_state? found
  rw [pollBelow_of_lt inside]
  refine Flowing.settled_of_demanded inside fun work running => ?_
  have same : state.started = .running work := by
    rw [state?_start, if_pos rfl, found, Option.map_some] at running
    exact Option.some.inj running
  have work_decided : work.Decided (fun other => trusted other ∧ other < cell) opened shown := by
    cases state with
    | pending origin | running origin =>
        cases same
        exact decided
    | settled outcome => cases same
  have size_le : cell ≤ (store.start cell).size := by
    rw [size_start]
    exact Nat.le_of_lt inside
  exact (tells.start cell).advance_ends gates size_le work_decided

end Store.Tells

end Lazy

end SymbolResolver
