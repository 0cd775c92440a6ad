import SymbolResolver.Proofs.Evolutions
import SymbolResolver.Proofs.Readings

/-!
# Footprints

A computation asks for the cells that it starts or waits for on the course that a store bears out.
The cells that are involved when some cells run are those that they ask for, the cells that these
ask for, and so on (`Store.Involves`). A run leaves all other cells alone (`Store.state?_run`), and
so does every turn of a computation that is run in turns, with anything happening in between
(`Store.Proceeds.state_kept`).
-/

namespace SymbolResolver

namespace Lazy

variable {ε ν α : Type}

/-- A computation comes to a point where it starts a cell or waits for it. -/
def Computation.Asks (store : Store ε ν) (cell : Nat) (work : Computation ε ν α) : Prop :=
  ∃ trace rest, store.Runs (fun _ => False) work trace rest ∧
    ((∃ next, rest = .start cell next) ∨ ∃ next, rest = .await cell next)

/-- What is left to do in a cell asks for another cell. -/
def CellState.Asks (store : Store ε ν) (cell : Nat) : CellState ε ν → Prop
  | pending work | running work => work.Asks store cell
  | settled _ => False

namespace Store

/-- The cells that some cells ask for until a store is reached, directly or through others. -/
inductive Involves (before after : Store ε ν) (roots : Nat → Prop) : Nat → Prop
  | root {cell : Nat} : roots cell → Involves before after roots cell
  | asked {cell other : Nat} {state : CellState ε ν} : Involves before after roots cell →
      before.state? cell = some state → state.Asks after other → Involves before after roots other

/-- Cells that ask for no others involve no others. -/
theorem Involves.of_unasking {before after : Store ε ν} {roots : Nat → Prop}
    (unasking : ∀ cell state other, roots cell → before.state? cell = some state →
      ¬state.Asks after other) {cell : Nat} (involved : before.Involves after roots cell) :
    roots cell := by
  induction involved with
  | root is_root => exact is_root
  | asked _ found asks is_root => exact absurd asks (unasking _ _ _ is_root found)

/-! ## What a run leaves alone -/

/-- On the way from one store to another only involved cells have changed. -/
structure Sparing (roots : Nat → Prop) (before after middle : Store ε ν) : Prop where
  onward : before.Onward middle
  size_eq : middle.size = before.size
  state_eq : ∀ cell, ¬before.Involves after roots cell →
    middle.state? cell = before.state? cell

namespace Sparing

variable {roots : Nat → Prop} {before after middle : Store ε ν} {cell bound : Nat}

theorem refl (roots : Nat → Prop) (before after : Store ε ν) :
    Sparing roots before after before :=
  ⟨.refl before, rfl, fun _ _ => rfl⟩

theorem record (sparing : Sparing roots before after middle) (event : ε) :
    Sparing roots before after (middle.record event) :=
  ⟨sparing.onward.trans (.record middle event), sparing.size_eq, sparing.state_eq⟩

theorem start (sparing : Sparing roots before after middle)
    (involved : before.Involves after roots cell) :
    Sparing roots before after (middle.start cell) := by
  refine ⟨sparing.onward.trans (.start middle cell), (size_start _ _).trans sparing.size_eq, ?_⟩
  intro other spared
  have different : cell ≠ other := by
    rintro rfl
    exact spared involved
  rw [state?_start, if_neg different]
  exact sparing.state_eq other spared

/-- A computation that asks only for involved cells changes no others. -/
theorem advance
    (polls : ∀ {cell middle}, before.Involves after roots cell →
      Sparing roots before after middle → (Store.pollBelow bound cell middle).Precedes after →
      Sparing roots before after (Store.pollBelow bound cell middle))
    {work : Computation ε ν α}
    (asks_involved : ∀ other, work.Asks after other → before.Involves after roots other)
    (sparing : Sparing roots before after middle)
    (order : (Store.advance (Store.pollBelow bound) work middle).2.Precedes after) :
    Sparing roots before after (Store.advance (Store.pollBelow bound) work middle).2 := by
  have goes_on : ∀ (next : Computation ε ν α) (middle : Store ε ν),
      (Store.advance (Store.pollBelow bound) next middle).2.Precedes after →
      middle.Precedes after :=
    fun next middle => (precedes_advance
      (fun store cell => precedes_pollBelow bound cell store) next middle).trans
  induction work generalizing middle with
  | finish result => exact sparing
  | breakOff => exact sparing
  | note event next ih =>
      refine ih (fun other asks => asks_involved other ?_) (sparing.record event) order
      obtain ⟨trace, rest, run, stops⟩ := asks
      exact ⟨_, rest, .note run, stops⟩
  | pass gate next ih =>
      simp only [Store.advance] at order ⊢
      split
      · next is_open =>
        rw [if_pos is_open] at order
        refine ih (fun other asks => asks_involved other ?_) sparing order
        obtain ⟨trace, rest, run, stops⟩ := asks
        exact ⟨_, rest, .pass ((goes_on next middle order).gate_kept is_open) run, stops⟩
      · exact sparing
  | start cell next ih =>
      refine ih (fun other asks => asks_involved other ?_)
        (sparing.start (asks_involved cell ⟨[], _, .stay _, .inl ⟨next, rfl⟩⟩)) order
      obtain ⟨trace, rest, run, stops⟩ := asks
      exact ⟨_, rest, .start run, stops⟩
  | await cell next ih =>
      have involved := asks_involved cell ⟨[], _, .stay _, .inr ⟨next, rfl⟩⟩
      simp only [Store.advance] at order ⊢
      cases known : (Store.pollBelow bound cell (middle.start cell)).outcome? cell with
      | none =>
          simp only [known] at order ⊢
          exact polls involved (sparing.start involved) order
      | some outcome =>
          simp only [known] at order ⊢
          have polled_order := goes_on _ _ order
          refine ih outcome (fun other asks => asks_involved other ?_)
            (polls involved (sparing.start involved) polled_order) order
          obtain ⟨trace, rest, run, stops⟩ := asks
          exact ⟨_, rest, .await (polled_order.outcome_kept known) run, stops⟩
  | peek cell next ih =>
      simp only [Store.advance] at order ⊢
      refine ih _ (fun other asks => asks_involved other ?_) sparing order
      obtain ⟨trace, rest, run, stops⟩ := asks
      refine ⟨_, rest, .peek ?_ run, stops⟩
      cases known : middle.outcome? cell with
      | none => exact .inr ⟨id, rfl⟩
      | some outcome => exact .inl ((goes_on _ _ order).outcome_kept known).symm

/-- What a running cell asks for is what it was going to ask for before. -/
theorem asks_of_running (sparing : Sparing roots before after middle)
    (order : middle.Precedes after) {work : Computation ε ν (Outcome ν)}
    (running : middle.state? cell = some (.running work)) :
    ∃ state, before.state? cell = some state ∧
      ∀ other, work.Asks after other → state.Asks after other := by
  have inside : cell < before.size := sparing.size_eq ▸ lt_size_of_state? running
  obtain ⟨state, found⟩ := exists_state?_of_lt inside
  obtain ⟨trace, later, found_later, advances⟩ := sparing.onward.advances cell state found
  obtain rfl : CellState.running work = later :=
    Option.some.inj (running.symm.trans found_later)
  have from_origin : ∀ origin, CellState.Reached middle origin trace (.running work) →
      ∀ other, work.Asks after other → origin.Asks after other := by
    rintro origin ⟨rest, run, held⟩ other ⟨more, stop, run_on, stops⟩
    obtain rfl : work = rest := by
      rcases held with same | same
      · injection same
      · cases rest <;> cases same <;> rfl
    exact ⟨_, stop, (run.mono order fun _ impossible => impossible.elim).trans run_on, stops⟩
  refine ⟨state, found, ?_⟩
  cases state with
  | pending origin =>
      rcases advances with ⟨_, impossible⟩ | reached
      · cases impossible
      · exact from_origin origin reached
  | running origin => exact from_origin origin advances
  | settled outcome => cases advances.2

theorem pollBelow (involved : before.Involves after roots cell)
    (sparing : Sparing roots before after middle)
    (order : (Store.pollBelow bound cell middle).Precedes after) :
    Sparing roots before after (Store.pollBelow bound cell middle) := by
  refine pollBelow_induct
    (motive := fun _ cell middle polled => before.Involves after roots cell →
      Sparing roots before after middle → polled.Precedes after → Sparing roots before after polled)
    (fun _ _ _ sparing _ => sparing) ?_ (fun _ _ _ _ sparing _ => sparing)
    (fun _ _ _ _ _ earlier => earlier) bound cell middle involved sparing order
  intro cell work middle earlier running involved sparing order
  have left := precedes_ofRest (running_advance running work)
    (Store.advance (Store.pollBelow cell) work middle).1
  have begins := (precedes_advance (fun store cell => precedes_pollBelow _ cell store) work
    middle).trans (left.trans order)
  obtain ⟨state, found, asks⟩ := sparing.asks_of_running begins running
  -- Whatever the cell asks for is involved and earlier.
  have advanced := sparing.advance
    (fun involved sparing order => earlier _ _ involved sparing order)
    (fun other asked => .asked involved found (asks other asked)) (left.trans order)
  have polled := pollBelow_of_running running
  refine ⟨?_, ?_, fun other spared => ?_⟩
  · exact polled ▸ sparing.onward.trans (.pollBelow (cell + 1) cell middle)
  · exact polled ▸ (size_pollBelow (cell + 1) cell middle).trans sparing.size_eq
  · have different : cell ≠ other := by
      rintro rfl
      exact spared involved
    rw [state?_modify, if_neg different]
    exact advanced.state_eq other spared

end Sparing

/-- A run leaves every cell alone that is not involved with those it asks for. -/
theorem state?_run {roots : Nat → Prop} {store : Store ε ν} {work : Computation ε ν α}
    (asks_roots : ∀ cell, work.Asks (store.run work).2 cell → roots cell) {cell : Nat}
    (spared : ¬store.Involves (store.run work).2 roots cell) :
    (store.run work).2.state? cell = store.state? cell :=
  ((Sparing.refl roots store (store.run work).2).advance (fun involved sparing =>
    sparing.pollBelow involved) (fun cell asks => .root (asks_roots cell asks))
    (.refl _)).state_eq cell spared

/-- A decided computation asks for sure cells only. -/
theorem sure_of_asks {store : Store ε ν} {work : Computation ε ν α} {sure : Nat → Prop}
    {opened : String → Prop} {shown : Nat → Outcome ν}
    (starts : work.Within { started := fun _ => False }) (decided : work.Decided sure opened shown)
    (agree : ∀ cell outcome, sure cell → store.outcome? cell = some outcome →
      outcome = shown cell) {cell : Nat} (asks : work.Asks store cell) : sure cell := by
  obtain ⟨trace, rest, run, ⟨next, rfl⟩ | ⟨next, rfl⟩⟩ := asks
  · exact ((run.within starts).1.1).elim
  · exact (run.decided agree decided).1

/-! ## Turn after turn -/

/-- A computation is run as far as it can go, and what is left of it is taken up again any number of
times, with anything happening in between. The stores before and after each turn are listed. -/
inductive Proceeds (store : Store ε ν) (work : Computation ε ν α) :
    List (Store ε ν × Store ε ν) → Computation ε ν α → Store ε ν → Prop
  | begin : Proceeds store work [(store, (store.run work).2)] (store.run work).1 (store.run work).2
  | resume {turns : List (Store ε ν × Store ε ν)} {rest : Computation ε ν α}
      {left later : Store ε ν} : Proceeds store work turns rest left → left.Evolves later →
      Proceeds store work (turns ++ [(later, (later.run rest).2)]) (later.run rest).1
        (later.run rest).2

namespace Proceeds

variable {store left final : Store ε ν} {work other rest : Computation ε ν α}
  {turns : List (Store ε ν × Store ε ν)}

theorem of_run_eq (same : store.run work = store.run other)
    (proceeds : store.Proceeds work turns rest left) : store.Proceeds other turns rest left := by
  induction proceeds with
  | begin =>
      rw [same]
      exact .begin
  | resume _ evolves ih => exact .resume ih evolves

theorem runs (proceeds : store.Proceeds work turns rest left) :
    ∃ trace, left.Runs (fun _ => False) work trace rest := by
  induction proceeds with
  | begin => exact store.run_runs work
  | @resume turns rest left later _ evolves ih =>
      obtain ⟨trace, run⟩ := ih
      obtain ⟨more, run_on⟩ := later.run_runs rest
      have order := evolves.order.trans (precedes_run later rest)
      exact ⟨_, (run.mono order fun _ impossible => impossible.elim).trans run_on⟩

/-- In each turn every cell keeps its state that is not involved with those which the computation
asks for. -/
theorem state_kept {sure : Nat → Prop} {opened : String → Prop} {shown : Nat → Outcome ν}
    (proceeds : store.Proceeds work turns rest left) (order : left.Precedes final)
    (starts : work.Within { started := fun _ => False })
    (decided : work.Decided sure opened shown)
    (agree : ∀ cell outcome, sure cell → final.outcome? cell = some outcome →
      outcome = shown cell) :
    ∀ turn ∈ turns, ∀ cell, ¬turn.1.Involves turn.2 sure cell →
      turn.2.state? cell = turn.1.state? cell := by
  have agree_before : ∀ {middle : Store ε ν}, middle.Precedes final → ∀ cell outcome, sure cell →
      middle.outcome? cell = some outcome → outcome = shown cell :=
    fun order cell outcome is_sure known => agree cell outcome is_sure (order.outcome_kept known)
  induction proceeds with
  | begin =>
      rw [List.forall_mem_singleton]
      exact fun cell => state?_run fun cell => sure_of_asks starts decided (agree_before order)
  | @resume turns rest left later earlier evolves ih =>
      have until_final := (evolves.order.trans (precedes_run later rest)).trans order
      obtain ⟨trace, run⟩ := earlier.runs
      have rest_decided := run.decided (agree_before until_final) decided
      rw [List.forall_mem_append, List.forall_mem_singleton]
      refine ⟨ih until_final, fun cell => state?_run fun cell => ?_⟩
      exact sure_of_asks (run.within starts).1 rest_decided (agree_before order)

end Proceeds

end Store

end Lazy

end SymbolResolver
