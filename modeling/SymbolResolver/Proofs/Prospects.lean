import SymbolResolver.Proofs.Evolutions

/-!
# Prospects

What whoever waits for a cell now would get at once can be read off the store without running
anything: the outcome if the cell is settled, and otherwise what its computation comes to with the
prospects of the cells before it (`Store.prospect`). A prospect comes true when somebody waits
(`Store.run_outcomeOf_of_prospect`), and nothing that happens before takes it away
(`Store.Onward.prospectBelow_kept`). Where the computation of a cell looks at no other cell, its
prospect is a function of the prospects of those it waits for, however far it has come
(`Store.Holds.prospect_eq`).
-/

namespace SymbolResolver

namespace Lazy

variable {ε ν α β : Type}

namespace Computation

/-- The outcome of a cell whose computation has come so far. -/
def Progress.outcome? : Progress (Outcome ν) → Option (Outcome ν)
  | finished outcome => some outcome
  | brokenOff => some (.error .brokenOff)
  | waiting => none

/-- What a computation comes to at once, given what can be had of cells and which gates are open. A
look may show more than can be had, so nothing is said beyond it. -/
def prospect (had : Nat → Option (Outcome ν)) (opened : String → Bool) :
    Computation ε ν α → Progress α
  | finish result => .finished result
  | breakOff => .brokenOff
  | note _ next => next.prospect had opened
  | pass gate next => if opened gate then next.prospect had opened else .waiting
  | start _ next => next.prospect had opened
  | await cell next =>
    match had cell with
    | some outcome => (next outcome).prospect had opened
    | none => .waiting
  | peek _ _ => .waiting

/-- The scope of a computation that looks at no cell. -/
def lookless : Scope ε := { looked := fun _ => False }

variable {had more : Nat → Option (Outcome ν)} {opened wider : String → Bool}

theorem Progress.outcome?_eq_none {progress : Progress (Outcome ν)} :
    progress.outcome? = none ↔ progress = .waiting := by
  cases progress <;> simp [Progress.outcome?]

/-- What goes on after a computation depends on its prospect only. -/
theorem prospect_bind (work : Computation ε ν α) (continuation : α → Computation ε ν β) :
    (work.bind continuation).prospect had opened =
      match work.prospect had opened with
      | .finished result => (continuation result).prospect had opened
      | .brokenOff => .brokenOff
      | .waiting => .waiting := by
  induction work with
  | finish result => rfl
  | breakOff => rfl
  | note event next ih => exact ih
  | pass gate next ih =>
      simp only [bind, prospect]
      split
      · exact ih
      · rfl
  | start cell next ih => exact ih
  | await cell next ih =>
      simp only [bind, prospect]
      split
      · exact ih _
      · rfl
  | peek cell next ih => rfl

/-- Only what can be had of the cells within the scope of a computation matters. -/
theorem prospect_congr {scope : Scope ε} {work : Computation ε ν α} (within : work.Within scope)
    (same : ∀ cell, scope.awaited cell → had cell = more cell) :
    work.prospect had opened = work.prospect more opened := by
  induction work with
  | finish result => rfl
  | breakOff => rfl
  | note event next ih => exact ih within.2
  | pass gate next ih => simp only [prospect, ih within.2]
  | start cell next ih => exact ih within.2
  | await cell next ih =>
      simp only [prospect, same cell within.1]
      split
      · exact ih _ (within.2 _)
      · rfl
  | peek cell next ih => rfl

/-- If more can be had and more gates are open, an end that was in prospect still is. -/
theorem prospect_mono
    (had_more : ∀ cell outcome, had cell = some outcome → more cell = some outcome)
    (opened_more : ∀ gate, opened gate = true → wider gate = true) {work : Computation ε ν α}
    (ends : work.prospect had opened ≠ .waiting) :
    work.prospect more wider = work.prospect had opened := by
  induction work with
  | finish result => rfl
  | breakOff => rfl
  | note event next ih => exact ih ends
  | pass gate next ih =>
      simp only [prospect] at ends ⊢
      split at ends
      · next is_open =>
        rw [if_pos (opened_more gate is_open), if_pos is_open]
        exact ih ends
      · exact absurd rfl ends
  | start cell next ih => exact ih ends
  | await cell next ih =>
      simp only [prospect] at ends ⊢
      cases found : had cell with
      | none => simp [found] at ends
      | some outcome =>
          simp only [found] at ends
          simp only [had_more cell outcome found]
          exact ih outcome ends
  | peek cell next ih => exact absurd rfl ends

end Computation

/-- What whoever waits for a cell in a state gets at once. -/
def CellState.prospect (had : Nat → Option (Outcome ν)) (opened : String → Bool) :
    CellState ε ν → Option (Outcome ν)
  | pending work | running work => (work.prospect had opened).outcome?
  | settled outcome => some outcome

/-! ## Along a course -/

section Courses

variable {store : Store ε ν} {had : Nat → Option (Outcome ν)}

/-- The prospect of a computation stays the same along its course, if it looks at no cell or its end
is in prospect. -/
theorem Store.Runs.prospect_eq {firm : Nat → Prop} {work rest : Computation ε ν α} {trace : List ε}
    (run : store.Runs firm work trace rest)
    (settled_had : ∀ cell outcome, store.outcome? cell = some outcome → had cell = some outcome)
    (looks : work.prospect had store.isOpen = .waiting → work.Within Computation.lookless) :
    rest.prospect had store.isOpen = work.prospect had store.isOpen := by
  induction run with
  | stay => rfl
  | note _ ih => exact ih fun waiting => (looks waiting).2
  | pass opened _ ih =>
      simp only [Computation.prospect, opened, if_true] at looks ⊢
      exact ih fun waiting => (looks waiting).2
  | start _ ih => exact ih fun waiting => (looks waiting).2
  | await known _ ih =>
      simp only [Computation.prospect, settled_had _ _ known] at looks ⊢
      exact ih fun waiting => (looks waiting).2 _
  | peek _ _ _ => exact (looks rfl).1.elim

namespace CellState

theorem prospect_ofRest (opened : String → Bool) (rest : Computation ε ν (Outcome ν)) :
    (ofRest rest).prospect had opened = (rest.prospect had opened).outcome? := by
  cases rest <;> rfl

theorem Reached.prospect_eq {work : Computation ε ν (Outcome ν)} {trace : List ε}
    {state : CellState ε ν} (reached : Reached store work trace state)
    (settled_had : ∀ cell outcome, store.outcome? cell = some outcome → had cell = some outcome)
    (looks : (work.prospect had store.isOpen).outcome? = none → work.Within Computation.lookless) :
    state.prospect had store.isOpen = (work.prospect had store.isOpen).outcome? := by
  obtain ⟨rest, run, held⟩ := reached
  rw [← run.prospect_eq settled_had fun waiting =>
    looks (Computation.Progress.outcome?_eq_none.mpr waiting)]
  rcases held with rfl | rfl
  · rfl
  · exact prospect_ofRest _ rest

theorem Advances.prospect_eq {state later : CellState ε ν} {trace : List ε}
    (advances : state.Advances store trace later)
    (settled_had : ∀ cell outcome, store.outcome? cell = some outcome → had cell = some outcome)
    (looks : state.prospect had store.isOpen = none → state.Within Computation.lookless) :
    later.prospect had store.isOpen = state.prospect had store.isOpen := by
  cases state with
  | pending work =>
      rcases advances with ⟨_, rfl⟩ | reached
      · rfl
      · exact reached.prospect_eq settled_had looks
  | running work => exact Reached.prospect_eq advances settled_had looks
  | settled outcome =>
      obtain ⟨_, rfl⟩ := advances
      rfl

end CellState

end Courses

namespace Store

/-! ## Prospects of cells -/

/-- The prospects of cells when only those below a bound can be run. -/
def prospectBelow (store : Store ε ν) : Nat → Nat → Option (Outcome ν)
  | 0, cell => store.outcome? cell
  | bound + 1, cell =>
    if cell = bound then
      (store.state? cell).bind (CellState.prospect (store.prospectBelow bound) store.isOpen)
    else store.prospectBelow bound cell

/-- What whoever waits for a cell gets at once. -/
def prospect (store : Store ε ν) (cell : Nat) : Option (Outcome ν) :=
  store.prospectBelow (cell + 1) cell

variable {store before after : Store ε ν} {cell bound : Nat} {outcome : Outcome ν}

theorem prospectBelow_self (store : Store ε ν) (cell : Nat) :
    store.prospectBelow (cell + 1) cell =
      (store.state? cell).bind (CellState.prospect (store.prospectBelow cell) store.isOpen) := by
  rw [prospectBelow, if_pos rfl]

theorem prospectBelow_of_ne (store : Store ε ν) (different : cell ≠ bound) :
    store.prospectBelow (bound + 1) cell = store.prospectBelow bound cell := by
  rw [prospectBelow, if_neg different]

theorem prospectBelow_of_lt (store : Store ε ν) (inside : cell < bound) :
    store.prospectBelow bound cell = store.prospect cell := by
  induction bound with
  | zero => exact absurd inside (Nat.not_lt_zero cell)
  | succ bound ih =>
      by_cases last : cell = bound
      · rw [last, prospect]
      · rw [prospectBelow_of_ne store last]
        exact ih (Nat.lt_of_le_of_ne (Nat.le_of_lt_succ inside) last)

/-- What is known can be had. -/
theorem prospectBelow_of_known (known : store.outcome? cell = some outcome) (bound : Nat) :
    store.prospectBelow bound cell = some outcome := by
  induction bound with
  | zero => exact known
  | succ bound ih =>
      by_cases last : cell = bound
      · rw [← last, prospectBelow_self, outcome?_eq_some_iff.mp known]
        rfl
      · rw [prospectBelow_of_ne store last, ih]

theorem prospect_of_known (known : store.outcome? cell = some outcome) :
    store.prospect cell = some outcome := prospectBelow_of_known known _

namespace Onward

/-- What can be had is not lost. -/
theorem prospectBelow_kept (onward : before.Onward after)
    (can_be_had : before.prospectBelow bound cell = some outcome) :
    after.prospectBelow bound cell = some outcome := by
  induction bound generalizing cell outcome with
  | zero => exact onward.order.outcome_kept can_be_had
  | succ bound ih =>
      by_cases last : cell = bound
      · subst last
        rw [prospectBelow_self] at can_be_had ⊢
        obtain ⟨state, found, in_prospect⟩ := Option.bind_eq_some_iff.mp can_be_had
        obtain ⟨trace, later, found_later, advances⟩ := onward.advances cell state found
        have still_in_prospect :
            state.prospect (after.prospectBelow cell) after.isOpen = some outcome := by
          have work_mono : ∀ work : Computation ε ν (Outcome ν),
              (work.prospect (before.prospectBelow cell) before.isOpen).outcome? = some outcome →
              (work.prospect (after.prospectBelow cell) after.isOpen).outcome? = some outcome := by
            intro work ends
            rw [Computation.prospect_mono (fun _ _ => ih) (fun _ => onward.order.gate_kept)]
            · exact ends
            · intro waiting
              simp [waiting, Computation.Progress.outcome?] at ends
          cases state with
          | pending work => exact work_mono work in_prospect
          | running work => exact work_mono work in_prospect
          | settled outcome => exact in_prospect
        rw [found_later, Option.bind_some, advances.prospect_eq
          (fun _ _ known => prospectBelow_of_known known cell) (by simp [still_in_prospect])]
        exact still_in_prospect
      · rw [prospectBelow_of_ne _ last] at can_be_had ⊢
        exact ih can_be_had

/-- An end that is in prospect is not lost. -/
theorem prospect_work (onward : before.Onward after) {work : Computation ε ν α}
    {ending : Computation.Progress α} (ended : ending ≠ .waiting)
    (ends : work.prospect (before.prospectBelow bound) before.isOpen = ending) :
    work.prospect (after.prospectBelow bound) after.isOpen = ending := by
  rw [Computation.prospect_mono (fun _ _ => onward.prospectBelow_kept)
    (fun _ => onward.order.gate_kept) (ends.trans_ne ended), ends]

end Onward

/-! ## Prospects come true -/

/-- A computation comes to its prospect if cells do. -/
theorem progress_advance_of_prospect
    (comes_true : ∀ (store : Store ε ν) cell outcome,
      store.prospectBelow bound cell = some outcome →
      (pollBelow bound cell (store.start cell)).outcome? cell = some outcome)
    {work : Computation ε ν α} {ending : Computation.Progress α} (ended : ending ≠ .waiting)
    {store : Store ε ν} (ends : work.prospect (store.prospectBelow bound) store.isOpen = ending) :
    (advance (pollBelow bound) work store).1.progress = ending := by
  induction work generalizing store with
  | finish result => exact ends
  | breakOff => exact ends
  | note event next ih => exact ih ((Onward.record store event).prospect_work ended ends)
  | pass gate next ih =>
      simp only [Computation.prospect] at ends
      split at ends
      · next is_open =>
        simp only [advance, is_open, if_true]
        exact ih ends
      · exact absurd ends.symm ended
  | start cell next ih => exact ih ((Onward.start store cell).prospect_work ended ends)
  | await cell next ih =>
      simp only [Computation.prospect] at ends
      cases can_be_had : store.prospectBelow bound cell with
      | none =>
          rw [can_be_had] at ends
          exact absurd ends.symm ended
      | some outcome =>
          simp only [can_be_had] at ends
          simp only [advance, comes_true store cell outcome can_be_had]
          have onward := (Onward.start store cell).trans (.pollBelow bound cell _)
          exact ih outcome (onward.prospect_work ended ends)
  | peek cell next ih => exact absurd ends.symm ended

/-- A poll leaves a running cell with the prospect of its computation. -/
theorem outcome?_pollBelow_of_running {work : Computation ε ν (Outcome ν)}
    (running : store.state? cell = some (.running work)) :
    (pollBelow (cell + 1) cell store).outcome? cell =
      (advance (pollBelow cell) work store).1.progress.outcome? := by
  rw [outcome?, pollBelow_of_running running, state?_modify, if_pos rfl, running_advance running,
    Option.map_some, Option.bind_some]
  cases (advance (pollBelow cell) work store).1 <;> rfl

/-- Whoever waits for a cell gets what is in prospect. -/
theorem outcome?_pollBelow_of_prospect (store : Store ε ν)
    (in_prospect : store.prospectBelow bound cell = some outcome) :
    (pollBelow bound cell (store.start cell)).outcome? cell = some outcome := by
  induction bound generalizing cell outcome store with
  | zero =>
      rw [pollBelow, start_of_settled in_prospect]
      exact in_prospect
  | succ bound ih =>
      by_cases last : cell = bound
      · subst last
        have started := (Onward.start store cell).prospectBelow_kept in_prospect
        rw [prospectBelow_self] at started
        obtain ⟨state, found, ends⟩ := Option.bind_eq_some_iff.mp started
        cases state with
        | pending work =>
            rw [state?_start, if_pos rfl] at found
            cases before : store.state? cell with
            | none => simp [before] at found
            | some state => cases state <;> simp [before, CellState.started] at found
        | settled known =>
            have is_known := outcome?_eq_some_iff.mpr found
            rw [pollBelow_of_settled is_known, is_known]
            exact ends
        | running work =>
            rw [outcome?_pollBelow_of_running found,
              progress_advance_of_prospect (fun store _ _ => ih store) ?_ rfl]
            · exact ends
            · intro waiting
              rw [CellState.prospect, waiting] at ends
              cases ends
      · rw [pollBelow_of_ne last]
        rw [prospectBelow_of_ne store last] at in_prospect
        exact ih store in_prospect

theorem run_outcomeOf_of_prospect (in_prospect : store.prospect cell = some outcome) :
    (store.run (Computation.outcomeOf cell)).1 = .finish outcome := by
  have inside : cell < store.size := by
    rw [prospect, prospectBelow_self] at in_prospect
    obtain ⟨state, found, _⟩ := Option.bind_eq_some_iff.mp in_prospect
    exact lt_size_of_state? found
  rw [← prospectBelow_of_lt store inside] at in_prospect
  rw [run_outcomeOf_rest, run_outcomeOf_store, outcome?_pollBelow_of_prospect store in_prospect]

/-- A cell whose computation looks at no other cell has the prospect of the computation, however far
it has come. -/
theorem Holds.prospect_eq {work : Computation ε ν (Outcome ν)} (holds : store.Holds cell work)
    (looks : work.Within Computation.lookless) (waits : work.Within { awaited := (· < cell) }) :
    store.prospect cell = (work.prospect store.prospect store.isOpen).outcome? := by
  obtain ⟨trace, state, found, advances⟩ := holds
  rw [prospect, prospectBelow_self, found, Option.bind_some,
    advances.prospect_eq (fun _ _ known => prospectBelow_of_known known cell) fun _ => looks,
    CellState.prospect, Computation.prospect_congr waits fun _ => store.prospectBelow_of_lt]

end Store

end Lazy

end SymbolResolver
