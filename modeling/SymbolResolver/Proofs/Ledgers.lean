import Mathlib.Algebra.BigOperators.Group.Finset.Basic
import Mathlib.Algebra.Order.Group.Multiset
import Mathlib.Tactic.Abel
import SymbolResolver.Proofs.Flights

/-!
# Ledgers of notes

Every note of a store is booked to the cell that has left it. `Store.Ledger` says what has happened
between two stores: each cell has gone on by one run, and the notes that have come are those of the
runs, and some extra ones of whoever is running beside the cells. Over a whole history the notes of
a store are those of one run for each cell from the state it was made in (`Store.Booked`), so
nothing has run twice.
-/

namespace SymbolResolver

namespace Lazy

variable {ε ν α : Type}

/-- The scope of a computation that leaves no notes. -/
def noteless : Scope ε := { noted := fun _ => False }

namespace Store

/-- Every cell has gone on by one run that leaves its trace. The notes that have come are those of
the traces and some extra ones. -/
structure Ledger (traces : Nat → List ε) (extra : List ε) (before after : Store ε ν) : Prop where
  order : before.Precedes after
  size_eq : after.size = before.size
  advances : ∀ cell state, before.state? cell = some state →
    ∃ later, after.state? cell = some later ∧ state.Advances after (traces cell) later
  notes_eq : (after.notes : Multiset ε) =
    before.notes + ∑ cell ∈ Finset.range before.size, (traces cell : Multiset ε) + extra

namespace Ledger

variable {traces more : Nat → List ε} {extra others : List ε} {before middle after : Store ε ν}

/-- A change that takes no cell further and leaves no notes. -/
theorem of_quiet (order : before.Precedes after) (size_eq : after.size = before.size)
    (advances : ∀ cell state, before.state? cell = some state →
      ∃ later, after.state? cell = some later ∧ state.Advances after [] later)
    (notes_eq : after.notes = before.notes) : Ledger (fun _ => []) [] before after :=
  ⟨order, size_eq, advances, by simp [notes_eq]⟩

theorem refl (store : Store ε ν) : Ledger (fun _ => []) [] store store :=
  of_quiet (.refl store) rfl (fun _ state found => ⟨state, found, .refl store state⟩) rfl

theorem trans (first : Ledger traces extra before middle)
    (second : Ledger more others middle after) :
    Ledger (fun cell => traces cell ++ more cell) (extra ++ others) before after where
  order := first.order.trans second.order
  size_eq := second.size_eq.trans first.size_eq
  advances cell state found := by
    obtain ⟨between, found_between, advances⟩ := first.advances cell state found
    obtain ⟨later, found_later, advances_on⟩ := second.advances cell between found_between
    exact ⟨later, found_later, (advances.mono second.order).trans advances_on⟩
  notes_eq := by
    have sums : ∑ cell ∈ Finset.range before.size,
        ((traces cell ++ more cell : List ε) : Multiset ε) =
        ∑ cell ∈ Finset.range before.size, (traces cell : Multiset ε) +
          ∑ cell ∈ Finset.range before.size, (more cell : Multiset ε) := by
      rw [← Finset.sum_add_distrib]
      rfl
    rw [second.notes_eq, first.notes_eq, first.size_eq, sums, ← Multiset.coe_add]
    abel

theorem start (store : Store ε ν) (cell : Nat) :
    Ledger (fun _ => []) [] store (store.start cell) := by
  refine of_quiet (precedes_start store cell) (size_start store cell) ?_ rfl
  intro other state found
  by_cases same : cell = other
  · refine ⟨state.started, ?_, CellState.advances_started _ state⟩
    rw [state?_start, if_pos same, found, Option.map_some]
  · refine ⟨state, ?_, .refl _ state⟩
    rw [state?_start, if_neg same, found]

theorem openGate (store : Store ε ν) (gate : String) :
    Ledger (fun _ => []) [] store (store.openGate gate) :=
  of_quiet (precedes_openGate store gate) rfl
    (fun _ state found => ⟨state, found, .refl _ state⟩) rfl

theorem record (store : Store ε ν) (event : ε) :
    Ledger (fun _ => []) [event] store (store.record event) where
  order := precedes_record store event
  size_eq := rfl
  advances _ state found := ⟨state, found, .refl _ state⟩
  notes_eq := by simp [Store.record, ← Multiset.coe_add]

/-- The extra notes are booked to a cell that runs, if its computation has left them and goes on
with the rest. -/
theorem absorb (ledger : Ledger traces extra before after) {cell : Nat}
    {work rest : Computation ε ν (Outcome ν)} (running : after.state? cell = some (.running work))
    (run : after.Runs (fun _ => False) work extra rest) :
    Ledger (fun other => traces other ++ if other = cell then extra else []) [] before
      (after.modify cell fun _ => .ofRest rest) where
  order := ledger.order.trans (precedes_ofRest running rest)
  size_eq := (size_modify after cell _).trans ledger.size_eq
  advances other state found := by
    have order := precedes_ofRest running rest
    obtain ⟨later, found_later, advances⟩ := ledger.advances other state found
    by_cases same : other = cell
    · subst same
      obtain rfl : later = .running work := Option.some.inj (found_later.symm.trans running)
      have onward : (CellState.running work).Advances (after.modify other fun _ => .ofRest rest)
          extra (.ofRest rest) :=
        ⟨rest, run.mono order (fun _ impossible => impossible.elim), Or.inr rfl⟩
      refine ⟨.ofRest rest, ?_, ?_⟩
      · rw [state?_modify, if_pos rfl, running, Option.map_some]
      · rw [if_pos rfl]
        exact (advances.mono order).trans onward
    · refine ⟨later, ?_, ?_⟩
      · rw [state?_modify, if_neg (Ne.symm same), found_later]
      · rw [if_neg same, List.append_nil]
        exact advances.mono order
  notes_eq := by
    have inside : cell ∈ Finset.range before.size := by
      rw [Finset.mem_range, ← ledger.size_eq]
      exact lt_size_of_state? running
    have booked : ∑ other ∈ Finset.range before.size,
        ((if other = cell then extra else [] : List ε) : Multiset ε) = extra := by
      rw [Finset.sum_eq_single_of_mem cell inside, if_pos rfl]
      intro other _ different
      rw [if_neg different, Multiset.coe_nil]
    simp only [notes_modify, ledger.notes_eq, ← Multiset.coe_add, Finset.sum_add_distrib, booked,
      Multiset.coe_nil, add_zero, add_assoc]

end Ledger

namespace Ledger

/-- An advancing computation leaves extra notes along one course, if polling leaves none. -/
theorem advance {poll : Nat → Store ε ν → Store ε ν}
    (poll_ledger : ∀ cell store, ∃ traces, Ledger traces [] store (poll cell store))
    (work : Computation ε ν α) (store : Store ε ν) :
    ∃ traces extra, Ledger traces extra store (Store.advance poll work store).2 ∧
      (Store.advance poll work store).2.Runs (fun _ => False) work extra
        (Store.advance poll work store).1 := by
  let Carried (extra : List ε) (later : Store ε ν) : Prop :=
    ∃ traces, Ledger traces extra store later
  have poll_precedes : ∀ store cell, Precedes store (poll cell store) := by
    intro store cell
    obtain ⟨_, ledger⟩ := poll_ledger cell store
    exact ledger.order
  obtain ⟨extra, ⟨traces, ledger⟩, run⟩ :=
    advance_runs (fun _ => False) (fun _ => none) Carried poll_precedes
      (by
        rintro extra later event _ ⟨traces, ledger⟩
        exact ⟨_, ledger.trans (.record later event)⟩)
      (by
        rintro extra later cell _ ⟨traces, ledger⟩
        exact ⟨_, by simpa using ledger.trans (.start later cell)⟩)
      (by
        rintro extra later cell _ ⟨traces, ledger⟩
        obtain ⟨more, polled⟩ := poll_ledger cell (later.start cell)
        exact ⟨_, by simpa using (ledger.trans (.start later cell)).trans polled⟩)
      (fun _ _ _ _ impossible => impossible.elim) work work.within_all [] store
      ⟨_, .refl store⟩
  exact ⟨traces, extra, ledger, run⟩

theorem pollBelow (bound cell : Nat) (store : Store ε ν) :
    ∃ traces, Ledger traces [] store (Store.pollBelow bound cell store) := by
  refine pollBelow_induct
    (motive := fun _ _ before after => ∃ traces, Ledger traces [] before after)
    (fun _ store => ⟨_, .refl store⟩) ?_ (fun _ store _ => ⟨_, .refl store⟩)
    (fun _ _ _ _ _ earlier => earlier) bound cell store
  intro lower work store lower_ledger running
  obtain ⟨traces, extra, ledger, run⟩ := Ledger.advance lower_ledger work store
  exact ⟨_, ledger.absorb (running_advance running work) run⟩

theorem poll (store : Store ε ν) (cell : Nat) :
    ∃ traces, Ledger traces [] store (store.poll cell) :=
  pollBelow store.size cell store

/-- A poll goes on with the ledger of what came before. -/
theorem after_poll {store : Store ε ν} (later : Store ε ν) (cell : Nat)
    (before : ∃ traces, Ledger traces [] store later) :
    ∃ traces, Ledger traces [] store (later.poll cell) := by
  obtain ⟨traces, ledger⟩ := before
  obtain ⟨more, polled⟩ := Ledger.poll later cell
  exact ⟨_, ledger.trans polled⟩

/-- A computation that leaves no notes of its own. -/
theorem run (store : Store ε ν) {work : Computation ε ν α}
    (silent : work.Within noteless) : ∃ traces, Ledger traces [] store (store.run work).2 := by
  obtain ⟨traces, extra, ledger, run⟩ :=
    Ledger.advance (fun cell store => pollBelow _ cell store) work store
  obtain rfl : extra = [] := List.eq_nil_iff_forall_not_mem.mpr (run.within silent).2
  exact ⟨traces, ledger⟩

theorem runTask (scheduling : Scheduling) (executor : Executor ε ν) (cell : Nat) :
    ∃ traces, Ledger traces [] executor.store (executor.runTask scheduling cell).store :=
  Executor.runTask_preserves (fun later => ∃ traces, Ledger traces [] executor.store later)
    after_poll scheduling executor cell ⟨_, .refl executor.store⟩

theorem settle (scheduling : Scheduling) (held : List Nat) (executor : Executor ε ν) :
    ∃ traces, Ledger traces [] executor.store (executor.settle scheduling held).store :=
  Executor.settle_preserves (fun later => ∃ traces, Ledger traces [] executor.store later)
    after_poll scheduling held executor ⟨_, .refl executor.store⟩

end Ledger

/-! ## New cells -/

/-- A store has got new cells in given states, and nothing else has changed. -/
structure Appends (made : List (CellState ε ν)) (before after : Store ε ν) : Prop where
  states_eq : after.cells.map Cell.state = before.cells.map Cell.state ++ made
  gates_eq : after.openGates = before.openGates
  notes_eq : after.notes = before.notes

namespace Appends

variable {made more : List (CellState ε ν)} {before middle after : Store ε ν}

theorem refl (store : Store ε ν) : Appends [] store store :=
  ⟨by simp, rfl, rfl⟩

theorem allocate (store : Store ε ν) (state : CellState ε ν) (needed : List Nat) :
    Appends [state] store (store.allocate state needed).2 :=
  ⟨by simp [Store.allocate], rfl, rfl⟩

theorem trans (first : Appends made before middle) (second : Appends more middle after) :
    Appends (made ++ more) before after where
  states_eq := by rw [second.states_eq, first.states_eq, List.append_assoc]
  gates_eq := second.gates_eq.trans first.gates_eq
  notes_eq := second.notes_eq.trans first.notes_eq

theorem size_eq (appends : Appends made before after) : after.size = before.size + made.length := by
  have lengths := congrArg List.length appends.states_eq
  simpa [size] using lengths

theorem state?_of_lt (appends : Appends made before after) {cell : Nat}
    (inside : cell < before.size) :
    after.state? cell = before.state? cell := by
  simp only [state?, ← List.getElem?_map, appends.states_eq]
  exact List.getElem?_append_left (by simpa [size] using inside)

theorem state?_of_le (appends : Appends made before after) {cell : Nat}
    (beyond : before.size ≤ cell) : after.state? cell = made[cell - before.size]? := by
  simp only [state?, ← List.getElem?_map, appends.states_eq]
  rw [List.getElem?_append_right (by simpa [size] using beyond), List.length_map, size]

theorem precedes (appends : Appends made before after) : before.Precedes after := by
  refine precedes_of_states ?_ ?_ (appends.size_eq ▸ Nat.le_add_right _ _)
  · intro cell state found
    rw [appends.state?_of_lt (lt_size_of_state? found), found]
  · intro gate opened
    rw [isOpen, appends.gates_eq]
    exact opened

end Appends

/-! ## Whole histories -/

/-- Each cell has come by one run from the state in which it was made, and all notes are those of
the runs. -/
structure Booked (origins : List (CellState ε ν)) (traces : Nat → List ε) (store : Store ε ν) :
    Prop where
  size_eq : store.size = origins.length
  advances : ∀ cell origin, origins[cell]? = some origin →
    ∃ state, store.state? cell = some state ∧ origin.Advances store (traces cell) state
  notes_eq : (store.notes : Multiset ε) =
    ∑ cell ∈ Finset.range store.size, (traces cell : Multiset ε)

namespace Booked

variable {origins : List (CellState ε ν)} {traces more : Nat → List ε} {store next : Store ε ν}

theorem empty : Booked [] traces (Store.empty : Store ε ν) :=
  ⟨rfl, fun _ _ found => by simp at found, rfl⟩

theorem step (booked : Booked origins traces store) (ledger : Ledger more [] store next) :
    Booked origins (fun cell => traces cell ++ more cell) next where
  size_eq := ledger.size_eq.trans booked.size_eq
  advances cell origin found := by
    obtain ⟨state, at_cell, advances⟩ := booked.advances cell origin found
    obtain ⟨later, at_later, advances_on⟩ := ledger.advances cell state at_cell
    exact ⟨later, at_later, (advances.mono ledger.order).trans advances_on⟩
  notes_eq := by
    simp only [ledger.notes_eq, booked.notes_eq, ledger.size_eq, ← Multiset.coe_add,
      Finset.sum_add_distrib, Multiset.coe_nil, add_zero]

/-- New cells have not run. -/
theorem append {made : List (CellState ε ν)} (booked : Booked origins traces store)
    (appends : Appends made store next) :
    Booked (origins ++ made) (fun cell => if cell < store.size then traces cell else []) next where
  size_eq := by rw [appends.size_eq, booked.size_eq, List.length_append]
  advances cell origin found := by
    by_cases inside : cell < store.size
    · rw [List.getElem?_append_left (booked.size_eq ▸ inside)] at found
      obtain ⟨state, at_cell, advances⟩ := booked.advances cell origin found
      rw [appends.state?_of_lt inside, if_pos inside]
      exact ⟨state, at_cell, advances.mono appends.precedes⟩
    · have beyond : store.size ≤ cell := Nat.le_of_not_lt inside
      rw [List.getElem?_append_right (booked.size_eq ▸ beyond), ← booked.size_eq] at found
      rw [appends.state?_of_le beyond, if_neg inside]
      exact ⟨origin, found, .refl next origin⟩
  notes_eq := by
    have earlier : ∀ cell ∈ Finset.range store.size,
        ((if cell < store.size then traces cell else [] : List ε) : Multiset ε) = traces cell :=
      fun cell member => by rw [if_pos (Finset.mem_range.mp member)]
    have later : ∀ cell ∈ Finset.range made.length,
        ((if store.size + cell < store.size then traces (store.size + cell) else [] : List ε) :
          Multiset ε) = 0 :=
      fun cell _ => by rw [if_neg (Nat.not_lt.mpr (Nat.le_add_right _ _)), Multiset.coe_nil]
    rw [appends.notes_eq, booked.notes_eq, appends.size_eq, Finset.sum_range_add,
      Finset.sum_congr rfl earlier, Finset.sum_eq_zero later, add_zero]

/-- Notes of a kind are counted cell by cell. -/
theorem countP_notes (booked : Booked origins traces store) (mine : ε → Bool) :
    store.notes.countP mine = ∑ cell ∈ Finset.range store.size, (traces cell).countP mine := by
  have counted := congrArg (Multiset.countPAddMonoidHom (mine · = true)) booked.notes_eq
  rw [map_sum] at counted
  simpa using counted

/-- The notes are those of the cells, in some order. -/
theorem notes_perm (booked : Booked origins traces store) :
    store.notes.Perm ((List.range origins.length).flatMap traces) := by
  have sum_eq : ∀ size : Nat, ∑ cell ∈ Finset.range size, (traces cell : Multiset ε) =
      ((List.range size).flatMap traces : List ε) := by
    intro size
    induction size with
    | zero => rfl
    | succ size ih =>
        rw [Finset.sum_range_succ, ih, List.range_succ, List.flatMap_append, ← Multiset.coe_add]
        simp
  rw [← Multiset.coe_eq_coe, booked.notes_eq, sum_eq, booked.size_eq]

end Booked

end Store

end Lazy

end SymbolResolver
