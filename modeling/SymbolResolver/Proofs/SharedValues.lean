import Mathlib.Control.Monad.Basic
import SymbolResolver.Lazy.Handles
import SymbolResolver.Lazy.Recipe
import SymbolResolver.Proofs.Turns

/-!
# Shared values

However the users of a value and of its copies start it, wait for it, are dropped and come back, and
whatever else happens in between, its computation runs once. The moves of a holding preserve what
its store and its callers are tracked by, so the state of a value at any moment is where one run of
its computation has come to, and every answer about it is the outcome of that run.
-/

namespace SymbolResolver

namespace Lazy

variable {ε ν : Type}

/-! ## Moves -/

namespace Move

/-- The state of the cell that a move makes. -/
def made? : Move ε ν → Option (CellState ε ν)
  | create _ work _ => some (.pending work)
  | know _ outcome => some (.settled outcome)
  | _ => none

/-- The computation that a move brings stays within a scope. -/
def Within (scope : Scope ε) (move : Move ε ν) : Prop :=
  ∀ state, move.made? = some state → state.Within scope

end Move

/-- The result of a computation that has come to its end. -/
def Computation.result? {α : Type} : Computation ε ν α → Option α
  | finish result => some result
  | _ => none

namespace Store

theorem result?_run_outcomeOf (store : Store ε ν) (cell : Nat) :
    (store.run (Computation.outcomeOf cell)).1.result? =
      (store.run (Computation.outcomeOf cell)).2.outcome? cell := by
  rw [run_outcomeOf_rest]
  cases (store.run (Computation.outcomeOf cell)).2.outcome? cell <;> rfl

/-! ## Stores without notes of a kind -/

/-- No note of a kind has been left, and no cell will leave one. -/
structure Hushed (mine : ε → Bool) (store : Store ε ν) : Prop where
  /-- No cell leaves such notes. -/
  cells_silent : store.Within fun _ => silence mine
  /-- None has been left. -/
  notes_silent : store.notes.filter mine = []

namespace Hushed

variable {mine : ε → Bool} {store : Store ε ν}

theorem start (hushed : store.Hushed mine) (cell : Nat) : (store.start cell).Hushed mine :=
  ⟨within_start hushed.cells_silent cell, hushed.notes_silent⟩

theorem allocate (hushed : store.Hushed mine) {state : CellState ε ν}
    (silent : state.Within (silence mine)) (needed : List Nat) :
    (store.allocate state needed).2.Hushed mine :=
  ⟨within_allocate hushed.cells_silent silent needed, hushed.notes_silent⟩

theorem pollBelow (hushed : store.Hushed mine) (bound cell : Nat) :
    (Store.pollBelow bound cell store).Hushed mine := by
  refine ⟨within_pollBelow bound cell hushed.cells_silent, ?_⟩
  have apart_from_bound : store.Within (apart mine bound) := by
    intro other state found
    exact (hushed.cells_silent other state found).mono (silence_le_apart mine bound other)
  rw [notes_pollBelow apart_from_bound (Nat.le_refl bound)]
  exact hushed.notes_silent

theorem demand (hushed : store.Hushed mine) (cell : Nat) :
    (store.run (Computation.outcomeOf cell)).2.Hushed mine := by
  have quiet : (Computation.outcomeOf cell : Computation ε ν (Outcome ν)).Within
      { noted := fun _ => False } := Computation.outcomeOf_within cell trivial
  exact advance_preserves (Hushed mine) (fun _ _ impossible _ => False.elim impossible)
    (fun _ started _ kept => kept.start started)
    (fun _ awaited _ kept => (kept.start awaited).pollBelow _ awaited) _ quiet store hushed

end Hushed

end Store

namespace Holding

variable (scheduling : Scheduling)

/-- What making cells, starting, waiting, polling and opening gates preserve, a move preserves. -/
theorem perform_preserves (Kept : Store ε ν → Prop) (move : Move ε ν)
    (allocate_kept : ∀ state, move.made? = some state → ∀ store needed, Kept store →
      Kept (store.allocate state needed).2)
    (start_kept : ∀ store cell, Kept store → Kept (store.start cell))
    (run_kept : ∀ store cell, Kept store → Kept (store.run (Computation.outcomeOf cell)).2)
    (poll_kept : ∀ store cell, Kept store → Kept (store.poll cell))
    (gate_kept : ∀ store gate, Kept store → Kept (store.openGate gate))
    (holding : Holding ε ν) (kept : Kept holding.store) :
    Kept (holding.perform scheduling move).store := by
  rw [store_perform]
  cases move with
  | create handle work needed => exact allocate_kept _ rfl holding.store needed kept
  | know handle outcome => exact allocate_kept _ rfl holding.store [] kept
  | clone handle origin =>
      simp only [act]
      split
      · exact kept
      · exact kept
  | drop handle => exact kept
  | start handle =>
      simp only [act, withCell]
      split
      · exact start_kept holding.store _ kept
      · exact kept
  | get handle =>
      simp only [act, withCell]
      split
      · exact run_kept holding.store _ kept
      · exact kept
  | peek handle => exact kept
  | spawn handle =>
      simp only [act, withCell]
      split
      · exact run_kept holding.store _ kept
      · exact kept
  | turn turn =>
      exact Pool.turn_preserves Kept run_kept poll_kept gate_kept scheduling _ _ turn kept

/-- Callers go on through every move. -/
theorem continues_act (holding : Holding ε ν) (move : Move ε ν) :
    Pool.Continues holding.toPool (holding.act scheduling move).toPool := by
  cases move with
  | create handle work needed =>
      exact Pool.continues_of_executor (Store.precedes_allocate holding.store _ needed)
  | know handle outcome =>
      exact Pool.continues_of_executor (Store.precedes_allocate holding.store _ [])
  | clone handle origin =>
      simp only [act]
      split
      · exact .refl _
      · exact .refl _
  | drop handle => exact .refl _
  | start handle =>
      simp only [act, withCell]
      split
      · exact Pool.continues_of_executor (Store.precedes_start holding.store _)
      · exact .refl _
  | get handle =>
      simp only [act, withCell]
      split
      · exact Pool.continues_demand _ _
      · exact .refl _
  | peek handle => exact .refl _
  | spawn handle =>
      simp only [act, withCell]
      split
      · exact Pool.continues_enroll _ _
      · exact .refl _
  | turn turn => exact Pool.continues_turn scheduling _ _ turn

theorem continues_perform (holding : Holding ε ν) (move : Move ε ν) :
    Pool.Continues holding.toPool (holding.perform scheduling move).toPool :=
  (continues_act scheduling holding move).trans (Pool.continues_release scheduling _ _)

theorem continues_performAll (holding : Holding ε ν) (moves : List (Move ε ν)) :
    Pool.Continues holding.toPool (holding.performAll scheduling moves).toPool := by
  induction moves generalizing holding with
  | nil => exact .refl _
  | cons move moves ih => exact (continues_perform scheduling holding move).trans (ih _)

/-- What moves of a kind preserve, a run of such moves preserves. -/
theorem performAll_preserves (Kept : Store ε ν → Prop) {Allowed : Move ε ν → Prop}
    (perform_kept : ∀ (holding : Holding ε ν) (move : Move ε ν), Allowed move →
      Kept holding.store → Kept (holding.perform scheduling move).store)
    (holding : Holding ε ν) (moves : List (Move ε ν)) (allowed : ∀ move ∈ moves, Allowed move)
    (kept : Kept holding.store) : Kept (holding.performAll scheduling moves).store := by
  induction moves generalizing holding with
  | nil => exact kept
  | cons move moves ih =>
      exact ih _ (fun later member => allowed later (List.mem_cons_of_mem move member))
        (perform_kept holding move (allowed move List.mem_cons_self) kept)

variable {mine : ε → Bool} {cell : Nat} {origin : CellState ε ν} {logged : List ε}

/-- A move that brings no notes of the watched kind does not lose track of the watched cell. -/
theorem tracked_perform (holding : Holding ε ν) (move : Move ε ν)
    (silent : move.Within (silence mine))
    (tracked : holding.store.Tracked mine cell origin logged) :
    (holding.perform scheduling move).store.Tracked mine cell origin logged :=
  perform_preserves scheduling (Store.Tracked mine cell origin logged) move
    (fun state made _ needed kept => kept.allocate (silent state made) needed)
    (fun _ other kept => kept.start other)
    (fun _ other kept => kept.run (Computation.outcomeOf_within other trivial))
    (fun _ other kept => kept.poll other) (fun _ gate kept => kept.openGate gate) holding tracked

theorem tracked_performAll (holding : Holding ε ν) (moves : List (Move ε ν))
    (silent : ∀ move ∈ moves, move.Within (silence mine))
    (tracked : holding.store.Tracked mine cell origin logged) :
    (holding.performAll scheduling moves).store.Tracked mine cell origin logged :=
  performAll_preserves scheduling (Store.Tracked mine cell origin logged)
    (fun holding move allowed kept => tracked_perform scheduling holding move allowed kept) holding
    moves silent tracked

/-- Moves that bring no notes of a kind leave none. -/
theorem hushed_performAll (moves : List (Move ε ν))
    (silent : ∀ move ∈ moves, move.Within (silence mine)) :
    ((empty : Holding ε ν).performAll scheduling moves).store.Hushed mine := by
  refine performAll_preserves scheduling (Store.Hushed mine) ?_ empty moves silent ⟨?_, rfl⟩
  · intro holding move allowed hushed
    exact perform_preserves scheduling (Store.Hushed mine) move
      (fun state made _ needed kept => kept.allocate (allowed state made) needed)
      (fun _ other kept => kept.start other) (fun _ other kept => kept.demand other)
      (fun _ other kept => kept.pollBelow _ other)
      (fun _ _ kept => ⟨kept.cells_silent, kept.notes_silent⟩) holding hushed
  · intro other state found
    simp [empty, Pool.empty, Executor.empty, Store.empty, Store.state?] at found

/-- A new value is tracked from its making on. -/
theorem tracked_create (holding : Holding ε ν) (hushed : holding.store.Hushed mine)
    (handle : String)
    (work : Computation ε ν (Outcome ν)) (needed : List Nat) :
    (holding.perform scheduling (.create handle work needed)).store.Tracked mine holding.store.size
      (.pending work) [] := by
  refine ⟨?_, .pending work, [], ?_, .refl _ _, hushed.notes_silent⟩
  · refine Store.within_allocate ?_ ?_ needed
    · intro other state found
      exact (hushed.cells_silent other state found).mono (silence_le_apart mine _ other)
    · have unrestricted : ({} : Scope ε).Le (apart mine holding.store.size holding.store.size) :=
        ⟨fun _ _ different => absurd rfl different, fun _ => id, fun _ => id, fun _ => id,
          fun _ => id, id⟩
      exact work.within_all.mono unrestricted
  · exact (holding.store.state?_allocate (.pending work) needed holding.store.size).trans
      (if_pos rfl)

/-! ## Answers -/

/-- The outcome with which a wait for the cell of a handle ends at once, if it does. -/
def get? (holding : Holding ε ν) (handle : String) : Option (Outcome ν) :=
  (holding.cell? handle).bind fun cell =>
    (holding.store.run (Computation.outcomeOf cell)).1.result?

theorem handles_get (holding : Holding ε ν) (handle : String) :
    (holding.perform scheduling (.get handle)).handles = holding.handles := by
  simp only [handles_perform, act, withCell]
  split <;> rfl

/-- A wait ends with the outcome that the cell has afterwards. -/
theorem get?_eq (holding : Holding ε ν) (handle : String) :
    holding.get? handle = (holding.perform scheduling (.get handle)).outcome? handle := by
  have same_cell : (holding.perform scheduling (.get handle)).cell? handle =
      holding.cell? handle := by
    rw [cell?, handles_get, cell?]
  rw [get?, outcome?, same_cell]
  cases found : holding.cell? handle with
  | none => rfl
  | some cell =>
      simp only [Option.bind_some, store_perform, act, withCell, found, Pool.demand]
      exact Store.result?_run_outcomeOf holding.store cell

/-- Once the outcome of a value is known, looking and waiting answer with it. -/
theorem answers_of_known {holding : Holding ε ν} {handle : String} {cell : Nat}
    {outcome : Outcome ν} (found : holding.cell? handle = some cell)
    (known : holding.store.outcome? cell = some outcome) :
    holding.outcome? handle = some outcome ∧ holding.get? handle = some outcome := by
  refine ⟨by simp [Holding.outcome?, found, known], ?_⟩
  rw [get?, found, Option.bind_some, Store.result?_run_outcomeOf]
  exact (Store.precedes_run holding.store _).outcome_kept known

/-! ## One run -/

theorem honest_performAll (moves : List (Move ε ν)) :
    ((empty : Holding ε ν).performAll scheduling moves).Honest :=
  (continues_performAll scheduling empty moves).honest fun _ _ _ found => by
    simp [empty, Pool.empty] at found

/-- The moves after the making of a value take its computation along one run, which is taken up
where it was left. If only this computation leaves notes of a kind, they are the notes of that run.
-/
theorem one_run (earlier middle later : List (Move ε ν)) (handle : String)
    (work : Computation ε ν (Outcome ν)) (needed : List Nat)
    (silent : ∀ move ∈ earlier ++ middle ++ later, move.Within (silence mine)) :
    let made := (empty : Holding ε ν).performAll scheduling earlier
    let first := made.performAll scheduling (.create handle work needed :: middle)
    let second := first.performAll scheduling later
    ∃ state final trace more,
      first.store.state? made.store.size = some state ∧
      second.store.state? made.store.size = some final ∧
      (CellState.pending work).Advances first.store trace state ∧
      state.Advances second.store more final ∧
      first.store.notes.filter mine = trace.filter mine ∧
      second.store.notes.filter mine = (trace ++ more).filter mine := by
  intro made first second
  simp only [List.mem_append, or_imp, forall_and] at silent
  obtain ⟨⟨earlier_silent, middle_silent⟩, later_silent⟩ := silent
  have tracked_first : first.store.Tracked mine made.store.size (.pending work) [] :=
    tracked_performAll scheduling _ middle middle_silent
      (tracked_create scheduling made (hushed_performAll scheduling earlier earlier_silent) handle
        work needed)
  obtain ⟨state, trace, found, advances, notes_first⟩ := tracked_first.flight
  -- The later moves are tracked from the state that the earlier ones have reached.
  have tracked_second : second.store.Tracked mine made.store.size state (trace.filter mine) :=
    tracked_performAll scheduling first later later_silent
      ⟨tracked_first.others_silent, state, [], found, .refl _ state, by simpa using notes_first⟩
  obtain ⟨final, more, found_final, advances_on, notes_second⟩ := tracked_second.flight
  refine ⟨state, final, trace, more, found, found_final, advances, advances_on, ?_, ?_⟩
  · simpa using notes_first
  · rw [notes_second, List.filter_append]

/-- A known outcome is the one with which the computation of the value has ended. -/
theorem known_course (earlier middle : List (Move ε ν)) (handle : String)
    (work : Computation ε ν (Outcome ν)) (needed : List Nat) {outcome : Outcome ν} :
    let made := (empty : Holding ε ν).performAll scheduling earlier
    let first := made.performAll scheduling (.create handle work needed :: middle)
    first.store.outcome? made.store.size = some outcome →
    ∃ trace rest, first.store.Runs (fun _ => False) work trace rest ∧
      (rest = .finish outcome ∨ rest = .breakOff ∧ outcome = .error .brokenOff) := by
  intro made first known
  obtain ⟨state, _, trace, _, found, _, advances, _⟩ :=
    one_run scheduling earlier middle [] handle work needed
      (fun _ _ state _ => state.within_unmarked)
  rw [Store.outcome?_eq_some_iff] at known
  obtain rfl : state = .settled outcome := Option.some.inj (found.symm.trans known)
  exact ⟨trace, advances.settled_course⟩

/-- A computation that begins with its only note of a kind leaves that note at most once, and
exactly once if the value is settled. -/
theorem begins_once (earlier moves : List (Move ε ν)) (handle : String) {mark : ε}
    (next : Computation ε ν (Outcome ν)) (needed : List Nat) (marked : mine mark = true)
    (next_silent : next.Within (silence mine))
    (silent : ∀ move ∈ earlier ++ moves, move.Within (silence mine)) :
    let made := (empty : Holding ε ν).performAll scheduling earlier
    let last := made.performAll scheduling (.create handle (.note mark next) needed :: moves)
    last.store.notes.countP mine ≤ 1 ∧
      (last.store.isSettled made.store.size = true → last.store.notes.countP mine = 1) := by
  intro made last
  obtain ⟨state, _, trace, _, found, _, advances, _, notes_eq, _⟩ :=
    one_run scheduling earlier moves [] handle (.note mark next) needed (by simpa using silent)
  have count_eq : last.store.notes.countP mine = trace.countP mine := by
    rw [List.countP_eq_length_filter, List.countP_eq_length_filter, notes_eq]
  rw [count_eq]
  constructor
  · rcases advances with ⟨rfl, _⟩ | ⟨rest, run, _⟩
    · simp
    · exact (run.count_first marked next_silent).1
  · intro settled
    obtain ⟨outcome, known⟩ := Store.isSettled_iff.mp settled
    rw [Store.outcome?_eq_some_iff] at known
    obtain rfl : state = .settled outcome := Option.some.inj (found.symm.trans known)
    obtain ⟨rest, run, ended⟩ := advances.settled_course
    apply (run.count_first marked next_silent).2
    rcases ended with rfl | ⟨rfl, _⟩ <;> simp

/-- A value is computed in one flight and remembered. Whatever moves come before its making
(`earlier`), after it up to some moment (`middle`) and from that moment on (`later`), under either
scheduling. -/
theorem single_flight (earlier middle later : List (Move ε ν)) (handle : String)
    (work : Computation ε ν (Outcome ν)) (needed : List Nat) :
    let made := (empty : Holding ε ν).performAll scheduling earlier
    let cell := made.store.size
    let first := made.performAll scheduling (.create handle work needed :: middle)
    let second := first.performAll scheduling later
    -- The computation goes through one run, and the later part of it takes up what was left.
    (∀ mine : ε → Bool, (∀ move ∈ earlier ++ middle ++ later, move.Within (silence mine)) →
      ∃ state final trace more,
        first.store.state? cell = some state ∧ second.store.state? cell = some final ∧
        (CellState.pending work).Advances first.store trace state ∧
        state.Advances second.store more final ∧
        first.store.notes.filter mine = trace.filter mine ∧
        second.store.notes.filter mine = (trace ++ more).filter mine) ∧
    -- A first note of its own is left at most once, and exactly once if the value is settled.
    (∀ (mine : ε → Bool) (mark : ε) (next : Computation ε ν (Outcome ν)),
      work = .note mark next → mine mark = true → next.Within (silence mine) →
      (∀ move ∈ earlier ++ middle, move.Within (silence mine)) →
      first.store.notes.countP mine ≤ 1 ∧
        (first.store.isSettled cell = true → first.store.notes.countP mine = 1)) ∧
    -- An outcome is the end of that run, it never changes, and every handle answers with it.
    (∀ outcome, first.store.outcome? cell = some outcome →
      (∃ trace rest, first.store.Runs (fun _ => False) work trace rest ∧
        (rest = .finish outcome ∨
          rest = .breakOff ∧ outcome = .error (.cancelled "deferred computation panicked"))) ∧
      second.store.outcome? cell = some outcome ∧
      ∀ name, second.cell? name = some cell →
        second.outcome? name = some outcome ∧ second.get? name = some outcome) ∧
    -- A wait that ends at some moment has ended with the outcome that stays.
    (∀ name outcome, first.cell? name = some cell → first.get? name = some outcome →
      ((first.perform scheduling (.get name)).performAll scheduling later).store.outcome? cell =
        some outcome) ∧
    (∀ (number : Nat) (outcome : Outcome ν),
      first.callers[number]? = some (.finished cell outcome) →
      second.callers[number]? = some (.finished cell outcome) ∧
      second.store.outcome? cell = some outcome) ∧
    -- Settled values have been started, and neither is undone.
    (first.store.isSettled cell = true → first.store.isStarted cell = true) ∧
    (first.store.isStarted cell = true → second.store.isStarted cell = true) ∧
    (first.store.isSettled cell = true → second.store.isSettled cell = true) := by
  intro made cell first second
  have onward : Pool.Continues first.toPool second.toPool :=
    continues_performAll scheduling first later
  have honest : first.Honest := by
    have all_moves : first = (empty : Holding ε ν).performAll scheduling
        (earlier ++ .create handle work needed :: middle) := by
      simp [first, made, performAll]
    exact all_moves ▸ honest_performAll scheduling _
  refine ⟨?_, ?_, ?_, ?_, ?_, Store.isStarted_of_isSettled, onward.store.start_kept, ?_⟩
  · intro mine silent
    exact one_run scheduling earlier middle later handle work needed silent
  · intro mine mark next begins marked next_silent silent
    subst begins
    exact begins_once scheduling earlier middle handle next needed marked next_silent silent
  · intro outcome known
    have kept := onward.store.outcome_kept known
    exact ⟨known_course scheduling earlier middle handle work needed known, kept,
      fun name found => answers_of_known found kept⟩
  · intro name outcome found answered
    rw [get?_eq scheduling, outcome?, cell?, handles_get, ← cell?, found, Option.bind_some]
      at answered
    exact (continues_performAll scheduling _ later).store.outcome_kept answered
  · intro number outcome finished
    obtain ⟨caller, found, becomes⟩ := onward.find finished
    rw [becomes.of_finished] at found
    exact ⟨found, onward.store.outcome_kept (honest number cell outcome finished)⟩
  · intro settled
    obtain ⟨outcome, known⟩ := Store.isSettled_iff.mp settled
    exact Store.isSettled_iff.mpr ⟨outcome, onward.store.outcome_kept known⟩

/-- A caller of a gated computation is dropped, the gate opens, and a copy of the handle asks again.
-/
theorem single_flight_gated :
    let work : Computation Mark String (Outcome String) :=
      (Recipe.mk "job" "gate" .succeed).work "v"
    let middle : List (Move Mark String) := [.clone "copy" "value", .spawn "value", .turn (.drop 0)]
    let later : List (Move Mark String) := [.turn (.openGate "gate"), .get "copy"]
    let last := (empty : Holding Mark String).performAll .onDemand
      (.create "value" work [] :: (middle ++ later))
    last.store.notes.countP (· == .began "job") = 1 ∧ last.outcome? "copy" = some (.ok "v") := by
  intro work middle later last
  have flight := single_flight .onDemand [] (middle ++ later) [] "value" work []
  have silent : ∀ move ∈ [] ++ (middle ++ later),
      move.Within (silence (· == Mark.began "job")) := by
    simp [middle, later, Move.Within, Move.made?]
  have rest_silent : (Computation.pass "gate" (.note (.ended "job") (.finish (.ok "v"))) :
      Computation Mark String (Outcome String)).Within (silence (· == Mark.began "job")) :=
    ⟨trivial, rfl, trivial⟩
  have began_once := (flight.2.1 _ _ _ rfl (by decide) rest_silent silent).2 (by decide +kernel)
  have answered := (flight.2.2.1 (.ok "v") (by decide +kernel)).2.2 "copy" (by decide +kernel)
  simp only [performAll, List.foldl_nil] at began_once answered
  exact ⟨began_once, answered.1⟩

end Holding

end Lazy

end SymbolResolver
