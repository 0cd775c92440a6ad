import SymbolResolver.Proofs.Flights

/-!
# Replayed runs

A run can be made twice: once in a plain store, and once beside it in a store that has more cells.
The two stores are twins as long as they agree on the cells of the plain one, and a computation that
refers to no other cells runs in lockstep in both (`Twins.advance`). Computations that differ in
their notes only cannot be told apart by how they end (`Twins.advance_alike`), and a course that a
store bears out is gone through again at no cost (`Runs.replay`).
-/

namespace SymbolResolver

namespace Lazy

variable {ε ν α β : Type}

/-! ## Computations up to notes -/

namespace Computation

/-- Two computations differ in the notes they leave, and in nothing else. -/
inductive Alike : Computation ε ν α → Computation ε ν α → Prop
  | finish (result : α) : Alike (.finish result) (.finish result)
  | breakOff : Alike .breakOff .breakOff
  | left {event : ε} {next other : Computation ε ν α} :
      Alike next other → Alike (.note event next) other
  | right {event : ε} {work next : Computation ε ν α} :
      Alike work next → Alike work (.note event next)
  | pass (gate : String) {next other : Computation ε ν α} :
      Alike next other → Alike (.pass gate next) (.pass gate other)
  | start (cell : Nat) {next other : Computation ε ν α} :
      Alike next other → Alike (.start cell next) (.start cell other)
  | await (cell : Nat) {next other : Outcome ν → Computation ε ν α} :
      (∀ outcome, Alike (next outcome) (other outcome)) →
      Alike (.await cell next) (.await cell other)
  | peek (cell : Nat) {next other : Option (Outcome ν) → Computation ε ν α} :
      (∀ seen, Alike (next seen) (other seen)) → Alike (.peek cell next) (.peek cell other)

theorem Alike.refl (work : Computation ε ν α) : Alike work work := by
  induction work with
  | finish result => exact .finish result
  | breakOff => exact .breakOff
  | note event next ih => exact .left (.right ih)
  | pass gate next ih => exact .pass gate ih
  | start cell next ih => exact .start cell ih
  | await cell next ih => exact .await cell ih
  | peek cell next ih => exact .peek cell ih

theorem Alike.bind {work other : Computation ε ν α}
    {continuation second : α → Computation ε ν β} (alike : Alike work other)
    (continued : ∀ result, Alike (continuation result) (second result)) :
    Alike (work.bind continuation) (other.bind second) := by
  induction alike with
  | finish result => exact continued result
  | breakOff => exact .breakOff
  | left _ ih => exact .left ih
  | right _ ih => exact .right ih
  | pass gate _ ih => exact .pass gate ih
  | start cell _ ih => exact .start cell ih
  | await cell _ ih => exact .await cell ih
  | peek cell _ ih => exact .peek cell ih

theorem Alike.andThen {work other : Computation ε ν (Outcome α)}
    {continuation second : α → Computation ε ν (Outcome β)} (alike : Alike work other)
    (continued : ∀ result, Alike (continuation result) (second result)) :
    Alike (work.andThen continuation) (other.andThen second) := by
  refine alike.bind fun outcome => ?_
  cases outcome with
  | ok result => exact continued result
  | error error => exact .refl _

end Computation

/-- The scope of a computation that refers only to cells before a bound. -/
def below (bound : Nat) : Scope ε :=
  { started := (· < bound), awaited := (· < bound), looked := (· < bound) }

theorem below_le {bound limit : Nat} (le : bound ≤ limit) :
    (below bound : Scope ε).Le (below limit) :=
  ⟨fun _ => id, fun _ => id, fun _ before => Nat.lt_of_lt_of_le before le,
    fun _ before => Nat.lt_of_lt_of_le before le, fun _ before => Nat.lt_of_lt_of_le before le, id⟩

namespace Store

/-- Every cell refers only to cells that were made before it. -/
def Ordered (store : Store ε ν) : Prop := store.Within below

theorem ordered_empty : (empty : Store ε ν).Ordered := by
  intro cell state found
  simp [empty, state?] at found

/-- A new cell that refers to cells of the store keeps the order. -/
theorem Ordered.defer {store : Store ε ν} (ordered : store.Ordered)
    {work : Computation ε ν (Outcome ν)} (within : work.Within (below store.size))
    (needed : List Nat) : (store.defer work needed).2.Ordered := by
  have state_within : (CellState.pending work).Within (below store.size) := within
  exact within_allocate ordered state_within needed

/-! ## Polls with different bounds -/

theorem pollBelow_of_lt {bound cell : Nat} (before : cell < bound) (store : Store ε ν) :
    pollBelow bound cell store = pollBelow (cell + 1) cell store := by
  induction bound with
  | zero => exact absurd before (Nat.not_lt_zero cell)
  | succ bound ih =>
      by_cases last : cell = bound
      · rw [last]
      · rw [pollBelow_of_ne last]
        exact ih (Nat.lt_of_le_of_ne (Nat.le_of_lt_succ before) last)

theorem pollBelow_of_settled {cell : Nat} {store : Store ε ν} {outcome : Outcome ν}
    (known : store.outcome? cell = some outcome) (bound : Nat) :
    pollBelow bound cell store = store := by
  have not_running : ∀ work, store.state? cell ≠ some (.running work) := by
    intro work running
    rw [outcome?_eq_some_iff] at known
    simp [known] at running
  induction bound with
  | zero => rfl
  | succ bound ih =>
      by_cases last : cell = bound
      · subst last
        exact pollBelow_of_not_running not_running
      · rw [pollBelow_of_ne last]
        exact ih

theorem modify_of_same {store : Store ε ν} {cell : Nat} {change : CellState ε ν → CellState ε ν}
    (same : ∀ state, store.state? cell = some state → change state = state) :
    store.modify cell change = store := by
  have cells_same : store.cells.modify cell
      (fun content => { content with state := change content.state }) = store.cells := by
    apply List.ext_getElem?
    intro other
    rw [List.getElem?_modify]
    by_cases at_cell : cell = other
    · subst at_cell
      cases found : store.cells[cell]? with
      | none => rfl
      | some content => simp [same content.state (by simp [state?, found])]
    · simp [at_cell]
  rw [modify, cells_same]

theorem start_of_settled {store : Store ε ν} {cell : Nat} {outcome : Outcome ν}
    (known : store.outcome? cell = some outcome) : store.start cell = store := by
  apply modify_of_same
  intro state found
  obtain rfl : state = .settled outcome :=
    Option.some.inj (found.symm.trans (outcome?_eq_some_iff.mp known))
  rfl

/-! ## Twins -/

/-- A plain store whose cells are in order, and a wide store that agrees with it but has extra cells
after those of the plain one. Their notes may differ. -/
structure Twins (bound : Nat) (extra : List (Cell ε ν)) (plain wide : Store ε ν) : Prop where
  size_eq : plain.size = bound
  ordered : plain.Ordered
  cells_eq : wide.cells = plain.cells ++ extra
  gates_eq : wide.openGates = plain.openGates

namespace Twins

variable {bound : Nat} {extra : List (Cell ε ν)} {plain wide : Store ε ν}

theorem refl {store : Store ε ν} (ordered : store.Ordered) : Twins store.size [] store store :=
  ⟨rfl, ordered, by simp, rfl⟩

theorem trans {middle : Store ε ν} (first : Twins bound [] plain middle)
    (second : Twins bound extra middle wide) : Twins bound extra plain wide where
  size_eq := first.size_eq
  ordered := first.ordered
  cells_eq := by rw [second.cells_eq, first.cells_eq, List.append_nil]
  gates_eq := second.gates_eq.trans first.gates_eq

theorem length_eq (twins : Twins bound extra plain wide) : plain.cells.length = bound :=
  twins.size_eq

theorem state?_eq (twins : Twins bound extra plain wide) {cell : Nat} (before : cell < bound) :
    wide.state? cell = plain.state? cell := by
  rw [state?, state?, twins.cells_eq, List.getElem?_append_left (twins.length_eq ▸ before)]

theorem state?_extra (twins : Twins bound extra plain wide) {cell : Nat} (after : bound ≤ cell) :
    wide.state? cell = extra[cell - bound]?.map Cell.state := by
  rw [state?, twins.cells_eq, List.getElem?_append_right (twins.length_eq ▸ after), twins.length_eq]

theorem outcome?_eq (twins : Twins bound extra plain wide) {cell : Nat} (before : cell < bound) :
    wide.outcome? cell = plain.outcome? cell := by
  rw [outcome?, twins.state?_eq before, outcome?]

theorem isOpen_eq (twins : Twins bound extra plain wide) (gate : String) :
    wide.isOpen gate = plain.isOpen gate := by
  rw [isOpen, twins.gates_eq, isOpen]

theorem bound_le_size (twins : Twins bound extra plain wide) : bound ≤ wide.size := by
  rw [size, twins.cells_eq, List.length_append, twins.length_eq]
  exact Nat.le_add_right bound _

/-- A new cell of the wide store is an extra one. -/
theorem allocate (twins : Twins bound extra plain wide) (state : CellState ε ν)
    (needed : List Nat) :
    Twins bound (extra ++ [⟨state, needed⟩]) plain (wide.allocate state needed).2 where
  size_eq := twins.size_eq
  ordered := twins.ordered
  cells_eq := by simp [Store.allocate, twins.cells_eq]
  gates_eq := twins.gates_eq

/-- Notes are not compared. -/
theorem with_notes (twins : Twins bound extra plain wide) (left right : List ε) :
    Twins bound extra { plain with notes := left } { wide with notes := right } :=
  ⟨twins.size_eq, twins.ordered, twins.cells_eq, twins.gates_eq⟩

theorem modify (twins : Twins bound extra plain wide) {cell : Nat} (before : cell < bound)
    {change : CellState ε ν → CellState ε ν}
    (changed_within : ∀ state, plain.state? cell = some state →
      (change state).Within (below cell)) :
    Twins bound extra (plain.modify cell change) (wide.modify cell change) where
  size_eq := (size_modify plain cell change).trans twins.size_eq
  ordered := within_modify twins.ordered cell changed_within
  cells_eq := by
    have inside : cell < plain.cells.length := twins.length_eq ▸ before
    simp only [Store.modify, twins.cells_eq]
    apply List.ext_getElem?
    intro other
    simp only [List.getElem?_modify, List.getElem?_append, List.length_modify]
    by_cases left : other < plain.cells.length
    · simp [left]
    · have different : cell ≠ other := fun same => left (same ▸ inside)
      simp [left, different]
  gates_eq := twins.gates_eq

theorem start (twins : Twins bound extra plain wide) {cell : Nat} (before : cell < bound) :
    Twins bound extra (plain.start cell) (wide.start cell) :=
  twins.modify before fun state found => CellState.within_started (twins.ordered cell state found)

/-- A computation that refers to cells of the plain store advances in lockstep, if polling does. -/
theorem advance {poll wide_poll : Nat → Store ε ν → Store ε ν}
    (poll_twins : ∀ cell (plain wide : Store ε ν), cell < bound → Twins bound extra plain wide →
      Twins bound extra (poll cell plain) (wide_poll cell wide))
    {work : Computation ε ν α} (within : work.Within (below bound))
    (twins : Twins bound extra plain wide) :
    (Store.advance poll work plain).1 = (Store.advance wide_poll work wide).1 ∧
      Twins bound extra (Store.advance poll work plain).2
        (Store.advance wide_poll work wide).2 := by
  induction work generalizing plain wide with
  | finish result => exact ⟨rfl, twins⟩
  | breakOff => exact ⟨rfl, twins⟩
  | note event next ih => exact ih within.2 (twins.with_notes _ _)
  | pass gate next ih =>
      simp only [Store.advance, twins.isOpen_eq gate]
      split
      · exact ih within.2 twins
      · exact ⟨rfl, twins⟩
  | start cell next ih => exact ih within.2 (twins.start within.1)
  | await cell next ih =>
      have polled := poll_twins cell _ _ within.1 (twins.start within.1)
      simp only [Store.advance, polled.outcome?_eq within.1]
      split
      · exact ih _ (within.2 _) polled
      · exact ⟨rfl, polled⟩
  | peek cell next ih =>
      simp only [Store.advance, twins.outcome?_eq within.1]
      exact ih _ (within.2 _) twins

theorem pollBelow (limit : Nat) (limit_le : limit ≤ bound) (cell : Nat)
    (twins : Twins bound extra plain wide) :
    Twins bound extra (Store.pollBelow limit cell plain) (Store.pollBelow limit cell wide) := by
  refine pollBelow_induct
    (motive := fun limit cell plain polled => limit ≤ bound → ∀ wide,
      Twins bound extra plain wide →
        Twins bound extra polled (Store.pollBelow limit cell wide))
    (fun _ _ _ _ twins => twins) ?_ ?_ ?_ limit cell plain limit_le wide twins
  · intro cell work plain earlier running cell_lt wide twins
    have work_within : work.Within (below cell) := twins.ordered cell _ running
    obtain ⟨rest_eq, advanced⟩ :=
      twins.advance (fun other _ _ _ same => earlier other _ (Nat.le_of_succ_le cell_lt) _ same)
        (work_within.mono (below_le (Nat.le_of_succ_le cell_lt)))
    rw [pollBelow_of_running ((twins.state?_eq cell_lt).trans running), ← rest_eq]
    refine advanced.modify cell_lt fun _ _ => CellState.within_ofRest ?_
    exact rest_within (fun store cell => precedes_pollBelow _ cell store) work_within plain
  · intro cell plain not_running cell_lt wide twins
    rw [pollBelow_of_not_running fun work running =>
      not_running work ((twins.state?_eq cell_lt).symm.trans running)]
    exact twins
  · intro limit cell plain polled different earlier limit_lt wide twins
    rw [pollBelow_of_ne different]
    exact earlier (Nat.le_of_succ_le limit_lt) wide twins

/-- Cells of the plain store are polled in lockstep, whatever bounds the polls have. -/
theorem poll {limit wide_limit : Nat} (limit_le : bound ≤ limit) (wide_le : bound ≤ wide_limit)
    (cell : Nat) (plain wide : Store ε ν) (before : cell < bound)
    (twins : Twins bound extra plain wide) :
    Twins bound extra (Store.pollBelow limit cell plain)
      (Store.pollBelow wide_limit cell wide) := by
  rw [pollBelow_of_lt (Nat.lt_of_lt_of_le before limit_le),
    pollBelow_of_lt (Nat.lt_of_lt_of_le before wide_le)]
  exact twins.pollBelow (cell + 1) before cell

/-- Computations that differ in their notes only come equally far in lockstep. -/
theorem advance_alike {poll wide_poll : Nat → Store ε ν → Store ε ν}
    (poll_twins : ∀ cell (plain wide : Store ε ν), cell < bound → Twins bound extra plain wide →
      Twins bound extra (poll cell plain) (wide_poll cell wide))
    {work other : Computation ε ν α} (alike : work.Alike other) (within : work.Within (below bound))
    (twins : Twins bound extra plain wide) :
    (Store.advance poll work plain).1.progress = (Store.advance wide_poll other wide).1.progress ∧
      Twins bound extra (Store.advance poll work plain).2
        (Store.advance wide_poll other wide).2 := by
  induction alike generalizing plain wide with
  | finish result => exact ⟨rfl, twins⟩
  | breakOff => exact ⟨rfl, twins⟩
  | left _ ih => exact ih within.2 (twins.with_notes _ _)
  | right _ ih => exact ih within (twins.with_notes _ _)
  | pass gate _ ih =>
      simp only [Store.advance, twins.isOpen_eq gate]
      split
      · exact ih within.2 twins
      · exact ⟨rfl, twins⟩
  | start cell _ ih => exact ih within.2 (twins.start within.1)
  | await cell _ ih =>
      have polled := poll_twins cell _ _ within.1 (twins.start within.1)
      simp only [Store.advance, polled.outcome?_eq within.1]
      split
      · exact ih _ (within.2 _) polled
      · exact ⟨rfl, polled⟩
  | peek cell _ ih =>
      simp only [Store.advance, twins.outcome?_eq within.1]
      exact ih _ (within.2 _) twins

end Twins

/-! ## Replaying a course -/

/-- The course of a computation that starts nothing is the same in a store with the same cells and
gates. -/
theorem Runs.of_same {store other : Store ε ν} {firm : Nat → Prop} {work rest : Computation ε ν α}
    {trace : List ε} (same_cells : other.cells = store.cells)
    (same_gates : other.openGates = store.openGates) (run : Runs store firm work trace rest) :
    Runs other firm work trace rest := by
  have same_state : ∀ cell, other.state? cell = store.state? cell := by
    intro cell
    rw [state?, same_cells, state?]
  have same_outcome : ∀ cell, other.outcome? cell = store.outcome? cell := by
    intro cell
    rw [outcome?, same_state, outcome?]
  refine run.mono ⟨?_, ?_, ?_, ?_⟩ fun cell _ => same_outcome cell
  · intro cell outcome known
    exact (same_outcome cell).trans known
  · intro cell started
    rwa [isStarted, same_state]
  · intro gate opened
    rwa [isOpen, same_gates]
  · exact Nat.le_of_eq (congrArg List.length same_cells.symm)

/-- A computation that starts nothing goes through a course again without changing a cell, and then
advances from where the course leads. -/
theorem Runs.replay {store plain : Store ε ν} {firm : Nat → Prop} {work rest : Computation ε ν α}
    {trace : List ε} (run : Runs store firm work trace rest)
    (within : work.Within { started := fun _ => False, looked := firm })
    (same_cells : plain.cells = store.cells) (same_gates : plain.openGates = store.openGates)
    (bound : Nat) :
    ∃ notes, advance (pollBelow bound) work plain =
      advance (pollBelow bound) rest { plain with notes := notes } := by
  induction run generalizing plain with
  | stay => exact ⟨plain.notes, rfl⟩
  | note _ ih => exact ih within.2 same_cells same_gates
  | @pass gate next rest trace opened _ ih =>
      have opened_here : plain.isOpen gate = true := by rwa [isOpen, same_gates]
      simp only [advance, opened_here, if_true]
      exact ih within.2 same_cells same_gates
  | start _ _ => exact within.1.elim
  | @await cell next outcome rest trace known _ ih =>
      have known_here : plain.outcome? cell = some outcome := by
        rwa [outcome?, state?, same_cells]
      simp only [advance, start_of_settled known_here, pollBelow_of_settled known_here, known_here]
      exact ih (within.2 outcome) same_cells same_gates
  | @peek cell next seen rest trace looked _ ih =>
      have seen_here : seen = plain.outcome? cell := by
        rcases looked with shown | ⟨not_firm, _⟩
        · rw [shown, outcome?, outcome?, state?, state?, same_cells]
        · exact absurd within.1 not_firm
      simp only [advance, ← seen_here]
      exact ih (within.2 seen) same_cells same_gates

/-! ## Readers -/

/-- The scope of a computation that waits for cells before a limit and looks at cells from the limit
up to a bound. -/
def reading (limit bound : Nat) : Scope ε :=
  { started := fun _ => False
    awaited := (· < limit)
    looked := fun cell => limit ≤ cell ∧ cell < bound }

theorem reading_le_below {limit bound : Nat} (le : limit ≤ bound) :
    (reading limit bound : Scope ε).Le (below bound) :=
  ⟨fun _ => id, fun _ => id, fun _ impossible => impossible.elim,
    fun _ before => Nat.lt_of_lt_of_le before le,
    fun _ looked => looked.2, id⟩

theorem reading_le_unstarted (limit bound : Nat) :
    (reading limit bound : Scope ε).Le { started := fun _ => False, looked := (limit ≤ ·) } :=
  ⟨fun _ => id, fun _ => id, fun _ => id, fun _ _ => trivial, fun _ looked => looked.1, id⟩

/-- The cells from a limit on are as they were. -/
structure Framed (limit : Nat) (before after : Store ε ν) : Prop where
  /-- The cells are in order. -/
  ordered : after.Ordered
  /-- The states from the limit on. -/
  kept : ∀ cell, limit ≤ cell → after.state? cell = before.state? cell

namespace Framed

variable {limit : Nat} {before after : Store ε ν}

theorem refl {store : Store ε ν} (ordered : store.Ordered) (limit : Nat) :
    Framed limit store store :=
  ⟨ordered, fun _ _ => rfl⟩

theorem start (framed : Framed limit before after) {cell : Nat} (inside : cell < limit) :
    Framed limit before (after.start cell) := by
  refine ⟨within_start framed.ordered cell, fun other outside => ?_⟩
  rw [state?_start, if_neg (Nat.ne_of_lt (Nat.lt_of_lt_of_le inside outside))]
  exact framed.kept other outside

theorem pollBelow (bound : Nat) (bound_le : bound ≤ limit) (cell : Nat)
    (framed : Framed limit before after) :
    Framed limit before (Store.pollBelow bound cell after) := by
  refine pollBelow_preserves limit (Framed limit before) ?_ bound bound_le cell after framed
  intro lower work store lower_lt lower_kept running framed
  have work_within : work.Within (below lower) := framed.ordered lower _ running
  have inside : ∀ cell, cell < lower → cell < limit := fun cell before =>
    Nat.lt_trans before lower_lt
  have advanced : Framed limit before (advance (Store.pollBelow lower) work store).2 :=
    advance_preserves (Framed limit before) (fun _ _ _ kept => ⟨kept.ordered, kept.kept⟩)
      (fun _ cell before kept => kept.start (inside cell before))
      (fun _ cell before kept => lower_kept cell _ (kept.start (inside cell before))) work
      work_within store framed
  constructor
  · refine within_modify advanced.ordered lower fun _ _ => CellState.within_ofRest ?_
    exact rest_within (fun store cell => precedes_pollBelow _ cell store) work_within store
  · intro other outside
    rw [state?_modify, if_neg (Nat.ne_of_lt (Nat.lt_of_lt_of_le lower_lt outside))]
    exact advanced.kept other outside

theorem poll (bound : Nat) {cell : Nat} (inside : cell < limit)
    (framed : Framed limit before after) :
    Framed limit before (Store.pollBelow bound cell after) := by
  by_cases bound_le : bound ≤ limit
  · exact framed.pollBelow bound bound_le cell
  · rw [pollBelow_of_lt (Nat.lt_trans inside (Nat.lt_of_not_le bound_le))]
    exact framed.pollBelow (cell + 1) inside cell

end Framed

/-- A reader follows a course on which every look is at a cell that stays as it is. -/
theorem reader_course {store : Store ε ν} (ordered : store.Ordered) {limit bound : Nat}
    {work : Computation ε ν α} (within : work.Within (reading limit bound)) (poll_bound : Nat) :
    let advanced := advance (pollBelow poll_bound) work store
    Framed limit store advanced.2 ∧
      ∃ trace, Runs advanced.2 (limit ≤ ·) work trace advanced.1 := by
  obtain ⟨trace, framed, run⟩ := advance_runs (limit ≤ ·) store.outcome?
    (fun _ => Framed limit store) (fun middle cell => precedes_pollBelow poll_bound cell middle)
    (fun _ _ _ _ kept => ⟨kept.ordered, kept.kept⟩)
    (fun _ _ _ impossible _ => False.elim impossible)
    (fun _ _ cell inside kept => (kept.start inside).poll poll_bound inside)
    (by
      intro _ middle framed cell outside
      rw [outcome?, framed.kept cell outside, outcome?])
    work within [] store ⟨ordered, fun _ _ => rfl⟩
  exact ⟨framed, trace, run⟩

/-! ## Runs that are kept in a cell -/

theorem advance_mapOk (poll : Nat → Store ε ν → Store ε ν) (work : Computation ε ν (Outcome α))
    (wrap : α → β) (store : Store ε ν) :
    advance poll (work.mapOk wrap) store =
      ((advance poll work store).1.mapOk wrap, (advance poll work store).2) := by
  induction work generalizing store with
  | finish outcome => cases outcome <;> rfl
  | breakOff => rfl
  | note event next ih => exact ih _
  | pass gate next ih =>
      simp only [advance, Computation.mapOk, Computation.andThen, Computation.bind]
      split
      · exact ih store
      · rfl
  | start cell next ih => exact ih _
  | await cell next ih =>
      simp only [advance, Computation.mapOk, Computation.andThen, Computation.bind]
      split
      · exact ih _ _
      · rfl
  | peek cell next ih => exact ih _ _

/-- A cell has the rest of a computation before it, or has been left with it. Its values are wrapped
results. -/
def Keeps (store : Store ε ν) (wrap : α → ν) (cell : Nat) (rest : Computation ε ν (Outcome α)) :
    Prop :=
  store.state? cell = some (.pending (rest.mapOk wrap)) ∨
    store.state? cell = some (.ofRest (rest.mapOk wrap))

/-- A kept rest is running after a start, or it is an end that advances no further. -/
theorem Keeps.start {store : Store ε ν} {wrap : α → ν} {cell : Nat}
    {rest : Computation ε ν (Outcome α)} (keeps : store.Keeps wrap cell rest) :
    (store.start cell).state? cell = some (.running (rest.mapOk wrap)) ∨
      (∃ outcome, store.outcome? cell = some outcome) ∧
        store.state? cell = some (.ofRest (rest.mapOk wrap)) ∧
        ∀ poll (plain : Store ε ν), Store.advance poll rest plain = (rest, plain) := by
  rw [state?_start, if_pos rfl]
  rcases keeps with pending | left
  · exact Or.inl (by rw [pending]; rfl)
  · cases rest with
    | finish outcome =>
        refine Or.inr ⟨?_, left, fun _ _ => rfl⟩
        cases outcome <;> exact ⟨_, outcome?_eq_some_iff.mpr left⟩
    | breakOff => exact Or.inr ⟨⟨_, outcome?_eq_some_iff.mpr left⟩, left, fun _ _ => rfl⟩
    | note | pass | start | await | peek => exact Or.inl (by rw [left]; rfl)

namespace Twins

variable {bound : Nat} {extra : List (Cell ε ν)} {plain wide : Store ε ν}

/-- A change of an extra cell is of no concern to the plain store. -/
theorem modify_extra (twins : Twins bound extra plain wide) {cell : Nat} (after : bound ≤ cell)
    (change : CellState ε ν → CellState ε ν) :
    ∃ changed, Twins bound changed plain (wide.modify cell change) := by
  refine ⟨extra.modify (cell - bound)
    (fun content => { content with state := change content.state }), twins.size_eq, twins.ordered,
    ?_, twins.gates_eq⟩
  have outside : plain.cells.length ≤ cell := twins.length_eq ▸ after
  simp only [Store.modify, twins.cells_eq]
  apply List.ext_getElem?
  intro other
  simp only [List.getElem?_modify, List.getElem?_append]
  by_cases left : other < plain.cells.length
  · have different : cell ≠ other := Nat.ne_of_gt (Nat.lt_of_lt_of_le left outside)
    simp [left, different]
  · have same_place : cell = other ↔ cell - bound = other - plain.cells.length := by
      rw [twins.length_eq] at left ⊢
      omega
    simp [left, same_place]

/-- Waiting for an extra cell takes what it keeps as far as the same computation comes in the plain
store, and leaves the other extra cells alone. -/
theorem run_cell (twins : Twins bound extra plain wide) {cell : Nat} (after : bound ≤ cell)
    {wrap : α → ν} {rest : Computation ε ν (Outcome α)} (within : rest.Within (below bound))
    (keeps : wide.Keeps wrap cell rest) :
    let advanced := Store.advance (Store.pollBelow bound) rest plain
    let final := (wide.run (Computation.outcomeOf cell)).2
    (∃ changed, Twins bound changed advanced.2 final) ∧
      final.state? cell = some (.ofRest (advanced.1.mapOk wrap)) ∧
      ∀ other, bound ≤ other → other ≠ cell → final.state? other = wide.state? other := by
  intro advanced final
  have final_eq : final = Store.pollBelow wide.size cell (wide.start cell) :=
    run_outcomeOf_store wide cell
  rcases keeps.start with running | ⟨⟨outcome, known⟩, left, ended⟩
  · -- The cell runs beside the plain computation, which does not see it.
    obtain ⟨started_extra, started⟩ := twins.modify_extra after CellState.started
    change Twins bound started_extra plain (wide.start cell) at started
    obtain ⟨rest_eq, lockstep⟩ := started.advance
      (Twins.poll (Nat.le_refl bound) after) within
    have inside : cell < wide.size := by
      rw [← size_start wide cell]
      exact lt_size_of_state? running
    have cell_run : final =
        (Store.advance (Store.pollBelow cell) rest (wide.start cell)).2.modify cell
          fun _ => .ofRest (advanced.1.mapOk wrap) := by
      rw [final_eq, pollBelow_of_lt inside, pollBelow_of_running running, advance_mapOk, ← rest_eq]
    have still_running := running_advance running rest
    obtain ⟨changed, final_twins⟩ := lockstep.modify_extra after
      fun _ => .ofRest (advanced.1.mapOk wrap)
    refine ⟨⟨changed, cell_run ▸ final_twins⟩, ?_, ?_⟩
    · rw [cell_run, state?_modify, if_pos rfl, still_running, Option.map_some]
    · intro other outside different
      rw [cell_run, state?_modify, if_neg (Ne.symm different), lockstep.state?_extra outside,
        ← started.state?_extra outside, state?_start, if_neg (Ne.symm different)]
  · have unchanged : final = wide := by
      rw [final_eq, start_of_settled known, pollBelow_of_settled known]
    have advanced_eq : advanced = (rest, plain) := ended _ plain
    rw [unchanged, advanced_eq]
    exact ⟨⟨extra, twins⟩, left, fun _ _ _ => rfl⟩

end Twins

end Store

/-- How those who wait for a cell see its computation end. To them breaking off is an error. -/
def Computation.Progress.guarded :
    Computation.Progress (Outcome α) → Computation.Progress (Outcome α)
  | brokenOff => finished (.error .brokenOff)
  | progress => progress

theorem Computation.guarded_of_unbroken {rest : Computation ε ν (Outcome α)}
    (within : rest.Within { broken := False }) : rest.progress.guarded = rest.progress := by
  cases rest with
  | breakOff => exact within.elim
  | finish | note | pass | start | await | peek => rfl

namespace Store

/-- A wait for a cell ends as the computation whose rest the cell is left with. -/
theorem run_kept {wide : Store ε ν} {cell : Nat} {wrap : α → ν} {unwrap : ν → α}
    (unwrap_wrap : ∀ value, unwrap (wrap value) = value) {rest : Computation ε ν (Outcome α)}
    (left : (wide.run (Computation.outcomeOf cell)).2.state? cell =
      some (.ofRest (rest.mapOk wrap))) :
    let served := wide.run ((Computation.outcomeOf cell).mapOk unwrap)
    served.1.progress = rest.progress.guarded ∧
      served.2 = (wide.run (Computation.outcomeOf cell)).2 := by
  intro served
  have served_eq : served = ((wide.run (Computation.outcomeOf cell)).1.mapOk unwrap,
      (wide.run (Computation.outcomeOf cell)).2) := advance_mapOk _ _ unwrap wide
  rw [served_eq]
  refine ⟨?_, rfl⟩
  have known : (wide.run (Computation.outcomeOf cell)).2.outcome? cell =
      (CellState.ofRest (rest.mapOk wrap)).outcome? := by
    rw [outcome?, left, Option.bind_some]
  rw [run_outcomeOf_rest, known]
  cases rest with
  | finish outcome =>
      cases outcome with
      | ok value =>
          exact congrArg (fun value => Computation.Progress.finished (Except.ok value))
            (unwrap_wrap value)
      | error error => rfl
  | breakOff => rfl
  | note | pass | start | await | peek => rfl

/-- A cell of the wide store keeps what a computation comes to in the plain one, where looks at
cells from the limit on show what they still show. -/
def Shares (limit : Nat) (wrap : α → ν) (plain wide : Store ε ν)
    (origin : Computation ε ν (Outcome α)) (cell : Nat) : Prop :=
  ∃ trace rest, plain.Runs (limit ≤ ·) origin trace rest ∧ wide.Keeps wrap cell rest

/-- A shared run stays shared while its cell is left alone and the plain store loses nothing. -/
theorem Shares.mono {limit : Nat} {wrap : α → ν} {plain wide plain_after wide_after : Store ε ν}
    {origin : Computation ε ν (Outcome α)} {cell : Nat}
    (shares : Shares limit wrap plain wide origin cell) (order : plain.Precedes plain_after)
    (framed : Framed limit plain plain_after)
    (kept : wide_after.state? cell = wide.state? cell) :
    Shares limit wrap plain_after wide_after origin cell := by
  obtain ⟨trace, rest, run, keeps⟩ := shares
  refine ⟨trace, rest, run.mono order ?_, ?_⟩
  · intro firm outside
    rw [outcome?, framed.kept firm outside, outcome?]
  · rwa [Keeps, kept]

/-- Whoever waits for a shared run gets what a computation like it comes to in the plain store, and
the run stays shared. -/
theorem Twins.share {bound limit : Nat} {extra : List (Cell ε ν)} {plain wide : Store ε ν}
    {wrap : α → ν} {unwrap : ν → α} (unwrap_wrap : ∀ value, unwrap (wrap value) = value)
    (twins : Twins bound extra plain wide) (limit_le : limit ≤ bound)
    {work origin : Computation ε ν (Outcome α)} (alike : work.Alike origin)
    (work_within : work.Within (reading limit bound))
    (origin_within : origin.Within (reading limit bound)) {cell : Nat} (after : bound ≤ cell)
    (shares : Shares limit wrap plain wide origin cell) :
    let asked := plain.run work
    let served := wide.run ((Computation.outcomeOf cell).mapOk unwrap)
    served.1.progress = asked.1.progress.guarded ∧
      (∃ changed, Twins bound changed asked.2 served.2) ∧
      Shares limit wrap asked.2 served.2 origin cell ∧
      ∀ other, bound ≤ other → other ≠ cell → served.2.state? other = wide.state? other := by
  intro asked served
  obtain ⟨trace, rest, run, keeps⟩ := shares
  obtain ⟨rest_within, -⟩ := run.within origin_within
  -- In the plain store the computation comes as far as the one the run began with,
  have self_twins : Twins bound [] plain plain := twins.size_eq ▸ Twins.refl twins.ordered
  obtain ⟨progress_eq, same⟩ := self_twins.advance_alike
    (Twins.poll (Nat.le_refl bound) (Nat.le_refl bound)) alike
    (work_within.mono (reading_le_below limit_le))
  have asked_eq : asked = Store.advance (Store.pollBelow bound) work plain := by
    rw [← twins.size_eq]
    rfl
  rw [← asked_eq] at progress_eq same
  -- and that one comes as far as the rest that the cell keeps.
  obtain ⟨notes, replayed⟩ := run.replay
    (origin_within.mono (reading_le_unstarted limit bound)) rfl rfl bound
  rw [replayed] at progress_eq same
  have noted : Twins bound extra { plain with notes := notes } wide :=
    twins.with_notes notes wide.notes
  obtain ⟨⟨changed, final_twins⟩, left, others⟩ :=
    noted.run_cell after (rest_within.mono (reading_le_below limit_le)) keeps
  obtain ⟨ends, final_eq⟩ := run_kept unwrap_wrap left
  obtain ⟨framed, more, run_on⟩ := reader_course noted.ordered rest_within bound
  have whole_run : asked.2.Runs (limit ≤ ·) origin (trace ++ more)
      (Store.advance (Store.pollBelow bound) rest { plain with notes := notes }).1 := by
    have order : plain.Precedes
        (Store.advance (Store.pollBelow bound) rest { plain with notes := notes }).2 :=
      (precedes_notes plain notes).trans
        (precedes_advance (fun store cell => precedes_pollBelow bound cell store) rest _)
    have first_run := run.mono order fun firm outside => by
      rw [outcome?, framed.kept firm outside]
      rfl
    refine (first_run.trans run_on).of_same ?_ same.gates_eq.symm
    rw [same.cells_eq, List.append_nil]
  refine ⟨ends.trans (congrArg _ progress_eq.symm), ⟨changed, final_eq ▸ same.trans final_twins⟩,
    ⟨trace ++ more, _, whole_run, Or.inr (final_eq ▸ left)⟩, ?_⟩
  intro other outside different
  rw [final_eq]
  exact others other outside different

end Store

end Lazy

end SymbolResolver
