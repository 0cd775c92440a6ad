import Mathlib.Data.List.Induction
import SymbolResolver.Proofs.Turns
import SymbolResolver.Resolution.SharedCache

/-!
# Requests that share entries

Requests, removals and turns come to a cache in any order. A request runs its computation just when
it finds no entry, and it is served by the computation that holds the entry from then on, whatever
is removed later. Which entries there are depends on requests and removals alone
(`cell?_eq_some_iff`), so nothing that happens to a removed computation can bring its entry back.
-/

namespace SymbolResolver

namespace Resolution

open Lazy

variable {ε ν : Type}

/-- Whether a move removes the entry of a key. -/
def CacheMove.removes (key : CacheKey) : CacheMove ε ν → Bool
  | invalidate file => key.file == file
  | clear => true
  | _ => false

namespace SharedCache

variable (scheduling : Scheduling) {shared : SharedCache ε ν} {key : CacheKey}

/-! ## Requests -/

/-- The cell that a request for a key waits for: the one of its entry, or else the next new one. -/
def serving (shared : SharedCache ε ν) (key : CacheKey) : Nat :=
  (shared.cache.cell? key).getD shared.store.size

/-- A request that finds an entry has no use for its computation. -/
theorem ask_of_found {cell : Nat} (found : shared.cache.cell? key = some cell)
    (work : Computation ε ν (Outcome ν)) (needed : List Nat) :
    shared.ask key work needed = ⟨shared.toPool.enroll cell, shared.cache⟩ := by
  simp [ask, Cache.request_of_found found]

/-- A request that finds no entry makes a cell for its computation. -/
theorem ask_of_absent (absent : shared.cache.cell? key = none)
    (work : Computation ε ν (Outcome ν)) (needed : List Nat) :
    shared.ask key work needed =
      ⟨{ shared.toPool with store := (shared.store.defer work needed).2 }.enroll shared.store.size,
        ⟨(key, shared.store.size) :: shared.cache.entries⟩⟩ := by
  simp [ask, Cache.request_of_absent absent]

theorem cell?_ask (shared : SharedCache ε ν) (key other : CacheKey)
    (work : Computation ε ν (Outcome ν)) (needed : List Nat) :
    (shared.ask key work needed).cache.cell? other =
      if other = key then some (shared.serving key) else shared.cache.cell? other := by
  cases found : shared.cache.cell? key with
  | some cell =>
      rw [ask_of_found found]
      split
      · next same => simp [serving, same, found]
      · rfl
  | none =>
      rw [ask_of_absent found, serving, found]
      exact shared.cache.cell?_cons key other shared.store.size

theorem caller_ask (shared : SharedCache ε ν) (key : CacheKey) (work : Computation ε ν (Outcome ν))
    (needed : List Nat) :
    ∃ caller, (shared.ask key work needed).callers[shared.callers.length]? = some caller ∧
      caller.cell = shared.serving key := by
  cases found : shared.cache.cell? key with
  | some cell =>
      rw [ask_of_found found, serving, found]
      exact shared.toPool.caller_enroll cell
  | none =>
      rw [ask_of_absent found, serving, found]
      exact Pool.caller_enroll { shared.toPool with store := (shared.store.defer work needed).2 } _

theorem size_ask (shared : SharedCache ε ν) (key : CacheKey) (work : Computation ε ν (Outcome ν))
    (needed : List Nat) :
    (shared.ask key work needed).store.size =
      shared.store.size + if (shared.cache.cell? key).isNone then 1 else 0 := by
  cases found : shared.cache.cell? key with
  | some cell =>
      rw [ask_of_found found]
      exact Store.size_run shared.store _
  | none =>
      rw [ask_of_absent found]
      exact (Store.size_run _ _).trans (Store.size_allocate shared.store _ needed)

/-! ## Moves -/

theorem continues_act (shared : SharedCache ε ν) (move : CacheMove ε ν) :
    Pool.Continues shared.toPool (shared.act scheduling move).toPool := by
  cases move with
  | ask key work needed =>
      simp only [act]
      cases found : shared.cache.cell? key with
      | some cell =>
          rw [ask_of_found found]
          exact shared.toPool.continues_enroll cell
      | none =>
          rw [ask_of_absent found]
          exact (Pool.continues_of_executor (Store.precedes_allocate shared.store _ needed)).trans
            (Pool.continues_enroll _ _)
  | peek key => exact .refl _
  | invalidate file => exact .refl _
  | clear => exact .refl _
  | turn turn => exact Pool.continues_turn scheduling _ _ turn

theorem continues_perform (shared : SharedCache ε ν) (move : CacheMove ε ν) :
    Pool.Continues shared.toPool (shared.perform scheduling move).toPool :=
  (continues_act scheduling shared move).trans (Pool.continues_release scheduling _ _)

theorem continues_performAll (shared : SharedCache ε ν) (moves : List (CacheMove ε ν)) :
    Pool.Continues shared.toPool (shared.performAll scheduling moves).toPool := by
  induction moves generalizing shared with
  | nil => exact .refl _
  | cons move moves ih => exact (continues_perform scheduling shared move).trans (ih _)

/-- The run of a cell goes on through every move. -/
theorem tracked_perform {cell : Nat} {origin : CellState ε ν} (move : CacheMove ε ν)
    (tracked : shared.store.Tracked (fun _ => false) cell origin []) :
    (shared.perform scheduling move).store.Tracked (fun _ => false) cell origin [] := by
  have demanded : ∀ (store : Store ε ν) (other : Nat),
      store.Tracked (fun _ => false) cell origin [] →
      (store.run (Computation.outcomeOf other)).2.Tracked (fun _ => false) cell origin [] :=
    fun store other kept => kept.run (Computation.outcomeOf_within other trivial)
  cases move with
  | ask key work needed =>
      simp only [store_perform, act]
      cases found : shared.cache.cell? key with
      | some cell =>
          rw [ask_of_found found]
          exact demanded shared.store cell tracked
      | none =>
          rw [ask_of_absent found]
          exact demanded _ _ (tracked.allocate (CellState.within_unmarked _) needed)
  | peek key => exact tracked
  | invalidate file => exact tracked
  | clear => exact tracked
  | turn turn =>
      exact Pool.turn_preserves _ demanded (fun _ other kept => kept.poll other)
        (fun _ gate kept => kept.openGate gate) scheduling _ _ turn tracked

theorem tracked_performAll {cell : Nat} {origin : CellState ε ν} (moves : List (CacheMove ε ν))
    (tracked : shared.store.Tracked (fun _ => false) cell origin []) :
    (shared.performAll scheduling moves).store.Tracked (fun _ => false) cell origin [] := by
  induction moves generalizing shared with
  | nil => exact tracked
  | cons move moves ih => exact ih (tracked_perform scheduling move tracked)

/-- A request that finds no entry begins the run of its computation. -/
theorem tracked_ask (absent : shared.cache.cell? key = none) (work : Computation ε ν (Outcome ν))
    (needed : List Nat) :
    (shared.perform scheduling (.ask key work needed)).store.Tracked (fun _ => false)
      shared.store.size (.pending work) [] := by
  have made : (shared.store.defer work needed).2.Tracked (fun _ => false) shared.store.size
      (.pending work) [] := by
    refine ⟨?_, .pending work, [], ?_, .refl _ _, by simp⟩
    · intro other state _
      exact state.within_unmarked.mono (silence_le_apart _ _ other)
    · exact (shared.store.state?_allocate (.pending work) needed _).trans (if_pos rfl)
  rw [store_perform, act, ask_of_absent absent]
  exact made.run (Computation.outcomeOf_within _ trivial)

/-! ## Entries -/

/-- What a move does to the entry of a key. -/
theorem cell?_perform (shared : SharedCache ε ν) (move : CacheMove ε ν) (key : CacheKey) :
    (shared.perform scheduling move).cache.cell? key =
      match move with
      | .ask asked _ _ =>
        if key = asked then some (shared.serving asked) else shared.cache.cell? key
      | .invalidate file => if key.file = file then none else shared.cache.cell? key
      | .clear => none
      | _ => shared.cache.cell? key := by
  cases move with
  | ask asked work needed => exact shared.cell?_ask asked key work needed
  | peek other => rfl
  | invalidate file => exact shared.cache.cell?_invalidate file key
  | clear => rfl
  | turn turn => rfl

/-- An entry stays as it is until it is removed. -/
theorem cell?_perform_of_found {cell : Nat} {move : CacheMove ε ν}
    (kept : move.removes key = false) (found : shared.cache.cell? key = some cell) :
    (shared.perform scheduling move).cache.cell? key = some cell := by
  rw [cell?_perform]
  cases move with
  | ask asked work needed =>
      simp only
      split
      · next same => rw [← same, serving, found, Option.getD_some]
      · exact found
  | peek other => exact found
  | invalidate file =>
      have other_file : key.file ≠ file := by simpa [CacheMove.removes] using kept
      simpa [other_file] using found
  | clear => simp [CacheMove.removes] at kept
  | turn turn => exact found

theorem cell?_performAll_of_found {cell : Nat} {moves : List (CacheMove ε ν)}
    (kept : ∀ move ∈ moves, move.removes key = false)
    (found : shared.cache.cell? key = some cell) :
    (shared.performAll scheduling moves).cache.cell? key = some cell := by
  induction moves generalizing shared with
  | nil => exact found
  | cons move moves ih =>
      rw [List.forall_mem_cons] at kept
      exact ih kept.2 (cell?_perform_of_found scheduling kept.1 found)

theorem performAll_append (shared : SharedCache ε ν) (earlier later : List (CacheMove ε ν)) :
    shared.performAll scheduling (earlier ++ later) =
      (shared.performAll scheduling earlier).performAll scheduling later :=
  List.foldl_append

theorem performAll_nil (shared : SharedCache ε ν) : shared.performAll scheduling [] = shared := rfl

theorem performAll_cons (shared : SharedCache ε ν) (move : CacheMove ε ν)
    (moves : List (CacheMove ε ν)) :
    shared.performAll scheduling (move :: moves) =
      (shared.perform scheduling move).performAll scheduling moves := rfl

/-- After a request its key has an entry until a removal. -/
theorem cell?_asked (shared : SharedCache ε ν) (work : Computation ε ν (Outcome ν))
    (needed : List Nat) {later : List (CacheMove ε ν)}
    (kept : ∀ move ∈ later, move.removes key = false) :
    (shared.performAll scheduling (.ask key work needed :: later)).cache.cell? key =
      some (shared.serving key) := by
  rw [performAll_cons]
  apply cell?_performAll_of_found scheduling kept
  simp [cell?_perform]

/-- A request has brought a computation into the cache under a key, in a cell of its own, and the
entry has not been removed since. -/
def Serves (moves : List (CacheMove ε ν)) (key : CacheKey) (cell : Nat)
    (work : Computation ε ν (Outcome ν)) : Prop :=
  ∃ earlier needed later, moves = earlier ++ .ask key work needed :: later ∧
    (∀ move ∈ later, move.removes key = false) ∧
    ((empty : SharedCache ε ν).performAll scheduling earlier).cache.cell? key = none ∧
    ((empty : SharedCache ε ν).performAll scheduling earlier).store.size = cell

variable {scheduling} in
theorem Serves.append {moves : List (CacheMove ε ν)} {cell : Nat}
    {work : Computation ε ν (Outcome ν)} (serves : Serves scheduling moves key cell work)
    {move : CacheMove ε ν} (kept : move.removes key = false) :
    Serves scheduling (moves ++ [move]) key cell work := by
  obtain ⟨earlier, needed, later, rfl, later_kept, absent, made⟩ := serves
  refine ⟨earlier, needed, later ++ [move], by simp, ?_, absent, made⟩
  intro other member
  rcases List.mem_append.mp member with inside | last
  · exact later_kept other inside
  · rw [List.mem_singleton.mp last]
    exact kept

/-- The entry of a key holds the cell of the last request that found none, if it has not been
removed since. -/
theorem cell?_eq_some_iff (moves : List (CacheMove ε ν)) (key : CacheKey) (cell : Nat) :
    ((empty : SharedCache ε ν).performAll scheduling moves).cache.cell? key = some cell ↔
      ∃ work, Serves scheduling moves key cell work := by
  constructor
  · induction moves using List.reverseRecOn with
    | nil => simp [performAll, empty]
    | append_singleton moves move ih =>
        intro found
        rw [performAll_append, performAll_cons, performAll_nil, cell?_perform] at found
        cases move with
        | ask asked work needed =>
            simp only at found
            split at found
            · next same =>
              subst same
              cases earlier_found :
                  ((empty : SharedCache ε ν).performAll scheduling moves).cache.cell? key with
              | some earlier_cell =>
                  rw [serving, earlier_found, Option.getD_some] at found
                  obtain ⟨origin, serves⟩ := ih (earlier_found.trans found)
                  exact ⟨origin, serves.append rfl⟩
              | none =>
                  rw [serving, earlier_found, Option.getD_none] at found
                  exact ⟨work, moves, needed, [], rfl, by simp, earlier_found,
                    Option.some.inj found⟩
            · obtain ⟨origin, serves⟩ := ih found
              exact ⟨origin, serves.append rfl⟩
        | peek other =>
            obtain ⟨origin, serves⟩ := ih found
            exact ⟨origin, serves.append rfl⟩
        | invalidate file =>
            simp only at found
            split at found
            · simp at found
            · next other_file =>
              obtain ⟨origin, serves⟩ := ih found
              exact ⟨origin, serves.append (by simpa [CacheMove.removes] using other_file)⟩
        | clear => simp at found
        | turn turn =>
            obtain ⟨origin, serves⟩ := ih found
            exact ⟨origin, serves.append rfl⟩
  · rintro ⟨work, earlier, needed, later, rfl, kept, absent, rfl⟩
    rw [performAll_append, cell?_asked scheduling _ work needed kept, serving, absent,
      Option.getD_none]

/-- A key has an entry just when it has been requested and not been removed since. -/
theorem mem_keys_iff_requested (moves : List (CacheMove ε ν)) (key : CacheKey) :
    key ∈ ((empty : SharedCache ε ν).performAll scheduling moves).cache.keys ↔
      ∃ earlier work needed later, moves = earlier ++ .ask key work needed :: later ∧
        ∀ move ∈ later, move.removes key = false := by
  rw [Cache.mem_keys_iff]
  constructor
  · rintro ⟨cell, found⟩
    obtain ⟨work, earlier, needed, later, split, kept, _⟩ :=
      (cell?_eq_some_iff scheduling moves key cell).mp found
    exact ⟨earlier, work, needed, later, split, kept⟩
  · rintro ⟨earlier, work, needed, later, rfl, kept⟩
    rw [performAll_append]
    exact ⟨_, cell?_asked scheduling _ work needed kept⟩

theorem nodup_keys_perform (shared : SharedCache ε ν) (move : CacheMove ε ν)
    (distinct : shared.cache.keys.Nodup) : (shared.perform scheduling move).cache.keys.Nodup := by
  cases move with
  | ask key work needed =>
      simp only [cache_perform, act]
      cases found : shared.cache.cell? key with
      | some cell => simpa [ask_of_found found] using distinct
      | none =>
          have new : key ∉ shared.cache.keys := by
            rw [Cache.mem_keys_iff, found]
            simp
          rw [ask_of_absent found]
          exact List.nodup_cons.mpr ⟨new, distinct⟩
  | peek key => exact distinct
  | invalidate file => exact distinct.sublist (List.filter_sublist.map _)
  | clear => exact List.nodup_nil
  | turn turn => exact distinct

theorem nodup_keys_performAll (moves : List (CacheMove ε ν)) (shared : SharedCache ε ν)
    (distinct : shared.cache.keys.Nodup) :
    (shared.performAll scheduling moves).cache.keys.Nodup := by
  induction moves generalizing shared with
  | nil => exact distinct
  | cons move moves ih => exact ih _ (nodup_keys_perform scheduling shared move distinct)

/-! ## Invoked computations -/

/-- The key under which a move brings a new computation into the cache. -/
def invokedBy? (shared : SharedCache ε ν) : CacheMove ε ν → Option CacheKey
  | .ask key _ _ => if (shared.cache.cell? key).isNone then some key else none
  | _ => none

/-- The keys under which moves bring new computations into the cache, one after the other. -/
def invoked (shared : SharedCache ε ν) : List (CacheMove ε ν) → List CacheKey
  | [] => []
  | move :: moves =>
    (shared.invokedBy? move).toList ++ (shared.perform scheduling move).invoked moves

theorem size_perform (shared : SharedCache ε ν) (move : CacheMove ε ν) :
    (shared.perform scheduling move).store.size =
      shared.store.size + (shared.invokedBy? move).toList.length := by
  cases move with
  | ask key work needed =>
      simp only [store_perform, act, size_ask, invokedBy?]
      split <;> rfl
  | peek key => rfl
  | invalidate file => rfl
  | clear => rfl
  | turn turn => exact Pool.size_turn scheduling _ _ turn

/-- Every invoked computation gets a cell, and no other cells are made. -/
theorem size_performAll (shared : SharedCache ε ν) (moves : List (CacheMove ε ν)) :
    (shared.performAll scheduling moves).store.size =
      shared.store.size + (shared.invoked scheduling moves).length := by
  induction moves generalizing shared with
  | nil => rfl
  | cons move moves ih =>
      rw [performAll_cons, ih, size_perform, invoked, List.length_append, Nat.add_assoc]

/-- A key that has an entry is not invoked again before a removal. -/
theorem count_invoked_of_found {cell : Nat} {moves : List (CacheMove ε ν)}
    (kept : ∀ move ∈ moves, move.removes key = false)
    (found : shared.cache.cell? key = some cell) :
    (shared.invoked scheduling moves).count key = 0 := by
  induction moves generalizing shared with
  | nil => rfl
  | cons move moves ih =>
      rw [List.forall_mem_cons] at kept
      rw [invoked, List.count_append, ih kept.2 (cell?_perform_of_found scheduling kept.1 found)]
      cases move with
      | ask asked work needed =>
          simp only [invokedBy?]
          split
          · next absent =>
            have different : asked ≠ key := by
              rintro rfl
              simp [found] at absent
            simp [different]
          · rfl
      | peek | invalidate | clear | turn => rfl

/-- Between two removals of a key its computation is invoked at most once. -/
theorem count_invoked_le_one (shared : SharedCache ε ν) {moves : List (CacheMove ε ν)}
    (kept : ∀ move ∈ moves, move.removes key = false) :
    (shared.invoked scheduling moves).count key ≤ 1 := by
  induction moves generalizing shared with
  | nil => simp [invoked]
  | cons move moves ih =>
      rw [List.forall_mem_cons] at kept
      rw [invoked, List.count_append]
      by_cases invokes : shared.invokedBy? move = some key
      · -- The request that invokes it leaves an entry behind.
        have left_entry : (shared.perform scheduling move).cache.cell? key =
            some (shared.serving key) := by
          cases move with
          | ask asked work needed =>
              obtain rfl : asked = key := by simp_all [invokedBy?]
              simp [cell?_perform]
          | peek | invalidate | clear | turn => simp [invokedBy?] at invokes
        rw [count_invoked_of_found scheduling kept.2 left_entry, invokes]
        simp
      · have not_now : (shared.invokedBy? move).toList.count key = 0 := by
          cases made : shared.invokedBy? move with
          | none => rfl
          | some other =>
              have different : other ≠ key := fun same => invokes (same ▸ made)
              simp [different]
        rw [not_now, Nat.zero_add]
        exact ih _ kept.2

/-! ## Served requests -/

theorem honest_performAll (moves : List (CacheMove ε ν)) :
    ((empty : SharedCache ε ν).performAll scheduling moves).Honest :=
  (continues_performAll scheduling empty moves).honest fun _ _ _ found => by
    simp [empty, Pool.empty] at found

variable {scheduling} in
/-- The cell that serves a key is where one run of its computation has come to. -/
theorem Serves.course {moves : List (CacheMove ε ν)} {cell : Nat}
    {work : Computation ε ν (Outcome ν)} (serves : Serves scheduling moves key cell work)
    (later : List (CacheMove ε ν)) :
    let shared := (empty : SharedCache ε ν).performAll scheduling (moves ++ later)
    ∃ state trace, shared.store.state? cell = some state ∧
      (CellState.pending work).Advances shared.store trace state := by
  obtain ⟨earlier, needed, between, rfl, _, absent, rfl⟩ := serves
  rw [List.append_assoc, List.cons_append, performAll_append, performAll_cons]
  obtain ⟨state, trace, found, advances, _⟩ :=
    (tracked_performAll scheduling (between ++ later)
      (tracked_ask scheduling absent work needed)).flight
  exact ⟨state, trace, found, advances⟩

variable {scheduling} in
/-- A key is never served by a computation from before its last removal. -/
theorem Serves.after_removal {past between : List (CacheMove ε ν)} {removal : CacheMove ε ν}
    {cell : Nat} {work : Computation ε ν (Outcome ν)}
    (serves : Serves scheduling (past ++ removal :: between) key cell work)
    (removed : removal.removes key = true) :
    ((empty : SharedCache ε ν).performAll scheduling past).store.size ≤ cell := by
  obtain ⟨earlier, needed, later, split, kept, _, rfl⟩ := serves
  rcases List.append_eq_append_iff.mp split with ⟨more, rfl, _⟩ | ⟨more, rfl, tail_eq⟩
  · rw [performAll_append]
    exact (continues_performAll scheduling _ more).store.size_le
  · -- The removal would have to come after the request.
    have member : removal ∈ .ask key work needed :: later := by simp [tail_eq]
    rcases List.mem_cons.mp member with rfl | inside
    · simp [CacheMove.removes] at removed
    · simp [kept removal inside] at removed

/-- A request is served by the computation that holds the entry of its key from then on: it waits
for that cell through all later moves, and what it gets is the end of that run. -/
theorem request_served (earlier later : List (CacheMove ε ν)) (key : CacheKey)
    (work : Computation ε ν (Outcome ν)) (needed : List Nat) :
    let before := (empty : SharedCache ε ν).performAll scheduling earlier
    let shared := before.performAll scheduling (.ask key work needed :: later)
    ∃ origin caller,
      Serves scheduling (earlier ++ [.ask key work needed]) key (before.serving key) origin ∧
      shared.callers[before.callers.length]? = some caller ∧ caller.cell = before.serving key ∧
      ∀ cell outcome, caller = .finished cell outcome →
        shared.store.outcome? cell = some outcome ∧
        ∃ trace rest, shared.store.Runs (fun _ => False) origin trace rest ∧
          (rest = .finish outcome ∨ rest = .breakOff ∧ outcome = .error .brokenOff) := by
  intro before shared
  have all_moves : shared =
      (empty : SharedCache ε ν).performAll scheduling (earlier ++ .ask key work needed :: later) :=
    (performAll_append scheduling _ _ _).symm
  have entry : ((empty : SharedCache ε ν).performAll scheduling
      (earlier ++ [.ask key work needed])).cache.cell? key = some (before.serving key) := by
    rw [performAll_append]
    exact cell?_asked scheduling before work needed (by simp)
  obtain ⟨origin, serves⟩ := (cell?_eq_some_iff scheduling _ key _).mp entry
  obtain ⟨first, enrolled, first_cell⟩ := before.caller_ask key work needed
  obtain ⟨caller, found, becomes⟩ :=
    (continues_performAll scheduling (before.perform scheduling (.ask key work needed)) later).find
      enrolled
  have same_cell : caller.cell = before.serving key := becomes.cell_eq.trans first_cell
  refine ⟨origin, caller, serves, found, same_cell, ?_⟩
  rintro cell outcome rfl
  have known : shared.store.outcome? cell = some outcome := by
    have honest : shared.Honest := all_moves ▸ honest_performAll scheduling _
    exact honest _ cell outcome found
  have served : (before.serving key) = cell := same_cell.symm
  rw [served] at serves
  obtain ⟨state, trace, at_cell, advances⟩ := serves.course later
  rw [List.append_assoc, List.singleton_append, ← all_moves] at at_cell advances
  obtain rfl : state = .settled outcome :=
    Option.some.inj (at_cell.symm.trans (Store.outcome?_eq_some_iff.mp known))
  exact ⟨known, trace, advances.settled_course⟩

/-- Removing a file takes away its entries and nothing else. -/
theorem invalidate_exact (shared : SharedCache ε ν) (file : FileId) (key : CacheKey) :
    let after := shared.perform scheduling (.invalidate file)
    (key.file = file → after.cache.cell? key = none) ∧
      (key.file ≠ file → after.cache.cell? key = shared.cache.cell? key ∧
        after.cache.peek? after.store key = shared.cache.peek? shared.store key) := by
  intro after
  have entry := cell?_perform scheduling shared (.invalidate file) key
  constructor
  · intro same
    exact entry.trans (if_pos same)
  · intro different
    have kept : after.cache.cell? key = shared.cache.cell? key := entry.trans (if_neg different)
    exact ⟨kept, by simp only [Cache.peek?, kept]; rfl⟩

/-- A cache computes every key in one flight between two removals and serves nothing that was
removed. This holds after any moves, under either scheduling. -/
theorem cache_single_flight (moves : List (CacheMove ε ν)) :
    let shared := (empty : SharedCache ε ν).performAll scheduling moves
    -- A request invokes its computation just when it finds no entry, and else has no use for it.
    (∀ (key : CacheKey) (work : Computation ε ν (Outcome ν)) (needed : List Nat),
      let asked := shared.ask key work needed
      (∀ cell, shared.cache.cell? key = some cell → asked.store.size = shared.store.size ∧
        ∀ other more, shared.ask key other more = asked) ∧
      (shared.cache.cell? key = none → asked.store.size = shared.store.size + 1 ∧
        asked.cache.cell? key = some shared.store.size ∧
        ∃ state trace, asked.store.state? shared.store.size = some state ∧
          (CellState.pending work).Advances asked.store trace state)) ∧
    -- Every cell belongs to an invoked computation, and a key is invoked once between removals.
    (∀ later, (shared.performAll scheduling later).store.size =
      shared.store.size + (shared.invoked scheduling later).length) ∧
    (∀ (key : CacheKey) (later : List (CacheMove ε ν)),
      (∀ move ∈ later, move.removes key = false) →
      (shared.invoked scheduling later).count key ≤ 1) ∧
    -- A request gets the outcome of the computation that holds the entry when it is made.
    (∀ earlier key work needed later, moves = earlier ++ .ask key work needed :: later →
      let before := (empty : SharedCache ε ν).performAll scheduling earlier
      ∃ origin caller,
        Serves scheduling (earlier ++ [.ask key work needed]) key (before.serving key) origin ∧
        (∀ past removal between, earlier = past ++ removal :: between →
          removal.removes key = true →
          ((empty : SharedCache ε ν).performAll scheduling past).store.size ≤
            before.serving key) ∧
        shared.callers[before.callers.length]? = some caller ∧ caller.cell = before.serving key ∧
        ∀ cell outcome, caller = .finished cell outcome →
          shared.store.outcome? cell = some outcome ∧
          ∃ trace rest, shared.store.Runs (fun _ => False) origin trace rest ∧
            (rest = .finish outcome ∨ rest = .breakOff ∧ outcome = .error .brokenOff)) ∧
    -- The entries are those that requests have made and no removal has taken away since.
    (∀ key cell, shared.cache.cell? key = some cell ↔
      ∃ work, Serves scheduling moves key cell work) ∧
    (∀ turn, (shared.perform scheduling (.turn turn)).cache = shared.cache) ∧
    -- The number of entries is that of the keys requested and not removed since.
    ∃ keys : List CacheKey, keys.Nodup ∧ shared.cache.size = keys.length ∧
      (∀ key, key ∈ keys ↔ ∃ earlier work needed later,
        moves = earlier ++ .ask key work needed :: later ∧
        ∀ move ∈ later, move.removes key = false) ∧
      ∀ file,
        shared.answer (.invalidate file) = .removed (keys.countP fun key => key.file == file) ∧
        ∀ key, let after := shared.perform scheduling (.invalidate file)
          (key.file = file → after.cache.cell? key = none) ∧
          (key.file ≠ file → after.cache.cell? key = shared.cache.cell? key ∧
            after.cache.peek? after.store key = shared.cache.peek? shared.store key) := by
  intro shared
  refine ⟨?_, size_performAll scheduling shared, ?_, ?_, cell?_eq_some_iff scheduling moves,
    fun _ => rfl, shared.cache.keys, ?_, ?_, mem_keys_iff_requested scheduling moves, ?_⟩
  · intro key work needed asked
    have size_eq : asked.store.size = _ := shared.size_ask key work needed
    constructor
    · intro cell found
      refine ⟨by simpa [found] using size_eq, fun other more => ?_⟩
      rw [ask_of_found found, ← ask_of_found found work needed]
    · intro absent
      obtain ⟨state, trace, found, advances, _⟩ :=
        (tracked_ask scheduling absent work needed).flight
      refine ⟨by simpa [absent] using size_eq, ?_, state, trace, found, advances⟩
      rw [cell?_ask, if_pos rfl, serving, absent, Option.getD_none]
  · intro key later kept
    exact count_invoked_le_one scheduling shared kept
  · rintro earlier key work needed later rfl before
    obtain ⟨origin, caller, serves, served⟩ :=
      request_served scheduling earlier later key work needed
    rw [← performAll_append] at served
    refine ⟨origin, caller, serves, ?_, served⟩
    rintro past removal between rfl removed
    rw [List.append_assoc, List.cons_append] at serves
    exact serves.after_removal removed
  · exact nodup_keys_performAll scheduling moves empty List.nodup_nil
  · simp [Cache.size, Cache.keys]
  · intro file
    exact ⟨congrArg CacheReply.removed (shared.cache.countOf_eq file),
      invalidate_exact scheduling shared file⟩

end SharedCache

end Resolution

end SymbolResolver
