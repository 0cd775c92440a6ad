import SymbolResolver.Proofs.Readings

/-!
# Membership tests

A membership test reads the merged list if it is there, and otherwise it asks the sources that admit
the value, one after the other. Which of the two happens depends on everything that was read before,
but the answer does not, as long as no hint rules out a value that its source holds
(`Shelf.contains_from_sources`).
-/

namespace SymbolResolver

namespace Lazy

variable {ε ν α : Type}

/-! ## Values up to equality -/

/-- Nothing is lost by keeping only the first of equal elements. -/
theorem contains_distinct [BEq α] [EquivBEq α] (items : List α) (value : α) :
    (distinct items).contains value = items.contains value := by
  have respects : ∀ left right, (left == right) = true → (value == left) = (value == right) :=
    fun _ _ same => BEq.congr_right same
  rw [List.contains_eq_any_beq, List.contains_eq_any_beq, ← List.isSome_find?,
    ← List.isSome_find?, find?_distinct respects]

theorem isSome_find?_flatten [BEq α] (lists : List (List α)) (value : α) :
    (lists.flatten.find? (value == ·)).isSome = lists.any (·.contains value) := by
  rw [List.isSome_find?, List.any_flatten]
  simp only [List.contains_eq_any_beq]

namespace Collection

/-- The hints of sources rule a value out only where no equal one is. -/
def SoundFor [BEq α] (listed : Nat → Outcome (List α)) (value : α) (sources : List (Source α)) :
    Prop :=
  ∀ source ∈ sources, source.admits value = false →
    ∀ items, listed source.cell = .ok items → items.contains value = false

/-- Sources that succeed can be skipped where their hints allow it. -/
theorem SoundFor.isSome_firstIn [BEq α] {listed : Nat → Outcome (List α)} {value : α}
    {sources : List (Source α)} (sound : SoundFor listed value sources) {lists : List (List α)}
    (succeed : (sources.map fun source => listed source.cell) = lists.map .ok) :
    (firstIn (value == ·) ((sources.filter (·.admits value)).map
      fun source => listed source.cell)).map Option.isSome =
        .ok (lists.flatten.contains value) := by
  induction sources generalizing lists with
  | nil =>
      cases lists with
      | nil => rfl
      | cons items lists => cases succeed
  | cons source sources ih =>
      cases lists with
      | nil => cases succeed
      | cons items lists =>
          obtain ⟨first_ok, others_ok⟩ := List.cons.inj succeed
          obtain ⟨first_sound, others_sound⟩ := List.forall_mem_cons.mp sound
          have listed_ok : listed source.cell = .ok items := first_ok
          have others := ih others_sound others_ok
          have first_held : items.contains value = (items.find? (value == ·)).isSome := by
            rw [List.contains_eq_any_beq, List.isSome_find?]
          rw [List.flatten_cons, List.contains_append]
          cases admitted : source.admits value with
          | false =>
              rw [first_sound admitted items listed_ok, Bool.false_or,
                List.filter_cons_of_neg (by simp [admitted])]
              exact others
          | true =>
              rw [List.filter_cons_of_pos (by simp [admitted]), List.map_cons, listed_ok,
                first_held]
              cases matched : items.find? (value == ·) with
              | some found =>
                  rw [firstIn_cons_of_some matched]
                  rfl
              | none =>
                  rw [firstIn_cons_of_none matched]
                  exact others

section Contains

variable [Listed ν α] [BEq α] {store : Store ε ν} {firm : Nat → Prop} {collection : Collection α}
  {roles : List (Role ε ν α)} {traces : Nat → List ε} {listed : Nat → Outcome (List α)}

theorem contains_attends (value : α) :
    (collection.contains value : Computation ε ν (Outcome Bool)).Within
      (attending (Sourced (fun source => source.admits value = true) collection)
        (· = collection.merged)) :=
  readMerged_attends (scanFor_attends value)

/-- Both ways of answering a membership test come to the same. -/
theorem Merges.contained [EquivBEq α] (merges : collection.Merges roles)
    (booked : store.Booked (roles.map Role.state) traces)
    (comes : collection.ComesTo store listed) {value : α}
    (sound : SoundFor listed value collection.sources) {trace : List ε} {outcome : Outcome Bool}
    (run : store.Runs firm (collection.contains value) trace (.finish outcome)) :
    outcome = (firstIn (value == ·) ((collection.sources.filter (·.admits value)).map
      fun source => listed source.cell)).map Option.isSome := by
  rcases runs_readMerged run with ⟨stored, known, rfl⟩ | scanned
  · obtain ⟨lists, succeed, stored_eq⟩ := merges.merged_lists booked comes known
    rw [sound.isSome_firstIn succeed, stored_eq, contains_distinct]
  · exact comes.scanned_for scanned

end Contains

end Collection

/-! ## Histories -/

namespace Shelf

variable [Listed ν α] [BEq α] [EquivBEq α]

/-- The answer to a membership test is a matter of what the sources come to, and not of anything
that was read before. -/
theorem contains_from_sources (scheduling : Scheduling) (earlier later : List (ShelfMove ε ν α))
    (reader : String) (collection : Collection α) (value : α) (listed : Nat → Outcome (List α))
    (named : ((empty : Shelf ε ν α).performAll scheduling earlier).collection? reader =
      some collection)
    (comes : collection.ComesTo ((((empty : Shelf ε ν α).performAll scheduling earlier).perform
      scheduling (.read reader (.contains value))).performAll scheduling later).store listed)
    (sound : Collection.SoundFor listed value collection.sources) :
    let before := (empty : Shelf ε ν α).performAll scheduling earlier
    let begun := before.perform scheduling (.read reader (.contains value))
    let after := begun.performAll scheduling later
    let number := before.readings.length
    let asked := (collection.sources.filter (·.admits value)).map fun source => listed source.cell
    -- The sources are in the order of their priorities.
    Collection.Descending collection.sources ∧
    (∀ outcome, after.readings[number]? = some (.finished outcome) →
      -- Without a failure among the sources that are asked, one of them has to hold the value.
      (∀ lists : List (List α), asked = lists.map .ok →
        outcome = .ok (.truth (lists.any (·.contains value)))) ∧
      -- A failure is passed on if none before it holds the value, whatever comes after it.
      (∀ (lists : List (List α)) error others, asked = lists.map .ok ++ .error error :: others →
        outcome = if lists.any (·.contains value) then .ok (.truth true) else .error error) ∧
      -- If all sources succeed, the answer is membership in the list of all members.
      (∀ lists : List (List α),
        (collection.sources.map fun source => listed source.cell) = lists.map .ok →
        outcome = .ok (.truth ((distinct lists.flatten).contains value)))) ∧
    -- This list is what every reading of all members has found that was begun before or after.
    (∀ past future other outcome (lists : List (List α)),
      earlier ++ .read reader (.contains value) :: later =
        past ++ .read other .materialize :: future →
      ((empty : Shelf ε ν α).performAll scheduling past).collection? other = some collection →
      after.readings[((empty : Shelf ε ν α).performAll scheduling past).readings.length]? =
        some (.finished outcome) →
      (collection.sources.map fun source => listed source.cell) = lists.map .ok →
      outcome = .ok (.members (distinct lists.flatten))) ∧
    -- A test that has had its turn waits only for a source without an outcome that it may ask.
    (∀ waiting rest, begun.readings[number]? = some (.waiting waiting rest) →
      ∃ source ∈ collection.sources, source.admits value = true ∧
        begun.store.outcome? source.cell = none) ∧
    (∀ waiting rest, (after.perform scheduling (.turn (.resume number))).readings[number]? =
        some (.waiting waiting rest) →
      ∃ source ∈ collection.sources, source.admits value = true ∧
        (after.perform scheduling (.turn (.resume number))).store.outcome? source.cell = none) := by
  intro before begun after number asked
  have kept := kept_performAll (ε := ε) (ν := ν) (α := α) scheduling earlier
  obtain ⟨roles, traces, merges, booked⟩ :=
    kept.merges_performAll named scheduling (.read reader (.contains value) :: later)
  have within : (Query.work collection (.contains value) :
      Computation ε ν (Outcome (Finding α))).Within _ :=
    Computation.within_mapOk (Collection.contains_attends value) _
  obtain ⟨reading, at_number, follows⟩ := read_follows named scheduling (.contains value) later
  refine ⟨merges.descending, ?_, ?_, ?_, ?_⟩
  · intro outcome ended
    obtain rfl : .finished outcome = reading := Option.some.inj (ended.symm.trans at_number)
    obtain ⟨trace, result, run, rfl⟩ := follows.of_mapOk (Collection.contains_attends value)
    have answer : result = (firstIn (value == ·) asked).map Option.isSome :=
      merges.contained booked comes sound run
    refine ⟨?_, ?_, ?_⟩
    · intro lists all_ok
      rw [answer, all_ok, firstIn_map_ok, ← isSome_find?_flatten]
      rfl
    · intro lists error others failing
      rw [answer, failing, firstIn_append, firstIn_cons_error, ← isSome_find?_flatten]
      cases lists.flatten.find? (value == ·) <;> rfl
    · intro lists all_ok
      rw [answer, sound.isSome_firstIn all_ok, contains_distinct]
      rfl
  · intro past future other outcome lists same other_named ended all_ok
    have arrived : after = (empty : Shelf ε ν α).performAll scheduling
        (past ++ .read other .materialize :: future) := by
      rw [← same, performAll_append]
      rfl
    exact (materialized_in_history arrived other_named comes all_ok ended).2
  · intro waiting rest waits
    obtain ⟨_, ⟨source, member, admitted, rfl⟩, unknown⟩ :=
      read_waits named scheduling within waits
    exact ⟨source, member, admitted, unknown⟩
  · intro waiting rest waits
    obtain ⟨_, ⟨source, member, admitted, rfl⟩, unknown⟩ :=
      resume_waits within at_number follows waits
    exact ⟨source, member, admitted, unknown⟩

/-- A value is found behind a source that fails and rules it out and before another one that fails,
although the merged list has failed before. -/
theorem contains_from_sources_between :
    let failing (message : String) : Leaf String (Outcome (List String)) :=
      .finish (.error (.computation message))
    let slow : Leaf String (Outcome (List String)) := .pass "slow" (.finish (.ok ["a", "b"]))
    let registered : List (Priority × SourceSpec String (List String) String) :=
      [(.low, .computed (failing "low").work [] none),
        (.high, .computed (failing "high").work [] (some (· == "z"))),
        (.normal, .computed slow.work [] none)]
    let before := (empty : Shelf String (List String) String).performAll .onDemand
      [.build "all" registered, .read "all" .materialize, .turn (.openGate "slow")]
    before.readings[0]?.map (fun reading => reading matches .finished (.error _)) = some true ∧
      (before.perform .onDemand (.read "all" (.contains "b"))).readings[1]? =
        some (.finished (.ok (.truth true))) := by
  intro failing slow registered before
  let listed : Nat → Outcome (List String)
    | 0 => .error (.computation "low")
    | 1 => .error (.computation "high")
    | _ => .ok ["a", "b"]
  obtain ⟨-, answered, -⟩ := contains_from_sources .onDemand
    [.build "all" registered, .read "all" .materialize, .turn (.openGate "slow")] [] "all"
    ⟨[⟨.high, 1, some (· == "z")⟩, ⟨.normal, 2, none⟩, ⟨.low, 0, none⟩], 3⟩ "b" listed rfl
    (by
      simp only [Collection.ComesTo, List.forall_mem_cons]
      refine ⟨?_, ?_, ?_, nofun⟩
      all_goals decide +kernel)
    (by
      simp only [Collection.SoundFor, List.forall_mem_cons]
      exact ⟨fun _ _ => nofun, nofun, nofun, nofun⟩)
  obtain ⟨outcome, ended⟩ :=
    exists_outcome (before.perform .onDemand (.read "all" (.contains "b"))) 1 (by decide +kernel)
  refine ⟨by decide +kernel, ended.trans ?_⟩
  rw [(answered outcome ended).2.1 [["a", "b"]] (.computation "low") [] rfl]
  rfl

end Shelf

end Lazy

end SymbolResolver
