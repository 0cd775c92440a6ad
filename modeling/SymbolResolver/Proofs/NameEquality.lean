import SymbolResolver.Name.Basic

/-!
# Equality of names

Names of one kind are equal when everything their kind compares is; across the kinds the reference
has to denote the declaration. The relation is reflexive and symmetric, and equal names hash alike,
but it is not transitive: a declaration that several languages see equals a reference from each of
them, and a reference equals every declaration of its text that its language sees.
`equality_contract` says that nothing else breaks transitivity.
-/

namespace SymbolResolver.Name

/-- Both are declarations or both are references. -/
def SameKind (left right : Name) : Prop :=
  left.asDeclared?.isSome = right.asDeclared?.isSome

instance (left right : Name) : Decidable (SameKind left right) :=
  inferInstanceAs (Decidable (_ = _))

@[simp] theorem sameKind_declared (left right : DeclaredName) :
    SameKind (declared left) (declared right) := rfl

@[simp] theorem sameKind_reference (left right : ReferenceName) :
    SameKind (reference left) (reference right) := rfl

@[simp] theorem not_sameKind_declared (left : DeclaredName) (right : ReferenceName) :
    ¬ SameKind (declared left) (reference right) := by
  simp [SameKind, asDeclared?]

@[simp] theorem not_sameKind_reference (left : ReferenceName) (right : DeclaredName) :
    ¬ SameKind (reference left) (declared right) := by
  simp [SameKind, asDeclared?]

/-! ## The comparison, kind by kind -/

@[simp] theorem declared_beq_declared (left right : DeclaredName) :
    (declared left == declared right) = true ↔
      left.qualified = right.qualified ∧ left.languages = right.languages := by
  change (left == right) = true ↔ _
  simp [DeclaredName.beq_def]

@[simp] theorem reference_beq_reference (left right : ReferenceName) :
    (reference left == reference right) = true ↔
      left.text = right.text ∧ left.language = right.language := by
  change (left == right) = true ↔ _
  rw [beq_iff_eq, ReferenceName.mk.injEq]

@[simp] theorem declared_beq_reference (left : DeclaredName) (right : ReferenceName) :
    (declared left == reference right) = true ↔
      left.qualified = right.text ∧ left.visibleFrom right.language = true := by
  change left.denotedBy right = true ↔ _
  simp [DeclaredName.denotedBy]

/-- The mixed comparison asks the same question from either side. -/
theorem reference_beq_declared (left : ReferenceName) (right : DeclaredName) :
    (reference left == declared right) = (declared right == reference left) := rfl

/-! ## What the comparison keeps to -/

theorem beq_refl (name : Name) : (name == name) = true := by
  cases name <;> simp

theorem beq_symm (left right : Name) : (left == right) = (right == left) := by
  cases left with
  | declared left =>
      cases right with
      | reference right => exact (reference_beq_declared right left).symm
      | declared right =>
          rw [Bool.eq_iff_iff, declared_beq_declared, declared_beq_declared,
            @eq_comm _ left.qualified, @eq_comm _ left.languages]
  | reference left =>
      cases right with
      | declared right => exact reference_beq_declared left right
      | reference right =>
          rw [Bool.eq_iff_iff, reference_beq_reference, reference_beq_reference,
            @eq_comm _ left.text, @eq_comm _ left.language]

theorem text_eq_of_beq {left right : Name} (same : (left == right) = true) :
    left.text = right.text := by
  cases left with
  | declared left =>
      cases right with
      | declared right => exact ((declared_beq_declared left right).1 same).1
      | reference right => exact ((declared_beq_reference left right).1 same).1
  | reference left =>
      cases right with
      | declared right =>
          rw [reference_beq_declared] at same
          exact ((declared_beq_reference right left).1 same).1.symm
      | reference right => exact ((reference_beq_reference left right).1 same).1

/-- Within a kind the comparison looks at exactly what the kind contributes to its own hash. -/
theorem beq_iff_kindKey {left right : Name} (alike : SameKind left right) :
    (left == right) = true ↔ left.kindKey = right.kindKey := by
  cases left <;> cases right <;> simp_all [kindKey]

/-- Names of one kind that are equal can stand for each other in every comparison. -/
theorem beq_congr_of_sameKind {left right : Name} (alike : SameKind left right)
    (same : (left == right) = true) (other : Name) : (left == other) = (right == other) := by
  rw [Bool.eq_iff_iff]
  cases left with
  | declared left =>
      cases right with
      | reference right => exact absurd alike (not_sameKind_declared left right)
      | declared right =>
          obtain ⟨texts, languages⟩ := (declared_beq_declared left right).1 same
          cases other <;> simp [texts, languages, DeclaredName.visibleFrom]
  | reference left =>
      cases right with
      | declared right => exact absurd alike (not_sameKind_reference left right)
      | reference right =>
          obtain ⟨texts, language⟩ := (reference_beq_reference left right).1 same
          cases other <;> simp [texts, language, reference_beq_declared]

/-- Equality passes through a middle name of the kind of either end. -/
theorem beq_trans_of_sameKind {first second third : Name} (left : (first == second) = true)
    (right : (second == third) = true) (alike : SameKind first second ∨ SameKind second third) :
    (first == third) = true := by
  rcases alike with alike | alike
  · rw [beq_congr_of_sameKind alike left third]
    exact right
  · rw [beq_symm, ← beq_congr_of_sameKind alike right first, beq_symm]
    exact left

/-- A middle name of neither end's kind has both ends of the other kind. -/
theorem sameKind_of_not {first second third : Name} (left : ¬ SameKind first second)
    (right : ¬ SameKind second third) : SameKind first third := by
  cases first <;> cases second <;> cases third <;> simp_all

/-! ## Declared names as elements -/

instance : EquivBEq DeclaredName where
  rfl {name} := beq_refl (declared name)
  symm {left right} same := (beq_symm (declared left) (declared right)).symm.trans same
  trans {first second third} left right := by
    have left_names : (declared first == declared second) = true := left
    have right_names : (declared second == declared third) = true := right
    exact beq_trans_of_sameKind left_names right_names (.inl (sameKind_declared first second))

/-- Declared names are hashed by what their comparison looks at. -/
instance : Hashable DeclaredName where
  hash name := hash (name.qualified, name.languages.java, name.languages.kotlin)

instance : LawfulHashable DeclaredName where
  hash_eq left right same := by
    obtain ⟨texts, languages⟩ := (declared_beq_declared left right).mp same
    change hash (left.qualified, left.languages.java, left.languages.kotlin) =
      hash (right.qualified, right.languages.java, right.languages.kotlin)
    rw [texts, languages]

/-! ## Where equality is not transitive -/

/-- A reference between two declarations joins names that their languages tell apart. -/
theorem declarations_apart_iff (first third : DeclaredName) (second : ReferenceName)
    (left : (declared first == reference second) = true)
    (right : (reference second == declared third) = true) :
    ¬ (declared first == declared third) = true ↔ first.languages ≠ third.languages := by
  rw [reference_beq_declared, declared_beq_reference] at right
  rw [declared_beq_reference] at left
  simp [left.1, right.1]

/-- A declaration between two references joins names that their languages tell apart. -/
theorem references_apart_iff (first third : ReferenceName) (second : DeclaredName)
    (left : (reference first == declared second) = true)
    (right : (declared second == reference third) = true) :
    ¬ (reference first == reference third) = true ↔ first.language ≠ third.language := by
  rw [reference_beq_declared, declared_beq_reference] at left
  rw [declared_beq_reference] at right
  simp [← left.1, right.1]

/-- The comparison of names is reflexive, symmetric and the one that declarations and references
make directly, equal names hash alike, and equality is lost along two equations only between ends of
one kind around a name of the other, which their languages decide; both cases occur. -/
theorem equality_contract :
    (∀ name : Name, (name == name) = true) ∧
    (∀ left right : Name, (left == right) = (right == left)) ∧
    (∀ (left : DeclaredName) (right : ReferenceName),
      left.denotedBy right = (declared left == reference right) ∧
      right.denotes left = (reference right == declared left)) ∧
    (∀ left right : Name, (left == right) = true → left.hashKey = right.hashKey) ∧
    (∀ left right : Name, SameKind left right →
      ((left == right) = true ↔ left.kindKey = right.kindKey)) ∧
    (∀ first second third : Name, (first == second) = true → (second == third) = true →
      (first == third) = true ∨ SameKind first third ∧ ¬ SameKind first second) ∧
    (∀ (first third : DeclaredName) (second : ReferenceName),
      (declared first == reference second) = true → (reference second == declared third) = true →
      (¬ (declared first == declared third) = true ↔ first.languages ≠ third.languages)) ∧
    (∀ (first third : ReferenceName) (second : DeclaredName),
      (reference first == declared second) = true → (declared second == reference third) = true →
      (¬ (reference first == reference third) = true ↔ first.language ≠ third.language)) ∧
    (∃ narrow wide : DeclaredName,
      DeclaredName.parse "p" "A" (.singleton .kotlin) = .ok narrow ∧
      DeclaredName.parse "p" "A" .all = .ok wide ∧
      (declared narrow == reference (.ofText "p.A" .kotlin)) = true ∧
      (reference (.ofText "p.A" .kotlin) == declared wide) = true ∧
      (declared narrow == declared wide) = false ∧
      (reference (.ofText "p.A" .java) == declared wide) = true ∧
      (declared wide == reference (.ofText "p.A" .kotlin)) = true ∧
      (reference (.ofText "p.A" .java) == reference (.ofText "p.A" .kotlin)) = false) ∧
    (∀ left right : DeclaredName, (declared left == declared right) = true →
      ∀ use : ReferenceName,
        (declared left == reference use) = (declared right == reference use)) ∧
    (∀ left right : ReferenceName, (reference left == reference right) = true →
      ∀ name : DeclaredName,
        (reference left == declared name) = (reference right == declared name)) := by
  refine ⟨beq_refl, beq_symm, fun left right => ⟨rfl, rfl⟩, fun _ _ => text_eq_of_beq,
    fun _ _ => beq_iff_kindKey, fun first second third left right => ?_, declarations_apart_iff,
    references_apart_iff, ?_,
    fun left right same use => beq_congr_of_sameKind (sameKind_declared left right) same _,
    fun left right same name => beq_congr_of_sameKind (sameKind_reference left right) same _⟩
  · by_cases alike : SameKind first second ∨ SameKind second third
    · exact .inl (beq_trans_of_sameKind left right alike)
    · obtain ⟨leftKind, rightKind⟩ := not_or.1 alike
      exact .inr ⟨sameKind_of_not leftKind rightKind, leftKind⟩
  · exact ⟨_, _, rfl, rfl, by decide, by decide, by decide, by decide, by decide, by decide⟩

end SymbolResolver.Name
