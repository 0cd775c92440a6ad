import SymbolResolver.Proofs.DeclaredNames

/-!
# Accessors

The accessor of a property is named after it, with the first letter in upper case. For most letters
this gives an identifier again. A few letters have no upper case of their own: theirs is another
letter with a combining mark behind it, and no identifier can hold the mark
(`Text.uppercase_continues_iff`). So a member property has accessors exactly if it is written as a
plain identifier that does not begin with one of these letters (`AccessorName.accessors_exact`).

An accessor stands beside its property, and what its getter is called decides what its setter is
called, although a property that is named like a question keeps its own name as its getter
(`AccessorName.accessors_beside_property`).
-/

namespace SymbolResolver

/-! ## Upper case -/

namespace Text

/-- Whether one of the ranges covers a whole interval. The comparisons are those that the kernel
evaluates at once, since whole tables are decided with them. -/
def spans : List CodeRange → Nat → Nat → Bool
  | [], _, _ => false
  | range :: ranges, first, last =>
    Nat.ble range.1 first &&
      (Nat.ble last range.2 || Nat.blt range.2 first && spans ranges first last)

theorem covered_of_spans {ranges : List CodeRange} {first last code : Nat}
    (spanned : spans ranges first last = true) (from_first : first ≤ code) (to_last : code ≤ last) :
    covered ranges code = true := by
  induction ranges with
  | nil => cases spanned
  | cons range ranges ih =>
      simp only [spans, Bool.and_eq_true, Bool.or_eq_true, Nat.ble_eq, Nat.blt_eq] at spanned
      obtain ⟨begins, ends | ⟨later, rest⟩⟩ := spanned
      · rw [covered, if_neg (by omega), if_pos (by omega)]
      · rw [covered, if_neg (by omega), if_neg (by omega)]
        exact ih rest

/-- Whether the counterparts of a stretch are all covered, as one interval or one by one. -/
def Stretch.landsIn (stretch : Stretch) (ranges : List CodeRange) (counterpart : Nat) : Bool :=
  spans ranges counterpart (counterpart + (stretch.last - stretch.first)) ||
    (List.range (stretch.last - stretch.first + 1)).all fun distance =>
      distance % stretch.step != 0 || covered ranges (counterpart + distance)

theorem Stretch.covered_of_landsIn {stretch : Stretch} {ranges : List CodeRange}
    {counterpart code : Nat} (lands : stretch.landsIn ranges counterpart = true)
    (inside : stretch.contains code = true) :
    covered ranges (counterpart + (code - stretch.first)) = true := by
  simp only [Stretch.contains, Bool.and_eq_true, decide_eq_true_eq, beq_iff_eq] at inside
  obtain ⟨⟨from_first, to_last⟩, aligned⟩ := inside
  rw [Stretch.landsIn, Bool.or_eq_true, List.all_eq_true] at lands
  rcases lands with spanned | each
  · exact covered_of_spans spanned (by omega) (by omega)
  · simpa [aligned] using each (code - stretch.first) (List.mem_range.mpr (by omega))

theorem alphabeticRanges_valid : ∀ range ∈ alphabeticRanges,
    (Nat.blt range.2 0xD800 || Nat.blt 0xDFFF range.1 && Nat.blt range.2 0x110000) = true := by
  decide +kernel

theorem isAlphabetic_ofNat {code : Nat} (inside : covered alphabeticRanges code = true) :
    isAlphabetic (Char.ofNat code) = true := by
  obtain ⟨range, member, within⟩ := exists_of_covered inside
  have valid : code.isValidChar := by
    have range_valid := alphabeticRanges_valid range member
    simp only [Bool.or_eq_true, Bool.and_eq_true, Nat.blt_eq] at range_valid
    unfold Nat.isValidChar
    omega
  have code_eq : (Char.ofNat code).toNat = code := by
    rw [Char.ofNat, dif_pos valid]
    rfl
  rw [isAlphabetic, code_eq]
  exact inside

/-- The single counterparts are letters. -/
theorem uppercaseStretches_alphabetic :
    ∀ entry ∈ uppercaseStretches, entry.1.landsIn alphabeticRanges entry.2 = true := by
  decide +kernel

/-- The letters that are in upper case another letter with a combining mark apart. -/
def decomposing : List Nat :=
  [0x1F0, 0x390, 0x3B0, 0x1E96, 0x1E97, 0x1E98, 0x1E99, 0x1F50, 0x1F52, 0x1F54, 0x1F56, 0x1FB6,
   0x1FB7, 0x1FC6, 0x1FC7, 0x1FD2, 0x1FD3, 0x1FD6, 0x1FD7, 0x1FE2, 0x1FE3, 0x1FE4, 0x1FE6, 0x1FE7,
   0x1FF6, 0x1FF7]

theorem expansion_continues_iff : ∀ entry ∈ uppercaseExpansions,
    (∀ code ∈ entry.2, Identifier.isContinuing (Char.ofNat code) = true) ↔
      entry.1 ∉ decomposing := by
  decide +kernel

theorem lookup_of_decomposing :
    ∀ code ∈ decomposing, (uppercaseExpansions.lookup code).isSome = true := by
  decide +kernel

/-- The upper case of a letter can continue an identifier unless it holds a combining mark. -/
theorem uppercase_continues_iff {char : Char} (initial : Identifier.isInitial char = true) :
    (∀ upper ∈ uppercase char, Identifier.isContinuing upper = true) ↔
      char.toNat ∉ decomposing := by
  rw [uppercase, uppercaseCodes, List.forall_mem_map]
  cases expanded : uppercaseExpansions.lookup char.toNat with
  | some codes =>
      obtain ⟨front, back, split, -⟩ := List.lookup_eq_some_iff.mp expanded
      exact expansion_continues_iff (char.toNat, codes) (by simp [split])
  | none =>
      -- Every decomposing letter is in the table, so this one has a single counterpart.
      have composed : char.toNat ∉ decomposing := by
        intro member
        have known := lookup_of_decomposing _ member
        rw [expanded] at known
        cases known
      refine iff_of_true ?_ composed
      cases found : uppercaseStretches.find? (·.1.contains char.toNat) with
      | none =>
          rw [List.forall_mem_singleton, Char.ofNat_toNat]
          exact Identifier.isContinuing_of_isInitial initial
      | some entry =>
          have contained : entry.1.contains char.toNat = true := by simpa using List.find?_some found
          have inside := Stretch.covered_of_landsIn
            (uppercaseStretches_alphabetic entry (List.mem_of_find?_eq_some found)) contained
          rw [List.forall_mem_singleton, Identifier.isContinuing, isAlphabetic_ofNat inside]
          rfl

end Text

/-! ## Identifiers of accessors -/

/-- The name begins with a letter that has no upper case of its own. -/
def SimpleName.Decomposes (name : SimpleName) : Prop :=
  ∃ first ∈ name.text.toList.head?, first.toNat ∈ Text.decomposing

instance (name : SimpleName) : Decidable name.Decomposes :=
  decidable_of_iff (name.text.toList.head?.any (Text.decomposing.contains ·.toNat) = true)
    (by simp [SimpleName.Decomposes, Option.any_eq_true])

namespace AccessorName

open Identifier

theorem questionRest?_eq_some {field rest : List Char} (asked : questionRest? field = some rest) :
    field = 'i' :: 's' :: rest := by
  unfold questionRest? at asked
  split at asked
  · rename_i next after found
    split at asked
    · cases asked
    · cases asked
      exact (List.isPrefixOf?_eq_some_iff_append_eq.mp found).symm
  · cases asked

/-- A field that is named like a question keeps its name as its getter. All other identifiers are the
capitalized field behind a word. -/
theorem identifier_cases (field : List Char) :
    (∃ rest, field = 'i' :: 's' :: rest ∧ identifier field .getter = field ∧
      identifier field .setter = ['s', 'e', 't'] ++ rest) ∨
    identifier field .getter = ['g', 'e', 't'] ++ capitalize field ∧
      identifier field .setter = ['s', 'e', 't'] ++ capitalize field := by
  cases asked : questionRest? field with
  | some rest =>
      exact .inl ⟨rest, questionRest?_eq_some asked, by simp only [identifier, asked],
        by simp only [identifier, asked]⟩
  | none => exact .inr ⟨by simp only [identifier, asked], by simp only [identifier, asked]⟩

theorem isPlainChars_append {word : List Char} (plain : isPlainChars word = true)
    (chars : List Char) : isPlainChars (word ++ chars) = chars.all isContinuing := by
  cases word with
  | nil => cases plain
  | cons first word =>
      rw [isPlainChars, Bool.and_eq_true] at plain
      rw [List.cons_append, isPlainChars, List.all_append, plain.1, plain.2, Bool.true_and,
        Bool.true_and]

theorem all_isContinuing_capitalize_iff {field : List Char} (plain : isPlainChars field = true) :
    (capitalize field).all isContinuing = true ↔
      ¬ ∃ first ∈ field.head?, first.toNat ∈ Text.decomposing := by
  cases field with
  | nil => cases plain
  | cons first rest =>
      rw [isPlainChars, Bool.and_eq_true] at plain
      rw [capitalize, List.all_append, plain.2, Bool.and_true, List.all_eq_true,
        Text.uppercase_continues_iff plain.1]
      simp

/-- An accessor has a plain identifier exactly if its field can be capitalized. -/
theorem isPlainChars_identifier_iff {field : List Char} (plain : isPlainChars field = true)
    (kind : AccessorKind) : isPlainChars (identifier field kind) = true ↔
      ¬ ∃ first ∈ field.head?, first.toNat ∈ Text.decomposing := by
  rcases identifier_cases field with ⟨rest, rfl, getter, setter⟩ | ⟨getter, setter⟩
  · -- A question keeps what follows `is`, and nothing is put in upper case.
    have composed : ¬ ∃ first ∈ ('i' :: 's' :: rest).head?, first.toNat ∈ Text.decomposing := by
      simp [Text.decomposing]
    refine iff_of_true ?_ composed
    cases kind with
    | getter => rwa [getter]
    | setter =>
        rw [isPlainChars, List.all_cons, Bool.and_eq_true, Bool.and_eq_true] at plain
        rw [setter, isPlainChars_append (by decide)]
        exact plain.2.2
  · cases kind with
    | getter =>
        rw [getter, isPlainChars_append (by decide), all_isContinuing_capitalize_iff plain]
    | setter =>
        rw [setter, isPlainChars_append (by decide), all_isContinuing_capitalize_iff plain]

theorem head_identifier (field : List Char) (kind : AccessorKind) :
    (identifier field kind).head? ≠ some backtick := by
  rcases identifier_cases field with ⟨rest, rfl, getter, setter⟩ | ⟨getter, setter⟩ <;>
    cases kind <;> simp [getter, setter, backtick]

theorem getter_ne_setter (field other : List Char) :
    identifier field .getter ≠ identifier other .setter := by
  rcases identifier_cases field with ⟨rest, rfl, getter, -⟩ | ⟨getter, -⟩ <;>
    rcases identifier_cases other with ⟨_, -, -, setter⟩ | ⟨-, setter⟩ <;>
    simp [getter, setter]

/-- Which getter a field has decides which setter it has. -/
theorem identifier_setter_congr {field other : List Char}
    (same : identifier field .getter = identifier other .getter) :
    identifier field .setter = identifier other .setter := by
  -- The getter of a question begins with `is` and every other with `get`.
  rcases identifier_cases field with ⟨rest, rfl, getter, setter⟩ | ⟨getter, setter⟩ <;>
    rcases identifier_cases other with ⟨rest', rfl, getter', setter'⟩ | ⟨getter', setter'⟩ <;>
    rw [getter, getter'] at same
  · rw [same]
  · simp at same
  · simp at same
  · rw [setter, setter', List.append_cancel_left same]

/-! ## Which accessors there are -/

theorem exists_name_iff {field : List Char} {kind : AccessorKind} :
    (∃ name : SimpleName, name.text = String.ofList (identifier field kind)) ↔
      isPlainChars (identifier field kind) = true := by
  constructor
  · rintro ⟨name, named⟩
    have unquoted : name.isEscaped = false := by
      simpa [SimpleName.isEscaped, named] using head_identifier field kind
    have plain := SimpleName.isPlain_of_not_isEscaped unquoted
    rwa [named, isPlain, String.toList_ofList] at plain
  · intro plain
    exact ⟨⟨String.ofList (identifier field kind), by
      rw [isPlain, String.toList_ofList, plain, Bool.true_or]⟩, rfl⟩

/-- The property is a member that some language sees, written as a plain identifier that begins with
a letter with an upper case of its own. -/
def Derivable (property : DeclaredName) : Prop :=
  (2 ≤ property.names.length ∧ property.languages.isEmpty = false) ∧
    property.shortName.isEscaped = false ∧ ¬ property.shortName.Decomposes

instance (property : DeclaredName) : Decidable (Derivable property) :=
  inferInstanceAs (Decidable (_ ∧ _))

theorem exists_derive_iff {property : DeclaredName} {kind : AccessorKind} :
    (∃ accessor, derive property kind = .ok accessor) ↔ Derivable property := by
  rw [Derivable, ← DeclaredName.exists_parent?_iff]
  constructor
  · rintro ⟨accessor, derived⟩
    obtain ⟨owner, name, encloses, plain, named, -⟩ := derive_eq_ok_iff.mp derived
    have field_plain := SimpleName.isPlain_of_not_isEscaped plain
    exact ⟨⟨owner, encloses⟩, plain,
      (isPlainChars_identifier_iff field_plain kind).mp (exists_name_iff.mp ⟨name, named⟩)⟩
  · rintro ⟨⟨owner, encloses⟩, plain, composed⟩
    have field_plain := SimpleName.isPlain_of_not_isEscaped plain
    obtain ⟨name, named⟩ :=
      exists_name_iff.mpr ((isPlainChars_identifier_iff field_plain kind).mpr composed)
    have seen : (LanguageSet.singleton .java).isEmpty = false := rfl
    obtain ⟨declared, made⟩ :=
      DeclaredName.exists_make owner.package (owner.append name).names_ne_nil seen
    exact ⟨⟨declared, kind, [.ofText property.qualified .kotlin]⟩,
      derive_eq_ok_iff.mpr ⟨owner, name, encloses, plain, named, made, rfl, rfl⟩⟩

/-- A property without an owner and an escaped property have no accessors, and neither has a plain
member whose first letter is in upper case another letter with a combining mark. All other members
have both. -/
theorem accessors_exact {property : DeclaredName} (obtained : property.Obtainable)
    (kind : AccessorKind) :
    (property.names.length < 2 → derive property kind = .error (.noOwner property.qualified)) ∧
    (2 ≤ property.names.length → property.shortName.isEscaped = true →
      derive property kind = .error (.escapedProperty property.shortName.text)) ∧
    (2 ≤ property.names.length → property.shortName.isEscaped = false →
      ((∃ accessor, derive property kind = .ok accessor) ↔ ¬ property.shortName.Decomposes) ∧
      (property.shortName.Decomposes → derive property kind = .error (.notIdentifier
        (String.ofList (identifier property.shortName.text.toList kind))))) := by
  have seen := obtained.coherent.visible
  refine ⟨fun short => derive_of_owner_none (if_pos short) kind, fun nested escaped => ?_,
    fun nested plain => ⟨?_, fun decomposes => ?_⟩⟩
  · obtain ⟨owner, encloses⟩ := DeclaredName.exists_parent?_iff.mpr ⟨nested, seen⟩
    exact derive_of_escaped encloses escaped kind
  · rw [exists_derive_iff, Derivable, and_iff_right ⟨nested, seen⟩, and_iff_right plain]
  · obtain ⟨owner, encloses⟩ := DeclaredName.exists_parent?_iff.mpr ⟨nested, seen⟩
    have unnamed : ¬ ∃ name : SimpleName,
        name.text = String.ofList (identifier property.shortName.text.toList kind) := by
      rw [exists_name_iff,
        isPlainChars_identifier_iff (SimpleName.isPlain_of_not_isEscaped plain) kind]
      exact not_not_intro decomposes
    rw [derive_of_plain encloses plain, SimpleName.ofText_eq_error unnamed]
    rfl

/-- An ordinary member has its getter and its setter. -/
theorem accessors_exact_title :
    ∃ property, DeclaredName.parse "com.app" "User.title" (.singleton .kotlin) = .ok property ∧
      2 ≤ property.names.length ∧ property.shortName.isEscaped = false ∧
      ∀ kind, ∃ accessor, derive property kind = .ok accessor := by
  obtain ⟨property, parsed, nested, plain, composed⟩ : ∃ property,
      DeclaredName.parse "com.app" "User.title" (.singleton .kotlin) = .ok property ∧
        2 ≤ property.names.length ∧ property.shortName.isEscaped = false ∧
        ¬ property.shortName.Decomposes := ⟨_, rfl, by decide, by decide, by decide⟩
  refine ⟨property, parsed, nested, plain, fun kind => ?_⟩
  obtain ⟨-, -, member⟩ := accessors_exact (.parse parsed) kind
  exact (member nested plain).1.mpr composed

/-- In upper case the letter is a `J` with a caron apart. -/
theorem accessors_missing :
    ∃ property, DeclaredName.parse "com.app" "User.\u01f0" (.singleton .kotlin) = .ok property ∧
      2 ≤ property.names.length ∧ property.shortName.isEscaped = false ∧
      ∀ kind, ¬ ∃ accessor, derive property kind = .ok accessor := by
  obtain ⟨property, parsed, nested, plain, missing⟩ : ∃ property,
      DeclaredName.parse "com.app" "User.\u01f0" (.singleton .kotlin) = .ok property ∧
        2 ≤ property.names.length ∧ property.shortName.isEscaped = false ∧
        ¬ Derivable property := ⟨_, rfl, by decide, by decide, by decide⟩
  exact ⟨property, parsed, nested, plain, fun kind => mt exists_derive_iff.mp missing⟩

/-! ## Where accessors stand -/

/-- The parts of an accessor: the owner of the property, and its own identifier. -/
theorem parts_of_derive {property : DeclaredName} {kind : AccessorKind} {accessor : AccessorName}
    (derived : derive property kind = .ok accessor) :
    accessor.declared.Coherent ∧ accessor.declared.package = property.package ∧
      accessor.declared.languages = .singleton .java ∧
      ∃ owner name, property.parent? = some owner ∧ owner.names = property.names.dropLast ∧
        accessor.declared.names = owner.names ++ [name] ∧
        name.text = String.ofList (identifier property.shortName.text.toList kind) := by
  obtain ⟨owner, name, encloses, -, named, made, -, -⟩ := derive_eq_ok_iff.mp derived
  obtain ⟨coherent, package_eq, names_eq, languages_eq⟩ := DeclaredName.make_eq_ok_iff.mp made
  obtain ⟨-, owner_package, owner_names, -⟩ := DeclaredName.make_eq_ok_iff.mp
    (DeclaredName.parent?_eq_some_iff.mp encloses).2
  exact ⟨coherent, package_eq.trans owner_package, languages_eq, owner, name, encloses, owner_names,
    names_eq, named⟩

/-- The segments of the owner of a property. -/
def ownerSegments (property : DeclaredName) : List String :=
  property.package.segments ++ property.names.dropLast.map SimpleName.text

theorem segments_of_derive {property : DeclaredName} {kind : AccessorKind} {accessor : AccessorName}
    (derived : derive property kind = .ok accessor) :
    accessor.declared.segments = ownerSegments property ++
      [String.ofList (identifier property.shortName.text.toList kind)] := by
  obtain ⟨coherent, package_eq, -, owner, name, -, owner_names, names_eq, named⟩ :=
    parts_of_derive derived
  rw [coherent.segments_eq, package_eq, names_eq, owner_names, List.map_append, List.map_singleton,
    named, ownerSegments, List.append_assoc]

/-- Accessors are declared alike exactly if they stand beside each other and have one identifier. -/
theorem declared_beq_iff {property other : DeclaredName} {kind otherKind : AccessorKind}
    {accessor otherAccessor : AccessorName} (derived : derive property kind = .ok accessor)
    (otherDerived : derive other otherKind = .ok otherAccessor) :
    (accessor.declared == otherAccessor.declared) = true ↔
      ownerSegments property = ownerSegments other ∧
        identifier property.shortName.text.toList kind =
          identifier other.shortName.text.toList otherKind := by
  obtain ⟨-, -, languages_eq, -⟩ := parts_of_derive derived
  obtain ⟨-, -, otherLanguages_eq, -⟩ := parts_of_derive otherDerived
  rw [DeclaredName.beq_def, languages_eq, otherLanguages_eq, beq_self_eq_true, Bool.and_true,
    beq_iff_eq]
  calc accessor.declared.qualified = otherAccessor.declared.qualified
    _ ↔ accessor.declared.segments = otherAccessor.declared.segments :=
        ⟨congrArg Text.segments, Text.eq_of_segments_eq⟩
    _ ↔ _ := by
        rw [segments_of_derive derived, segments_of_derive otherDerived,
          List.append_singleton_inj, String.ofList_inj]

/-- Only one reference is kept of a property, its own from Kotlin. -/
theorem sources_of_derive {property : DeclaredName} {kind : AccessorKind} {accessor : AccessorName}
    (coherent : property.Coherent) (package_obtained : property.package.Obtainable)
    (derived : derive property kind = .ok accessor) :
    accessor.sources = [⟨property.qualified, .kotlin⟩] := by
  obtain ⟨-, -, -, -, -, -, -, sources_eq⟩ := derive_eq_ok_iff.mp derived
  rw [sources_eq, ReferenceName.ofText, coherent.trim_qualified package_obtained]

theorem beq_iff_of_derive {property other : DeclaredName} {kind : AccessorKind}
    {accessor otherAccessor : AccessorName} (derived : derive property kind = .ok accessor)
    (otherDerived : derive other kind = .ok otherAccessor) :
    (accessor == otherAccessor) = true ↔
      (accessor.declared == otherAccessor.declared) = true ∧
        ReferenceName.ofText property.qualified .kotlin =
          ReferenceName.ofText other.qualified .kotlin := by
  obtain ⟨-, -, -, -, -, -, kind_eq, sources_eq⟩ := derive_eq_ok_iff.mp derived
  obtain ⟨-, -, -, -, -, -, otherKind_eq, otherSources_eq⟩ := derive_eq_ok_iff.mp otherDerived
  change (accessor.declared == otherAccessor.declared && accessor.kind == otherAccessor.kind &&
    accessor.sources == otherAccessor.sources) = true ↔ _
  simp [kind_eq, otherKind_eq, sources_eq, otherSources_eq]

/-- An accessor stands beside its property under a plain identifier, only Java sees it, and it keeps
the property as its source. A property has no accessor that both reads and writes it. Wherever two
properties have equal getters, both have setters, and these are equal too. -/
theorem accessors_beside_property :
    (∀ property kind accessor, property.Obtainable → property.package.Obtainable →
      derive property kind = .ok accessor →
        accessor.kind = kind ∧ accessor.declared.package = property.package ∧
        (∃ owner name, property.parent? = some owner ∧ Identifier.isPlain name.text = true ∧
          accessor.declared.names = owner.names ++ [name]) ∧
        (∀ language, accessor.declared.visibleFrom language = true ↔ language = .java) ∧
        accessor.sources = [⟨property.qualified, .kotlin⟩]) ∧
    (∀ property getter setter, derive property .getter = .ok getter →
      derive property .setter = .ok setter → (getter.declared == setter.declared) = false) ∧
    ∀ first second getter otherGetter, derive first .getter = .ok getter →
      derive second .getter = .ok otherGetter →
        ∃ setter otherSetter,
          derive first .setter = .ok setter ∧ derive second .setter = .ok otherSetter ∧
          ((getter.declared == otherGetter.declared) = true →
            (setter.declared == otherSetter.declared) = true) ∧
          ((getter == otherGetter) = true → (setter == otherSetter) = true) := by
  refine ⟨fun property kind accessor obtained package_obtained derived => ?_,
    fun property getter setter reads writes => ?_,
    fun first second getter otherGetter reads otherReads => ?_⟩
  · obtain ⟨-, package_eq, languages_eq, owner, name, encloses, -, names_eq, named⟩ :=
      parts_of_derive derived
    obtain ⟨-, -, -, -, -, -, kind_eq, -⟩ := derive_eq_ok_iff.mp derived
    have plain : isPlain name.text = true := by
      rw [named, isPlain, String.toList_ofList]
      exact exists_name_iff.mp ⟨name, named⟩
    have seen (language : Language) :
        accessor.declared.visibleFrom language = true ↔ language = .java := by
      rw [DeclaredName.visibleFrom, languages_eq]
      cases language <;> decide
    exact ⟨kind_eq, package_eq, ⟨owner, name, encloses, plain, names_eq⟩, seen,
      sources_of_derive obtained.coherent package_obtained derived⟩
  · rw [← Bool.not_eq_true, declared_beq_iff reads writes]
    rintro ⟨-, same⟩
    exact getter_ne_setter _ _ same
  · -- Whether there is an accessor does not depend on what it does.
    obtain ⟨setter, writes⟩ := exists_derive_iff.mpr (exists_derive_iff.mp ⟨getter, reads⟩)
    obtain ⟨otherSetter, otherWrites⟩ :=
      exists_derive_iff.mpr (exists_derive_iff.mp ⟨otherGetter, otherReads⟩)
    have declared_same (same : (getter.declared == otherGetter.declared) = true) :
        (setter.declared == otherSetter.declared) = true := by
      rw [declared_beq_iff reads otherReads] at same
      obtain ⟨owners_same, identifiers_same⟩ := same
      rw [declared_beq_iff writes otherWrites]
      exact ⟨owners_same, identifier_setter_congr identifiers_same⟩
    refine ⟨setter, otherSetter, writes, otherWrites, declared_same, fun same => ?_⟩
    rw [beq_iff_of_derive reads otherReads] at same
    obtain ⟨getters_same, sources_same⟩ := same
    rw [beq_iff_of_derive writes otherWrites]
    exact ⟨declared_same getters_same, sources_same⟩

/-- Two properties that differ in the case of their first letters share both accessors. -/
theorem accessors_beside_property_title :
    ∃ lower upper getter otherGetter setter otherSetter,
      DeclaredName.parse "com.app" "User.title" (.singleton .kotlin) = .ok lower ∧
      DeclaredName.parse "com.app" "User.Title" (.singleton .kotlin) = .ok upper ∧
      derive lower .getter = .ok getter ∧ derive upper .getter = .ok otherGetter ∧
      derive lower .setter = .ok setter ∧ derive upper .setter = .ok otherSetter ∧
      getter.sources = [⟨"com.app.User.title", .kotlin⟩] ∧
      (getter.declared == setter.declared) = false ∧
      (getter.declared == otherGetter.declared) = true ∧
      (setter.declared == otherSetter.declared) = true := by
  obtain ⟨lower, upper, lower_parsed, upper_parsed, lower_text, package_eq, lower_name, upper_name,
      owners_same, lower_derivable, upper_derivable⟩ : ∃ lower upper,
      DeclaredName.parse "com.app" "User.title" (.singleton .kotlin) = .ok lower ∧
      DeclaredName.parse "com.app" "User.Title" (.singleton .kotlin) = .ok upper ∧
      lower.qualified = "com.app.User.title" ∧ lower.package = .ofText "com.app" ∧
      lower.shortName.text = "title" ∧ upper.shortName.text = "Title" ∧
      ownerSegments lower = ownerSegments upper ∧ Derivable lower ∧ Derivable upper :=
    ⟨_, _, rfl, rfl, rfl, rfl, rfl, rfl, rfl, by decide, by decide⟩
  obtain ⟨getter, reads⟩ := exists_derive_iff.mpr lower_derivable
  obtain ⟨otherGetter, otherReads⟩ := exists_derive_iff.mpr upper_derivable
  have identifiers_same : identifier lower.shortName.text.toList .getter =
      identifier upper.shortName.text.toList .getter := by
    rw [lower_name, upper_name]
    decide +kernel
  have getters_same : (getter.declared == otherGetter.declared) = true :=
    (declared_beq_iff reads otherReads).mpr ⟨owners_same, identifiers_same⟩
  have package_obtained : lower.package.Obtainable := package_eq ▸ .ofText? (some "com.app")
  obtain ⟨beside, apart, alike⟩ := accessors_beside_property
  obtain ⟨setter, otherSetter, writes, otherWrites, setters_same, -⟩ :=
    alike lower upper getter otherGetter reads otherReads
  obtain ⟨-, -, -, -, sources_eq⟩ :=
    beside lower .getter getter (.parse lower_parsed) package_obtained reads
  exact ⟨lower, upper, getter, otherGetter, setter, otherSetter, lower_parsed, upper_parsed, reads,
    otherReads, writes, otherWrites, lower_text ▸ sources_eq,
    apart lower getter setter reads writes, getters_same, setters_same getters_same⟩

end AccessorName

end SymbolResolver
