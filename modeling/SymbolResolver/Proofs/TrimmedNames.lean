import SymbolResolver.Proofs.Codecs
import SymbolResolver.Proofs.Segments

/-!
# Names without blanks around them

A name that is written as JSON is read back without the blanks around it, so it survives exactly if
there are none (`ReferenceName.survives_iff`, `PackageName.survives_iff`). Names are made trimmed,
but some of the steps that make one name from another cut a text or put another text in front, and
leave a blank at an end if there is one next to the cut. `trail_survives_iff` tells exactly which
steps do so. No step does if no blank stands next to a separator (`Text.Tidy`).
-/

namespace SymbolResolver

open Json

namespace Text

/-! ## Blanks at the ends -/

def startsBlank (chars : List Char) : Bool := chars.head?.any isBlank

def endsBlank (chars : List Char) : Bool := chars.getLast?.any isBlank

theorem startsBlank_dropWhile (chars : List Char) :
    startsBlank (chars.dropWhile isBlank) = false := by
  induction chars with
  | nil => rfl
  | cons char chars ih =>
      by_cases blank : isBlank char = true
      · rw [List.dropWhile_cons_of_pos blank]
        exact ih
      · rw [List.dropWhile_cons_of_neg blank]
        simpa [startsBlank] using blank

theorem dropWhile_of_not_startsBlank {chars : List Char} (solid : startsBlank chars = false) :
    chars.dropWhile isBlank = chars := by
  cases chars with
  | nil => rfl
  | cons char chars =>
      have not_blank : ¬ isBlank char = true := by simpa [startsBlank] using solid
      rw [List.dropWhile_cons_of_neg not_blank]

theorem startsBlank_reverse (chars : List Char) : startsBlank chars.reverse = endsBlank chars := by
  rw [startsBlank, List.head?_reverse, endsBlank]

theorem trimChars_eq_iff {chars : List Char} :
    trimChars chars = chars ↔ startsBlank chars = false ∧ endsBlank chars = false := by
  constructor
  · intro trimmed
    have front : startsBlank (trimChars chars) = false := by
      have kept := dropWhile_dropEndWhile (dropWhile_dropWhile isBlank chars)
      rw [trimChars, ← kept]
      exact startsBlank_dropWhile _
    have back : endsBlank (trimChars chars) = false := by
      rw [← startsBlank_reverse, trimChars, dropEndWhile, List.reverse_reverse]
      exact startsBlank_dropWhile _
    rw [trimmed] at front back
    exact ⟨front, back⟩
  · rintro ⟨front, back⟩
    rw [← startsBlank_reverse] at back
    rw [trimChars, dropWhile_of_not_startsBlank front, dropEndWhile,
      dropWhile_of_not_startsBlank back, List.reverse_reverse]

/-- A text has no blanks around it exactly if neither its first nor its last character is blank. -/
theorem trim_eq_iff {text : String} :
    trim text = text ↔ startsBlank text.toList = false ∧ endsBlank text.toList = false := by
  rw [← trimChars_eq_iff, ← String.toList_inj, toList_trim]

@[simp] theorem startsBlank_separated (front back : List Char) :
    startsBlank (front ++ separator :: back) = startsBlank front := by
  cases front with
  | nil => exact (by decide : isBlank separator = false)
  | cons char front => rfl

@[simp] theorem endsBlank_separated (front back : List Char) :
    endsBlank (front ++ separator :: back) = endsBlank back := by
  cases back with
  | nil =>
      simp only [endsBlank, List.getLast?_append, List.getLast?_singleton, Option.some_or]
      exact (by decide : isBlank separator = false)
  | cons char back =>
      have last := List.getLast?_eq_some_getLast (List.cons_ne_nil char back)
      rw [endsBlank, List.getLast?_append, List.getLast?_cons_cons, last, Option.some_or, endsBlank,
        last]

/-! ## Cuts -/

theorem cutFirst_eq {chars rest : List Char} (cut : (cutFirst chars).2 = some rest) :
    ∃ first, chars = first ++ separator :: rest := by
  induction chars with
  | nil => cases cut
  | cons char chars ih =>
      by_cases same : char = separator
      · rw [cutFirst, if_pos same] at cut
        cases cut
        exact ⟨[], by rw [same, List.nil_append]⟩
      · rw [cutFirst, if_neg same] at cut
        obtain ⟨first, split⟩ := ih cut
        exact ⟨char :: first, by rw [split, List.cons_append]⟩

theorem cutLast_uncut {chars : List Char} (uncut : (cutLast chars).1 = none) :
    (cutLast chars).2 = chars := by
  obtain ⟨single, last⟩ := cutLast_spec chars
  obtain ⟨first, rest, split⟩ := List.exists_cons_of_ne_nil (pieces_ne_nil chars)
  rw [split, List.tail_cons] at single
  obtain rfl : rest = [] := single.mp uncut
  rw [split, List.getLast?_singleton, Option.some.injEq] at last
  rw [← last, ← glue_singleton first, ← split, glue_pieces]

theorem cutLast_eq {chars stem : List Char} (cut : (cutLast chars).1 = some stem) :
    chars = stem ++ separator :: (cutLast chars).2 := by
  induction chars generalizing stem with
  | nil => cases cut
  | cons char chars ih =>
      cases below : cutLast chars with
      | mk before last =>
          rw [below] at ih
          cases before with
          | some before =>
              simp only [cutLast, below] at cut ⊢
              cases cut
              rw [List.cons_append, ← ih rfl]
          | none =>
              by_cases same : char = separator
              · have uncut := cutLast_uncut (congrArg Prod.fst below)
                rw [below] at uncut
                simp only [cutLast, below, same, if_true] at cut ⊢
                cases cut
                exact congrArg (separator :: ·) uncut.symm
              · simp [cutLast, below, same] at cut

/-- A text ends as its last segment does. -/
theorem endsBlank_lastSegment (text : String) :
    endsBlank (lastSegment text).toList = endsBlank text.toList := by
  rw [lastSegment, String.toList_ofList]
  cases cut : (cutLast text.toList).1 with
  | none => rw [cutLast_uncut cut]
  | some stem =>
      have ends := endsBlank_separated stem (cutLast text.toList).2
      rw [← cutLast_eq cut] at ends
      exact ends.symm

theorem startsBlank_appendPiece (stem piece : List Char) :
    startsBlank (appendPiece stem piece) = startsBlank (if stem = [] then piece else stem) := by
  unfold appendPiece
  split
  · rfl
  · exact startsBlank_separated stem piece

theorem endsBlank_appendPiece (stem piece : List Char) :
    endsBlank (appendPiece stem piece) = endsBlank piece := by
  unfold appendPiece
  split
  · rfl
  · exact endsBlank_separated stem piece

theorem trim_appendSegments_iff {text part : String} :
    trim (appendSegments text [part]) = appendSegments text [part] ↔
      startsBlank (if text = "" then part else text).toList = false ∧
        endsBlank part.toList = false := by
  rw [trim_eq_iff, toList_appendSegments, List.map_singleton, appendPieces_cons, appendPieces_nil,
    startsBlank_appendPiece, endsBlank_appendPiece]
  by_cases absent : text = "" <;> simp [absent]

/-- What is added to a text covers a blank at its end, but not one at its beginning. -/
theorem trim_appendSegments {text part : String} (solid : startsBlank text.toList = false)
    (part_trimmed : trim part = part) :
    trim (appendSegments text [part]) = appendSegments text [part] := by
  obtain ⟨front, back⟩ := trim_eq_iff.mp part_trimmed
  refine trim_appendSegments_iff.mpr ⟨?_, back⟩
  split
  · exact front
  · exact solid

/-- What stands before the last separator begins as the whole text does. -/
theorem trim_beforeLast?_iff {text stem : String} (trimmed : trim text = text)
    (cut : beforeLast? text = some stem) : trim stem = stem ↔ endsBlank stem.toList = false := by
  obtain ⟨chars, cut_chars, rfl⟩ := Option.map_eq_some_iff.mp cut
  have front := (trim_eq_iff.mp trimmed).1
  rw [cutLast_eq cut_chars, startsBlank_separated] at front
  rw [trim_eq_iff, String.toList_ofList]
  exact and_iff_right front

/-! ## Blanks next to separators -/

/-- No blank stands at an end of a text or next to a separator. -/
def Tidy (text : String) : Prop :=
  ∀ piece ∈ pieces text.toList, startsBlank piece = false ∧ endsBlank piece = false

instance (text : String) : Decidable (Tidy text) :=
  inferInstanceAs (Decidable (∀ piece ∈ pieces text.toList,
    startsBlank piece = false ∧ endsBlank piece = false))

theorem pieces_separated (front back : List Char) :
    pieces (front ++ separator :: back) = pieces front ++ pieces back := by
  induction front with
  | nil => simp
  | cons char front ih =>
      by_cases same : char = separator
      · rw [same, List.cons_append, pieces_separator, pieces_separator, ih, List.cons_append]
      · obtain ⟨first, rest, split⟩ := List.exists_cons_of_ne_nil (pieces_ne_nil front)
        rw [split, List.cons_append] at ih
        rw [List.cons_append, pieces_cons_of_ne same ih, pieces_cons_of_ne same split,
          List.cons_append]

theorem tidy_separated_iff {front back : List Char} :
    Tidy (String.ofList (front ++ separator :: back)) ↔
      Tidy (String.ofList front) ∧ Tidy (String.ofList back) := by
  simp only [Tidy, String.toList_ofList, pieces_separated, List.forall_mem_append]

theorem tidy_appendPiece {stem piece : List Char} (stem_tidy : Tidy (String.ofList stem))
    (piece_tidy : Tidy (String.ofList piece)) : Tidy (String.ofList (appendPiece stem piece)) := by
  unfold appendPiece
  split
  · exact piece_tidy
  · exact tidy_separated_iff.mpr ⟨stem_tidy, piece_tidy⟩

theorem tidy_appendSegments {stem : String} (stem_tidy : Tidy stem) {parts : List String}
    (parts_tidy : ∀ part ∈ parts, Tidy part) : Tidy (appendSegments stem parts) := by
  induction parts generalizing stem with
  | nil => rwa [appendSegments_nil]
  | cons part parts ih =>
      rw [List.forall_mem_cons] at parts_tidy
      have first_tidy : Tidy (String.ofList (appendPiece stem.toList part.toList)) :=
        tidy_appendPiece (String.ofList_toList.symm ▸ stem_tidy)
          (String.ofList_toList.symm ▸ parts_tidy.1)
      have rest_tidy := ih first_tidy parts_tidy.2
      simpa [appendSegments] using rest_tidy

theorem ends_glue {parts : List (List Char)}
    (solid : ∀ piece ∈ parts, startsBlank piece = false ∧ endsBlank piece = false) :
    startsBlank (glue parts) = false ∧ endsBlank (glue parts) = false := by
  induction parts with
  | nil => exact ⟨rfl, rfl⟩
  | cons piece parts ih =>
      rw [List.forall_mem_cons] at solid
      by_cases alone : parts = []
      · rw [alone, glue_singleton]
        exact solid.1
      · rw [glue_cons alone, startsBlank_separated, endsBlank_separated]
        exact ⟨solid.1.1, (ih solid.2).2⟩

theorem Tidy.trim_eq {text : String} (tidy : Tidy text) : trim text = text := by
  rw [trim_eq_iff, ← glue_pieces text.toList]
  exact ends_glue tidy

theorem Tidy.beforeLast? {text stem : String} (tidy : Tidy text)
    (cut : beforeLast? text = some stem) : Tidy stem := by
  obtain ⟨chars, cut_chars, rfl⟩ := Option.map_eq_some_iff.mp cut
  rw [← String.ofList_toList (s := text), cutLast_eq cut_chars] at tidy
  exact (tidy_separated_iff.mp tidy).1

theorem Tidy.afterFirst? {text rest : String} (tidy : Tidy text)
    (cut : afterFirst? text = some rest) : Tidy rest := by
  obtain ⟨chars, cut_chars, rfl⟩ := Option.map_eq_some_iff.mp cut
  obtain ⟨first, split⟩ := cutFirst_eq cut_chars
  rw [← String.ofList_toList (s := text), split] at tidy
  exact (tidy_separated_iff.mp tidy).2

/-! ## Identifiers -/

theorem exists_of_covered {ranges : List CodeRange} {code : Nat}
    (inside : covered ranges code = true) : ∃ range ∈ ranges, range.1 ≤ code ∧ code ≤ range.2 := by
  induction ranges with
  | nil => cases inside
  | cons range ranges ih =>
      rw [covered] at inside
      split at inside
      · cases inside
      · split at inside
        · exact ⟨range, List.mem_cons_self, by omega, by omega⟩
        · obtain ⟨found, member, holds⟩ := ih inside
          exact ⟨found, List.mem_cons_of_mem _ member, holds⟩

/-- Ranges that do not meet have no code point in common. -/
theorem covered_apart {ranges others : List CodeRange}
    (apart : (ranges.all fun range => others.all fun other =>
      Nat.blt range.2 other.1 || Nat.blt other.2 range.1) = true)
    {code : Nat} (inside : covered ranges code = true) : covered others code = false := by
  rw [← Bool.not_eq_true]
  intro inside_others
  obtain ⟨range, member, within⟩ := exists_of_covered inside
  obtain ⟨other, other_member, other_within⟩ := exists_of_covered inside_others
  have separate : range.2 < other.1 ∨ other.2 < range.1 := by
    simp only [List.all_eq_true, Bool.or_eq_true, Nat.blt_eq] at apart
    exact apart range member other other_member
  omega

end Text

namespace Identifier

theorem not_blank_of_isContinuing {char : Char} (continuing : isContinuing char = true) :
    Text.isBlank char = false := by
  rw [isContinuing, Bool.or_eq_true, Bool.or_eq_true] at continuing
  rcases continuing with (alphabetic | numeric) | underscore
  · exact Text.covered_apart (by decide +kernel) alphabetic
  · exact Text.covered_apart (by decide +kernel) numeric
  · rw [eq_of_beq underscore]
    decide

theorem separator_not_isContinuing : isContinuing Text.separator = false := by rfl

end Identifier

namespace Text

theorem pieces_of_not_mem {chars : List Char} (single : separator ∉ chars) :
    pieces chars = [chars] := by
  induction chars with
  | nil => rfl
  | cons char chars ih =>
      rw [List.mem_cons, not_or] at single
      exact pieces_cons_of_ne (Ne.symm single.1) (ih single.2)

end Text

/-- An identifier holds no separator, and it neither begins nor ends with a blank. -/
theorem SimpleName.shape (name : SimpleName) : Text.separator ∉ name.text.toList ∧
    Text.startsBlank name.text.toList = false ∧ Text.endsBlank name.text.toList = false := by
  have valid := name.valid
  rw [Bool.or_eq_true] at valid
  rcases valid with plain | escaped
  · have continuing := Identifier.all_isContinuing plain
    refine ⟨Identifier.not_mem_of_isPlain plain Identifier.separator_not_isContinuing, ?_, ?_⟩
    · rw [Text.startsBlank, Option.any_eq_false]
      intro char first
      simp [Identifier.not_blank_of_isContinuing (continuing char (List.mem_of_head? first))]
    · rw [Text.endsBlank, Option.any_eq_false]
      intro char last
      simp [Identifier.not_blank_of_isContinuing (continuing char (List.mem_of_getLast? last))]
  · obtain ⟨bare, quoted, -, harmless⟩ := Identifier.isEscaped_iff.mp escaped
    have solid : Text.separator ∉ bare.toList := fun member => harmless _ member (by decide)
    rw [quoted, Identifier.toList_quoted]
    refine ⟨?_, (by decide : Text.isBlank Identifier.backtick = false), ?_⟩
    · simp only [List.cons_append, List.mem_cons, List.mem_append, List.not_mem_nil, or_false,
        not_or]
      exact ⟨by decide, solid, by decide⟩
    · rw [Text.endsBlank, List.getLast?_concat]
      decide

/-- An identifier neither begins nor ends with a blank, and it is one segment. -/
theorem SimpleName.tidy_text (name : SimpleName) : Text.Tidy name.text := by
  rw [Text.Tidy, Text.pieces_of_not_mem name.shape.1, List.forall_mem_singleton]
  exact name.shape.2

/-! ## Trails -/

section Trails

variable {α ε : Type} (apply : α → ε → Option α)

/-- The values that edits make one after the other, the first one included. An edit that gives
nothing is the last one. -/
def trail : α → List ε → List α
  | value, [] => [value]
  | value, edit :: edits =>
    value :: match apply value edit with
      | some next => trail next edits
      | none => []

/-- Every edit has a property of the value that it is applied to. -/
def Along (Careful : α → ε → Prop) : α → List ε → Prop
  | _, [] => True
  | value, edit :: edits =>
    Careful value edit ∧ ∀ next, apply value edit = some next → Along Careful next edits

variable {apply} {Good : α → Prop} {Careful : α → ε → Prop} {Fine : ε → Prop}

/-- All values of a trail are good exactly if all edits are careful, if this is so for one edit. -/
theorem trail_iff
    (step : ∀ value edit next, Good value → apply value edit = some next →
      (Good next ↔ Careful value edit))
    (stuck : ∀ value edit, apply value edit = none → Careful value edit)
    {value : α} (good : Good value) (edits : List ε) :
    (∀ made ∈ trail apply value edits, Good made) ↔ Along apply Careful value edits := by
  induction edits generalizing value with
  | nil => simpa [trail, Along] using good
  | cons edit edits ih =>
      rw [trail, List.forall_mem_cons, and_iff_right good, Along]
      cases applied : apply value edit with
      | none => simpa using stuck value edit applied
      | some next =>
          have exact_step := step value edit next good applied
          constructor
          · intro later_good
            have next_good : Good next := by
              cases edits <;> exact later_good next List.mem_cons_self
            refine ⟨exact_step.mp next_good, ?_⟩
            rintro _ ⟨rfl⟩
            exact (ih next_good).mp later_good
          · rintro ⟨careful, later_careful⟩
            exact (ih (exact_step.mpr careful)).mpr (later_careful next rfl)

/-- What one edit preserves, a trail preserves. -/
theorem trail_preserves
    (step : ∀ value edit next, Good value → Fine edit → apply value edit = some next → Good next)
    {value : α} (good : Good value) {edits : List ε} (fine : ∀ edit ∈ edits, Fine edit) :
    ∀ made ∈ trail apply value edits, Good made := by
  induction edits generalizing value with
  | nil => simpa [trail] using good
  | cons edit edits ih =>
      rw [List.forall_mem_cons] at fine
      rw [trail, List.forall_mem_cons]
      refine ⟨good, ?_⟩
      cases applied : apply value edit with
      | none => nofun
      | some next => exact ih (step value edit next good fine.1 applied) fine.2

end Trails

/-! ## References -/

/-- A reference is read back as it was written. -/
def ReferenceName.Survives (reference : ReferenceName) : Prop :=
  readText ReferenceName.read reference.toDocument.compact = .ok reference

/-- A step from one reference to the next. -/
inductive ReferenceEdit
  | append (name : SimpleName)
  | parent
  | replaceFirst (replacement : String)
  | resolved (text : String)
  | withLanguage (language : Language)

namespace ReferenceEdit

def apply (reference : ReferenceName) : ReferenceEdit → Option ReferenceName
  | append name => some (reference.append name)
  | parent => reference.parent?
  | replaceFirst replacement => some (reference.replaceFirstSegment replacement)
  | resolved text => some (reference.resolved text)
  | withLanguage language => some (reference.withLanguage language)

/-- A cut does not leave a blank at the end, and a replacement does not bring one to an end. -/
def Careful (reference : ReferenceName) : ReferenceEdit → Prop
  | parent => ∀ stem, Text.beforeLast? reference.text = some stem →
      Text.endsBlank stem.toList = false
  | replaceFirst replacement =>
    match Text.afterFirst? reference.text with
    | none => Text.trim replacement = replacement
    | some rest =>
      Text.startsBlank (if replacement = "" then rest else replacement).toList = false
  | append _ | resolved _ | withLanguage _ => True

/-- No blank stands at the ends of the segments that a step brings in. -/
def Tidy : ReferenceEdit → Prop
  | replaceFirst replacement => Text.Tidy replacement
  | resolved text => Text.Tidy (Text.trim text)
  | append _ | parent | withLanguage _ => True

end ReferenceEdit

namespace ReferenceName

/-- A reference survives exactly if there are no blanks around it. -/
theorem survives_iff {reference : ReferenceName} :
    reference.Survives ↔ Text.trim reference.text = reference.text := by
  rw [Survives, (fits.written reference).readText_compact]
  exact returns_iff

theorem survives_ofText (text : String) (language : Language) :
    (ofText text language).Survives :=
  survives_iff.mpr (Text.trim_trim text)

theorem survives_append {reference : ReferenceName} (survives : reference.Survives)
    (name : SimpleName) : (reference.append name).Survives := by
  rw [survives_iff] at survives ⊢
  exact Text.trim_appendSegments (Text.trim_eq_iff.mp survives).1 name.tidy_text.trim_eq

/-- What is left of the text still ends as before. -/
theorem survives_replaceFirstSegment_iff {reference : ReferenceName}
    (survives : reference.Survives) (replacement : String) :
    (reference.replaceFirstSegment replacement).Survives ↔
      ReferenceEdit.Careful reference (.replaceFirst replacement) := by
  rw [survives_iff] at survives ⊢
  simp only [ReferenceEdit.Careful, replaceFirstSegment]
  cases cut : Text.afterFirst? reference.text with
  | none => rw [Option.toList_none, Text.appendSegments_nil]
  | some rest =>
      obtain ⟨chars, cut_chars, rfl⟩ := Option.map_eq_some_iff.mp cut
      obtain ⟨first, split⟩ := Text.cutFirst_eq cut_chars
      have ends := (Text.trim_eq_iff.mp survives).2
      rw [split, Text.endsBlank_separated] at ends
      rw [Option.toList_some, Text.trim_appendSegments_iff, String.toList_ofList]
      exact and_iff_left ends

/-- Among the steps from a reference that survives, exactly the careful ones keep it so. -/
theorem survives_edit_iff {reference result : ReferenceName} (survives : reference.Survives)
    {edit : ReferenceEdit} (applied : edit.apply reference = some result) :
    result.Survives ↔ edit.Careful reference := by
  cases edit with
  | append name =>
      obtain rfl := Option.some.inj applied
      exact iff_of_true (survives_append survives name) trivial
  | parent =>
      obtain ⟨stem, cut, rfl⟩ := Option.map_eq_some_iff.mp applied
      rw [survives_iff] at survives ⊢
      rw [Text.trim_beforeLast?_iff survives cut, ReferenceEdit.Careful, cut]
      simp
  | replaceFirst replacement =>
      obtain rfl := Option.some.inj applied
      exact survives_replaceFirstSegment_iff survives replacement
  | resolved text =>
      obtain rfl := Option.some.inj applied
      exact iff_of_true (survives_ofText text _) trivial
  | withLanguage language =>
      obtain rfl := Option.some.inj applied
      rw [survives_iff] at survives ⊢
      exact iff_of_true survives trivial

/-- All references that edits make survive exactly if the edits are careful. -/
theorem trail_survives_iff {reference : ReferenceName} (survives : reference.Survives)
    (edits : List ReferenceEdit) :
    (∀ made ∈ trail ReferenceEdit.apply reference edits, made.Survives) ↔
      Along ReferenceEdit.apply ReferenceEdit.Careful reference edits := by
  refine trail_iff (fun _ _ _ before applied => survives_edit_iff before applied) ?_ survives edits
  intro reference edit stopped
  cases edit with
  | parent =>
      intro stem cut
      simp [ReferenceEdit.apply, parent?, cut] at stopped
  | append | replaceFirst | resolved | withLanguage => cases stopped

theorem tidy_edit {reference result : ReferenceName} (tidy : Text.Tidy reference.text)
    {edit : ReferenceEdit} (edit_tidy : edit.Tidy) (applied : edit.apply reference = some result) :
    Text.Tidy result.text := by
  cases edit with
  | append name =>
      obtain rfl := Option.some.inj applied
      exact Text.tidy_appendSegments tidy (List.forall_mem_singleton.mpr name.tidy_text)
  | parent =>
      obtain ⟨stem, cut, rfl⟩ := Option.map_eq_some_iff.mp applied
      exact tidy.beforeLast? cut
  | replaceFirst replacement =>
      obtain rfl := Option.some.inj applied
      apply Text.tidy_appendSegments edit_tidy
      intro rest member
      exact tidy.afterFirst? (Option.mem_toList.mp member)
  | resolved text =>
      obtain rfl := Option.some.inj applied
      exact edit_tidy
  | withLanguage language =>
      obtain rfl := Option.some.inj applied
      exact tidy

/-- Where no blank stands next to a separator, all references that edits make survive. -/
theorem trail_survives_of_tidy {reference : ReferenceName} (tidy : Text.Tidy reference.text)
    {edits : List ReferenceEdit} (edits_tidy : ∀ edit ∈ edits, edit.Tidy) :
    ∀ made ∈ trail ReferenceEdit.apply reference edits, made.Survives := by
  have all_tidy : ∀ made ∈ trail ReferenceEdit.apply reference edits, Text.Tidy made.text :=
    trail_preserves (fun _ _ _ before fine applied => tidy_edit before fine applied) tidy edits_tidy
  intro made member
  rw [survives_iff]
  exact (all_tidy made member).trim_eq

end ReferenceName

/-! ## Packages -/

/-- A package is read back as it was written. -/
def PackageName.Survives (package : PackageName) : Prop :=
  readText PackageName.read package.toDocument.compact = .ok package

/-- A step from one package to the next. -/
inductive PackageEdit
  | child (name : SimpleName)
  | parent

namespace PackageEdit

def apply (package : PackageName) : PackageEdit → Option PackageName
  | child name => some (package.child name)
  | parent => package.parent?

/-- A cut does not leave a blank at the end. -/
def Careful (package : PackageName) : PackageEdit → Prop
  | child _ => True
  | parent => ∀ stem, Text.beforeLast? package.text = some stem →
      Text.endsBlank stem.toList = false

end PackageEdit

namespace PackageName

theorem survives_iff {package : PackageName} :
    package.Survives ↔ Text.trim package.text = package.text := by
  rw [Survives, (fits.written package).readText_compact]
  exact returns_iff

theorem survives_ofText? (value : Option String) : (ofText? value).Survives := by
  cases value with
  | none => exact survives_iff.mpr (by decide)
  | some text => exact survives_iff.mpr (Text.trim_trim text)

theorem tidy_ofSegments (names : List SimpleName) : Text.Tidy (ofSegments names).text := by
  apply Text.tidy_appendSegments (by decide)
  intro part member
  obtain ⟨name, -, rfl⟩ := List.mem_map.mp member
  exact name.tidy_text

theorem survives_child {package : PackageName} (survives : package.Survives) (name : SimpleName) :
    (package.child name).Survives := by
  rw [survives_iff] at survives ⊢
  exact Text.trim_appendSegments (Text.trim_eq_iff.mp survives).1 name.tidy_text.trim_eq

theorem parent?_eq (package : PackageName) :
    package.parent? = if package.text = "" then none
      else some ⟨(Text.beforeLast? package.text).getD ""⟩ := by
  simp [parent?, isDefault]

theorem survives_edit_iff {package result : PackageName} (survives : package.Survives)
    {edit : PackageEdit} (applied : edit.apply package = some result) :
    result.Survives ↔ edit.Careful package := by
  cases edit with
  | child name =>
      cases applied
      exact iff_of_true (survives_child survives name) trivial
  | parent =>
      rw [PackageEdit.apply, parent?_eq] at applied
      split at applied
      · cases applied
      · cases applied
        rw [survives_iff] at survives ⊢
        rw [PackageEdit.Careful]
        cases cut : Text.beforeLast? package.text with
        | none => exact iff_of_true (by decide) nofun
        | some stem =>
            rw [Option.getD_some, Text.trim_beforeLast?_iff survives cut]
            simp

/-- All packages that edits make survive exactly if no cut leaves a blank at the end. -/
theorem trail_survives_iff {package : PackageName} (survives : package.Survives)
    (edits : List PackageEdit) :
    (∀ made ∈ trail PackageEdit.apply package edits, made.Survives) ↔
      Along PackageEdit.apply PackageEdit.Careful package edits := by
  refine trail_iff (fun _ _ _ before applied => survives_edit_iff before applied) ?_ survives edits
  intro package edit stopped
  cases edit with
  | child name => cases stopped
  | parent =>
      rw [PackageEdit.apply, parent?_eq] at stopped
      split at stopped
      · rename_i unnamed
        rw [PackageEdit.Careful, unnamed]
        nofun
      · cases stopped

theorem tidy_edit {package result : PackageName} (tidy : Text.Tidy package.text)
    {edit : PackageEdit} (applied : edit.apply package = some result) : Text.Tidy result.text := by
  cases edit with
  | child name =>
      cases applied
      exact Text.tidy_appendSegments tidy (List.forall_mem_singleton.mpr name.tidy_text)
  | parent =>
      rw [PackageEdit.apply, parent?_eq] at applied
      split at applied
      · cases applied
      · cases applied
        cases cut : Text.beforeLast? package.text with
        | none => exact (by decide : Text.Tidy "")
        | some stem => exact tidy.beforeLast? cut

/-- Where no blank stands next to a separator, all packages that edits make survive. -/
theorem trail_survives_of_tidy {package : PackageName} (tidy : Text.Tidy package.text)
    (edits : List PackageEdit) :
    ∀ made ∈ trail PackageEdit.apply package edits, made.Survives := by
  have all_tidy : ∀ made ∈ trail PackageEdit.apply package edits, Text.Tidy made.text :=
    trail_preserves (fun _ _ _ before (_ : True) applied => tidy_edit before applied) tidy
      fun _ _ => trivial
  intro made member
  rw [survives_iff]
  exact (all_tidy made member).trim_eq

end PackageName

end SymbolResolver
