import SymbolResolver.Proofs.TrimmedNames

/-!
# Dotted simple names

A simple name is one segment of a text. So simple names with separators in between have just these
names as their segments (`SimpleName.segments_dotted`), and a qualified text has the segments of its
package followed by the simple names (`DeclaredName.segments_qualify`).
-/

namespace SymbolResolver

namespace Text

/-! ## Segments of joined texts -/

theorem pieces_glue {parts : List (List Char)} (nonempty : parts ≠ [])
    (single : ∀ part ∈ parts, separator ∉ part) : pieces (glue parts) = parts := by
  induction parts with
  | nil => exact absurd rfl nonempty
  | cons part parts ih =>
      rw [List.forall_mem_cons] at single
      by_cases alone : parts = []
      · rw [alone, glue_singleton, pieces_of_not_mem single.1]
      · rw [glue_cons alone, pieces_separated, pieces_of_not_mem single.1, ih alone single.2,
          List.singleton_append]

theorem map_pieces_glue {parts : List String} (nonempty : parts ≠ [])
    (single : ∀ part ∈ parts, separator ∉ part.toList) :
    (pieces (glue (parts.map String.toList))).map String.ofList = parts := by
  have chars_single : ∀ piece ∈ parts.map String.toList, separator ∉ piece := by
    intro piece member
    obtain ⟨part, in_parts, rfl⟩ := List.mem_map.mp member
    exact single part in_parts
  rw [pieces_glue (by simpa using nonempty) chars_single]
  simp [Function.comp_def]

theorem toList_intercalate_texts (parts : List String) :
    (".".intercalate parts).toList = glue (parts.map String.toList) := by
  rw [← toList_intercalate_separator]
  simp [Function.comp_def]

/-- The segments of joined segments. -/
theorem segments_intercalate {parts : List String} (nonempty : ".".intercalate parts ≠ "")
    (single : ∀ part ∈ parts, separator ∉ part.toList) :
    segments (".".intercalate parts) = parts := by
  have some_parts : parts ≠ [] := by
    rintro rfl
    exact nonempty String.intercalate_nil
  rw [segments_of_ne nonempty, toList_intercalate_texts, map_pieces_glue some_parts single]

theorem exists_first_segment {text : String} (nonempty : text ≠ "") :
    ∃ first, (segments text).head? = some first := by
  obtain ⟨first, rest, split⟩ := List.exists_cons_of_ne_nil (pieces_ne_nil text.toList)
  exact ⟨String.ofList first, by rw [segments_of_ne nonempty, split]; rfl⟩

theorem segments_ne_nil {text : String} (nonempty : text ≠ "") : segments text ≠ [] := by
  rw [segments_of_ne nonempty]
  simpa using pieces_ne_nil text.toList

theorem separator_not_mem_pieces {chars piece : List Char} (member : piece ∈ pieces chars) :
    separator ∉ piece := by
  induction chars generalizing piece with
  | nil =>
      rw [pieces_nil, List.mem_singleton] at member
      simp [member]
  | cons char chars ih =>
      by_cases same : char = separator
      · rw [same, pieces_separator, List.mem_cons] at member
        rcases member with rfl | later
        · exact List.not_mem_nil
        · exact ih later
      · obtain ⟨first, rest, split⟩ := List.exists_cons_of_ne_nil (pieces_ne_nil chars)
        rw [pieces_cons_of_ne same split, List.mem_cons] at member
        rcases member with rfl | later
        · have first_free := ih (split ▸ List.mem_cons_self)
          simp [first_free, Ne.symm same]
        · exact ih (split ▸ List.mem_cons_of_mem _ later)

theorem separator_not_mem_segments {text part : String} (member : part ∈ segments text) :
    separator ∉ part.toList := by
  by_cases blank : text = ""
  · subst blank
    cases member
  · rw [segments_of_ne blank] at member
    obtain ⟨piece, in_pieces, rfl⟩ := List.mem_map.mp member
    rw [String.toList_ofList]
    exact separator_not_mem_pieces in_pieces

/-- A separator in a text separates the segments before it from those behind it. -/
theorem segments_of_separated {text : String} {front back : List Char}
    (split : text.toList = front ++ separator :: back) :
    segments text = (pieces front).map String.ofList ++ (pieces back).map String.ofList := by
  rw [segments, if_neg (by simp [split]), split, pieces_separated, List.map_append]

/-- Joining keeps the segments on both sides. -/
theorem segments_joined {front : String} (nonempty : front ≠ "") {rest : List String}
    (single : ∀ part ∈ rest, separator ∉ part.toList) :
    segments (joined front rest) = segments front ++ rest := by
  by_cases alone : rest = []
  · rw [alone, joined_nil, List.append_nil]
  · have chars_eq : (joined front rest).toList =
        front.toList ++ separator :: glue (rest.map String.toList) := by
      have parts_ne : rest.map String.toList ≠ [] := by simpa using alone
      rw [joined, if_neg nonempty, ← glue_cons parts_ne, toList_intercalate_texts, List.map_cons]
    rw [segments_of_separated chars_eq, map_pieces_glue alone single, ← segments_of_ne nonempty]

/-- All segments of a text but the first stay behind another text. -/
theorem segments_joined_tail {front : String} (nonempty : front ≠ "") (text : String) :
    segments (joined front (segments text).tail) = segments front ++ (segments text).tail :=
  segments_joined nonempty fun _ member =>
    separator_not_mem_segments (List.mem_of_mem_tail member)

theorem segments_of_not_mem {text : String} (nonempty : text ≠ "")
    (single : separator ∉ text.toList) : segments text = [text] := by
  rw [segments_of_ne nonempty, pieces_of_not_mem single]
  simp

/-- A text is its segments with separators in between. -/
theorem intercalate_segments (text : String) : ".".intercalate (segments text) = text := by
  by_cases blank : text = ""
  · subst blank
    rfl
  · rw [segments_of_ne blank, ← String.toList_inj, toList_intercalate_separator, glue_pieces]

theorem eq_of_segments_eq {left right : String} (same : segments left = segments right) :
    left = right := by
  rw [← intercalate_segments left, same, intercalate_segments]

end Text

/-! ## Simple names as segments -/

namespace SimpleName

theorem eq_of_text {left right : SimpleName} (same : left.text = right.text) : left = right := by
  rcases left with ⟨text, _⟩
  cases same
  rfl

theorem ofText_eq_ok_iff {text : String} {name : SimpleName} :
    ofText text = .ok name ↔ name.text = text := by
  constructor
  · intro made
    unfold ofText at made
    split at made
    · cases made
      rfl
    · cases made
  · rintro rfl
    exact ofText_text name

theorem ofText_eq_error {text : String} (unnamed : ¬ ∃ name : SimpleName, name.text = text) :
    ofText text = .error (.notIdentifier text) :=
  dif_neg fun valid => unnamed ⟨⟨text, valid⟩, rfl⟩

theorem mapM_ofText_eq_ok_iff {texts : List String} {names : List SimpleName} :
    texts.mapM ofText = .ok names ↔ names.map text = texts := by
  constructor
  · intro made
    induction texts generalizing names with
    | nil =>
        cases made
        rfl
    | cons first texts ih =>
        rw [List.mapM_cons] at made
        obtain ⟨name, first_made, rest⟩ := bind_eq_ok.mp made
        obtain ⟨others, rest_made, same⟩ := bind_eq_ok.mp rest
        cases same
        rw [List.map_cons, ofText_eq_ok_iff.mp first_made, ih rest_made]
  · rintro rfl
    exact mapM_map_ok fun name _ => ofText_text name

theorem text_ne_empty (name : SimpleName) : name.text ≠ "" := by
  intro blank
  have valid := name.valid
  rw [blank] at valid
  exact absurd valid (by decide)

/-- Simple names with separators in between. -/
def dotted (names : List SimpleName) : String := ".".intercalate (names.map text)

theorem toList_dotted (names : List SimpleName) :
    (dotted names).toList = Text.glue (names.map fun name => name.text.toList) := by
  rw [dotted, Text.toList_intercalate_texts, List.map_map]
  rfl

theorem dotted_ne_empty {names : List SimpleName} (nonempty : names ≠ []) :
    dotted names ≠ "" := by
  obtain ⟨name, names, rfl⟩ := List.exists_cons_of_ne_nil nonempty
  have first_ne : name.text.toList ≠ [] := by simpa using name.text_ne_empty
  intro blank
  have chars : (dotted (name :: names)).toList = [] := by rw [blank]; rfl
  rw [toList_dotted] at chars
  cases names with
  | nil =>
      rw [List.map_singleton, Text.glue_singleton] at chars
      exact first_ne chars
  | cons second names =>
      rw [List.map_cons, Text.glue_cons (by simp)] at chars
      simp at chars

/-- The segments of dotted simple names are the simple names. -/
theorem segments_dotted {names : List SimpleName} (nonempty : names ≠ []) :
    Text.segments (dotted names) = names.map text := by
  refine Text.segments_intercalate (dotted_ne_empty nonempty) fun part member => ?_
  obtain ⟨name, -, rfl⟩ := List.mem_map.mp member
  exact name.shape.1

theorem trim_dotted (names : List SimpleName) : Text.trim (dotted names) = dotted names := by
  rw [Text.trim_eq_iff, toList_dotted]
  refine Text.ends_glue fun piece member => ?_
  obtain ⟨name, -, rfl⟩ := List.mem_map.mp member
  exact name.shape.2

end SimpleName

/-! ## Qualified texts -/

namespace DeclaredName

/-- The simple names of a declaration come after its package. -/
theorem qualify_eq (package : PackageName) {names : List SimpleName} (nonempty : names ≠ []) :
    qualify package names = Text.joined package.text (names.map SimpleName.text) := by
  by_cases unnamed : package.text = ""
  · obtain ⟨name, names, rfl⟩ := List.exists_cons_of_ne_nil nonempty
    have added : Text.appendSegments "" ((name :: names).map SimpleName.text) =
        Text.appendSegments name.text (names.map SimpleName.text) := by
      simp [Text.appendSegments, Text.appendPiece]
    rw [qualify, PackageName.append, unnamed, added,
      Text.appendSegments_of_ne name.text_ne_empty, Text.joined, if_neg name.text_ne_empty,
      Text.joined, if_pos rfl, List.map_cons]
  · exact Text.appendSegments_of_ne unnamed _

theorem qualify_eq_dotted (package : PackageName) {names : List SimpleName}
    (nonempty : names ≠ []) :
    qualify package names = Text.appendSegments package.text [SimpleName.dotted names] := by
  rw [qualify_eq package nonempty, Text.appendSegments_singleton, SimpleName.dotted,
    Text.joined_intercalate (by simpa using nonempty)]

theorem qualify_ne_empty (package : PackageName) {names : List SimpleName}
    (nonempty : names ≠ []) : qualify package names ≠ "" := by
  have names_ne : (SimpleName.dotted names).toList ≠ [] := by
    simpa using SimpleName.dotted_ne_empty nonempty
  rw [qualify_eq_dotted package nonempty, ne_eq, ← String.toList_inj, Text.toList_appendSegments,
    List.map_singleton, Text.appendPieces_cons, Text.appendPieces_nil, Text.appendPiece]
  split
  · exact names_ne
  · simp

/-- No blank stands at an end of a declaration in a package that does not begin with one. -/
theorem trim_qualify {package : PackageName}
    (solid : Text.startsBlank package.text.toList = false) {names : List SimpleName}
    (nonempty : names ≠ []) : Text.trim (qualify package names) = qualify package names := by
  rw [qualify_eq_dotted package nonempty]
  exact Text.trim_appendSegments solid (SimpleName.trim_dotted names)

/-- The simple names of a declaration are its last segments. -/
theorem segments_qualify (package : PackageName) {names : List SimpleName}
    (nonempty : names ≠ []) :
    Text.segments (qualify package names) = package.segments ++ names.map SimpleName.text := by
  have single : ∀ part ∈ names.map SimpleName.text, Text.separator ∉ part.toList := by
    intro part member
    obtain ⟨name, -, rfl⟩ := List.mem_map.mp member
    exact name.shape.1
  rw [qualify_eq package nonempty, PackageName.segments]
  by_cases unnamed : package.text = ""
  · rw [unnamed, Text.joined, if_pos rfl, Text.segments_empty, List.nil_append,
      ← SimpleName.dotted, SimpleName.segments_dotted nonempty]
  · exact Text.segments_joined unnamed single

/-- A nested declaration adds one segment to the qualified text. -/
theorem qualify_concat (package : PackageName) (names : List SimpleName) (name : SimpleName) :
    qualify package (names ++ [name]) =
      Text.appendSegments (qualify package names) [name.text] := by
  simp [qualify, PackageName.append, Text.appendSegments, Text.appendPieces]

end DeclaredName

end SymbolResolver
