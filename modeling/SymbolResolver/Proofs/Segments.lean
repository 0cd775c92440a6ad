import SymbolResolver.Name.Reference

/-!
# Segments of dotted texts

Cutting a text at a separator and adding segments to a stem work on characters. In terms of segments
they are what one expects: a text is its segments with separators in between, what follows the first
separator is the text of all segments but the first, and segments are added by joining.
-/

namespace SymbolResolver

namespace Text

/-! ## Pieces -/

/-- Pieces with separators in between. -/
def glue (parts : List (List Char)) : List Char := [separator].intercalate parts

theorem glue_singleton (piece : List Char) : glue [piece] = piece := by
  simp [glue]

theorem glue_cons {parts : List (List Char)} (nonempty : parts ≠ []) (piece : List Char) :
    glue (piece :: parts) = piece ++ separator :: glue parts := by
  simp [glue, List.intercalate_cons_of_ne_nil nonempty]

theorem pieces_of_ne {char : Char} (different : char ≠ separator) (chars : List Char) :
    pieces (char :: chars) = consFirst char (pieces chars) := by
  simp [pieces, different]

theorem pieces_ne_nil (chars : List Char) : pieces chars ≠ [] := by
  cases chars with
  | nil => simp
  | cons char chars =>
      by_cases same : char = separator
      · rw [same, pieces_separator]
        exact List.cons_ne_nil _ _
      · rw [pieces_of_ne same]
        cases pieces chars <;> exact List.cons_ne_nil _ _

/-- The pieces of a text that goes on with a character. -/
theorem pieces_cons_of_ne {char : Char} (different : char ≠ separator) {chars first : List Char}
    {rest : List (List Char)} (split : pieces chars = first :: rest) :
    pieces (char :: chars) = (char :: first) :: rest := by
  rw [pieces_of_ne different, split, consFirst]

/-- A text is its pieces with separators in between. -/
theorem glue_pieces (chars : List Char) : glue (pieces chars) = chars := by
  induction chars with
  | nil => exact glue_singleton []
  | cons char chars ih =>
      by_cases same : char = separator
      · rw [same, pieces_separator, glue_cons (pieces_ne_nil chars), ih, List.nil_append]
      · obtain ⟨first, rest, split⟩ := List.exists_cons_of_ne_nil (pieces_ne_nil chars)
        rw [pieces_cons_of_ne same split]
        rw [split] at ih
        cases rest with
        | nil =>
            rw [glue_singleton] at ih ⊢
            rw [ih]
        | cons second rest =>
            rw [glue_cons (List.cons_ne_nil _ _)] at ih ⊢
            rw [List.cons_append, ih]

/-- What follows the first separator is made of the other pieces. -/
theorem cutFirst_snd (chars : List Char) :
    (cutFirst chars).2 =
      if (pieces chars).tail = [] then none else some (glue (pieces chars).tail) := by
  induction chars with
  | nil => rfl
  | cons char chars ih =>
      by_cases same : char = separator
      · rw [same, pieces_separator, List.tail_cons, if_neg (pieces_ne_nil chars), glue_pieces]
        simp [cutFirst]
      · obtain ⟨first, rest, split⟩ := List.exists_cons_of_ne_nil (pieces_ne_nil chars)
        rw [pieces_cons_of_ne same split, List.tail_cons]
        rw [split, List.tail_cons] at ih
        simpa [cutFirst, same] using ih

/-- What follows the last separator is the last piece. -/
theorem cutLast_spec (chars : List Char) :
    ((cutLast chars).1 = none ↔ (pieces chars).tail = []) ∧
      (pieces chars).getLast? = some (cutLast chars).2 := by
  induction chars with
  | nil => simp [cutLast]
  | cons char chars ih =>
      obtain ⟨first, rest, split⟩ := List.exists_cons_of_ne_nil (pieces_ne_nil chars)
      rw [split, List.tail_cons] at ih
      obtain ⟨uncut, last⟩ := ih
      by_cases same : char = separator
      · rw [same, pieces_separator, split, List.tail_cons, List.getLast?_cons_cons, last]
        cases cut : cutLast chars with
        | mk stem tail => cases stem <;> simp [cutLast, cut]
      · rw [pieces_cons_of_ne same split, List.tail_cons]
        cases cut : cutLast chars with
        | mk stem tail =>
            rw [cut] at uncut last
            cases stem with
            | none =>
                obtain rfl : rest = [] := uncut.mp rfl
                simp_all [cutLast]
            | some stem =>
                have more : rest ≠ [] := fun none_left => by simpa using uncut.mpr none_left
                obtain ⟨second, others, rfl⟩ := List.exists_cons_of_ne_nil more
                simpa [cutLast, cut, same] using last

/-! ## Texts -/

theorem segments_of_ne {text : String} (nonempty : text ≠ "") :
    segments text = (pieces text.toList).map String.ofList := by
  have chars_ne : text.toList ≠ [] := fun none_left => nonempty (by simpa using none_left)
  rw [segments, if_neg chars_ne]

theorem toList_intercalate_separator (parts : List (List Char)) :
    (".".intercalate (parts.map String.ofList)).toList = glue parts := by
  rw [String.toList_intercalate, List.map_map, glue]
  simp [Function.comp_def, separator]

/-- What follows the first separator is the text of all segments but the first. -/
theorem afterFirst?_eq (text : String) :
    afterFirst? text =
      if (segments text).tail = [] then none else some (".".intercalate (segments text).tail) := by
  by_cases blank : text = ""
  · subst blank
    rfl
  · have tail_eq : (segments text).tail = (pieces text.toList).tail.map String.ofList := by
      rw [segments_of_ne blank, List.map_tail]
    rw [afterFirst?, cutFirst_snd, tail_eq]
    simp only [List.map_eq_nil_iff]
    split
    · rfl
    · rw [Option.map_some, ← toList_intercalate_separator, String.ofList_toList]

/-- The last segment of a text that has any. -/
theorem lastSegment_eq (text : String) : lastSegment text = (segments text).getLast?.getD "" := by
  by_cases blank : text = ""
  · subst blank
    rfl
  · rw [segments_of_ne blank, List.getLast?_map, (cutLast_spec text.toList).2]
    rfl

/-! ## Joining -/

/-- A front text followed by segments. A front without text is left out. -/
def joined (front : String) (rest : List String) : String :=
  ".".intercalate (if front = "" then rest else front :: rest)

theorem appendPieces_of_ne {stem : List Char} (nonempty : stem ≠ []) (parts : List (List Char)) :
    appendPieces stem parts = glue (stem :: parts) := by
  induction parts generalizing stem with
  | nil => exact (glue_singleton stem).symm
  | cons part parts ih =>
      have longer : stem ++ separator :: part ≠ [] := by simp
      rw [appendPieces_cons, appendPiece, if_neg nonempty, ih longer,
        glue_cons (List.cons_ne_nil _ _)]
      cases parts with
      | nil => rw [glue_singleton, glue_singleton]
      | cons second parts =>
          rw [glue_cons (List.cons_ne_nil _ _), glue_cons (List.cons_ne_nil _ _)]
          simp

/-- Segments are added to a text by joining. -/
theorem appendSegments_of_ne {stem : String} (nonempty : stem ≠ "") (parts : List String) :
    appendSegments stem parts = joined stem parts := by
  have chars_ne : stem.toList ≠ [] := fun none_left => nonempty (by simpa using none_left)
  have texts : (stem.toList :: parts.map String.toList).map String.ofList = stem :: parts := by
    simp [Function.comp_def]
  rw [joined, if_neg nonempty, appendSegments, appendPieces_of_ne chars_ne,
    ← toList_intercalate_separator, texts, String.ofList_toList]

@[simp] theorem appendSegments_nil (stem : String) : appendSegments stem [] = stem := by
  simp [appendSegments]

@[simp] theorem joined_nil (front : String) : joined front [] = front := by
  by_cases blank : front = ""
  · subst blank
    rfl
  · rw [← appendSegments_of_ne blank, appendSegments_nil]

/-- Segments can be joined with each other first. -/
theorem joined_intercalate {parts : List String} (nonempty : parts ≠ []) (front : String) :
    joined front [".".intercalate parts] = joined front parts := by
  by_cases blank : front = ""
  · simp [joined, blank]
  · have chars_ne : parts.map String.toList ≠ [] := by simpa using nonempty
    rw [joined, joined, if_neg blank, if_neg blank, ← String.toList_inj, String.toList_intercalate,
      String.toList_intercalate, List.map_cons, List.map_cons, List.map_cons, List.map_nil,
      String.toList_intercalate, List.intercalate_cons_of_ne_nil chars_ne,
      List.intercalate_cons_of_ne_nil (List.cons_ne_nil _ _), List.intercalate_singleton]

theorem appendSegments_singleton (stem part : String) :
    appendSegments stem [part] = joined stem [part] := by
  by_cases blank : stem = ""
  · simp [appendSegments, joined, blank, appendPiece]
  · exact appendSegments_of_ne blank [part]

end Text

/-- Replacing the first segment joins the replacement with the other segments. -/
theorem ReferenceName.text_replaceFirstSegment (reference : ReferenceName) (replacement : String) :
    (reference.replaceFirstSegment replacement).text =
      Text.joined replacement (Text.segments reference.text).tail := by
  rw [replaceFirstSegment, Text.afterFirst?_eq]
  by_cases single : (Text.segments reference.text).tail = []
  · rw [if_pos single, single, Text.joined_nil]
    exact Text.appendSegments_nil replacement
  · rw [if_neg single, ← Text.joined_intercalate single]
    exact Text.appendSegments_singleton replacement _

end SymbolResolver
