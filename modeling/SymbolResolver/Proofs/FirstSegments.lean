import SymbolResolver.Proofs.DottedNames

/-!
# Replacing the first segment

Aliases and imports put another text in the place of the first segment of a reference. On segments this
is what one expects: those of the other text, then all of the reference but its first one. The one
exception is an empty text in front of a single empty segment, since the result has no text and so no
segments (`ReferenceName.segments_replaceFirstSegment_iff`). Replacing a first segment by itself
changes nothing, and two replacements are one (`ReferenceName.first_segment_replaced`).
-/

namespace SymbolResolver

namespace Text

/-- Only no segment at all, or a single empty one, gives the empty text. -/
theorem intercalate_eq_empty_iff {parts : List String} :
    ".".intercalate parts = "" ↔ parts = [] ∨ parts = [""] := by
  match parts with
  | [] => simp
  | [part] => simp
  | first :: second :: rest =>
      refine iff_of_false (fun blank => ?_) (by simp)
      rw [String.intercalate_cons_cons, ← String.toList_inj] at blank
      simp at blank

/-- The segments of joined segments are these, unless there is only an empty one. -/
theorem segments_intercalate_iff {parts : List String}
    (single : ∀ part ∈ parts, separator ∉ part.toList) :
    segments (".".intercalate parts) = parts ↔ parts ≠ [""] := by
  by_cases blank : ".".intercalate parts = ""
  · rw [blank, segments_empty]
    rcases intercalate_eq_empty_iff.mp blank with rfl | rfl
    · simp
    · simp
  · refine iff_of_true (segments_intercalate blank single) fun alone => blank ?_
    exact intercalate_eq_empty_iff.mpr (.inr alone)

/-- Nothing follows the first separator exactly if an empty segment is all that follows. -/
theorem afterFirst?_eq_empty_iff {text : String} :
    afterFirst? text = some "" ↔ (segments text).tail = [""] := by
  rw [afterFirst?_eq]
  split
  · rename_i alone
    simp [alone]
  · rename_i more
    rw [Option.some.injEq, intercalate_eq_empty_iff, or_iff_right more]

end Text

namespace ReferenceName

variable {reference : ReferenceName}

theorem eq_of_segments {other : ReferenceName} (same : reference.segments = other.segments)
    (spoken : reference.language = other.language) : reference = other := by
  rcases reference with ⟨text, language⟩
  rcases other with ⟨_, _⟩
  cases Text.eq_of_segments_eq same
  cases spoken
  rfl

/-- The other segments stay behind a text in front of them. -/
theorem segments_replaceFirstSegment {replacement : String} (nonempty : replacement ≠ "") :
    (reference.replaceFirstSegment replacement).segments =
      Text.segments replacement ++ reference.segments.tail := by
  rw [segments, text_replaceFirstSegment, Text.segments_joined_tail nonempty, segments]

/-- The first segment is replaced, except by no text if nothing follows the first separator. -/
theorem segments_replaceFirstSegment_iff {replacement : String} :
    (reference.replaceFirstSegment replacement).segments =
        Text.segments replacement ++ reference.segments.tail ↔
      ¬ (replacement = "" ∧ Text.afterFirst? reference.text = some "") := by
  by_cases blank : replacement = ""
  · subst blank
    have text : (reference.replaceFirstSegment "").text =
        ".".intercalate (Text.segments reference.text).tail := by
      rw [text_replaceFirstSegment, Text.joined, if_pos rfl]
    have single : ∀ part ∈ (Text.segments reference.text).tail, Text.separator ∉ part.toList :=
      fun _ member => Text.separator_not_mem_segments (List.mem_of_mem_tail member)
    rw [segments, text, Text.segments_empty, List.nil_append, segments,
      Text.segments_intercalate_iff single, and_iff_right rfl, Text.afterFirst?_eq_empty_iff]
  · exact iff_of_true (segments_replaceFirstSegment blank) fun both => blank both.1

theorem replaceFirstSegment_self {first : String} (begins : reference.firstSegment? = some first)
    (nonempty : first ≠ "") : reference.replaceFirstSegment first = reference := by
  obtain ⟨rest, split⟩ := List.head?_eq_some_iff.mp begins
  have single : Text.separator ∉ first.toList :=
    Text.separator_not_mem_segments (List.mem_of_head? begins)
  refine eq_of_segments ?_ rfl
  rw [segments_replaceFirstSegment nonempty, Text.segments_of_not_mem nonempty single, split,
    List.tail_cons, List.singleton_append]

/-- Replacing twice replaces by what comes of the first replacement. -/
theorem replaceFirstSegment_twice {first second : String} (first_ne : first ≠ "")
    (second_ne : second ≠ "") (language : Language) :
    (reference.replaceFirstSegment first).replaceFirstSegment second =
      reference.replaceFirstSegment
        ((⟨first, language⟩ : ReferenceName).replaceFirstSegment second).text := by
  have between : ((⟨first, language⟩ : ReferenceName).replaceFirstSegment second).segments =
      Text.segments second ++ (Text.segments first).tail :=
    segments_replaceFirstSegment second_ne
  have between_ne : ((⟨first, language⟩ : ReferenceName).replaceFirstSegment second).text ≠ "" := by
    intro blank
    rw [segments, blank, Text.segments_empty] at between
    exact List.append_ne_nil_of_left_ne_nil (Text.segments_ne_nil second_ne) _ between.symm
  refine eq_of_segments ?_ rfl
  calc
    ((reference.replaceFirstSegment first).replaceFirstSegment second).segments
      = Text.segments second ++ (Text.segments first ++ reference.segments.tail).tail := by
        rw [segments_replaceFirstSegment second_ne, segments_replaceFirstSegment first_ne]
    _ = (Text.segments second ++ (Text.segments first).tail) ++ reference.segments.tail := by
        rw [List.tail_append_of_ne_nil (Text.segments_ne_nil first_ne), List.append_assoc]
    _ = (reference.replaceFirstSegment
          ((⟨first, language⟩ : ReferenceName).replaceFirstSegment second).text).segments := by
        rw [segments_replaceFirstSegment between_ne, ← between, segments]

/-- A reference whose first segment is replaced by a text has the segments of that text and then its
other segments, except if the text is empty and nothing follows the first separator. Its language
stays. A first segment that is not empty is replaced by itself without change, and replacing by two
texts one after the other replaces by one text, the first one with its first segment replaced by the
second one. -/
theorem first_segment_replaced (reference : ReferenceName) (replacement : String) :
    ((reference.replaceFirstSegment replacement).segments =
        Text.segments replacement ++ reference.segments.tail ↔
      ¬ (replacement = "" ∧ Text.afterFirst? reference.text = some "")) ∧
    (reference.replaceFirstSegment replacement).language = reference.language ∧
    (∀ first, reference.firstSegment? = some first → first ≠ "" →
      reference.replaceFirstSegment first = reference) ∧
    ∀ other language, replacement ≠ "" → other ≠ "" →
      (reference.replaceFirstSegment replacement).replaceFirstSegment other =
        reference.replaceFirstSegment
          ((⟨replacement, language⟩ : ReferenceName).replaceFirstSegment other).text :=
  ⟨segments_replaceFirstSegment_iff, rfl, fun _ => replaceFirstSegment_self,
    fun _ language nonempty other_ne => replaceFirstSegment_twice nonempty other_ne language⟩

/-- A reference with an empty segment and a separator at its end, whose first segment is replaced by
itself and by two texts, of which the first ends with a separator. -/
theorem first_segment_replaced_separated :
    (⟨"a..b.", .java⟩ : ReferenceName).replaceFirstSegment "a" = ⟨"a..b.", .java⟩ ∧
    ((⟨"a..b.", .java⟩ : ReferenceName).replaceFirstSegment "x.").replaceFirstSegment "y.z" =
      (⟨"a..b.", .java⟩ : ReferenceName).replaceFirstSegment "y.z." ∧
    ((⟨"a..b.", .java⟩ : ReferenceName).replaceFirstSegment "x.").segments =
      ["x", "", "", "b", ""] := by
  obtain ⟨replaced, -, itself, twice⟩ := first_segment_replaced ⟨"a..b.", .java⟩ "x."
  refine ⟨itself "a" (by decide) (by decide), twice "y.z" .java (by decide) (by decide), ?_⟩
  exact (replaced.mpr (by decide)).trans (by decide)

/-- Replaced by no text, the segment before a final separator leaves nothing behind. -/
example : ((⟨"a.", .java⟩ : ReferenceName).replaceFirstSegment "").segments = [] ∧
    (⟨"a.", .java⟩ : ReferenceName).segments.tail = [""] := by
  decide

end ReferenceName

end SymbolResolver
