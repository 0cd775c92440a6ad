/-!
# Texts between byte offsets

Offsets count the bytes of a text in UTF-8. A cut at two offsets gives a text only if both of them
lie between characters and the first is not behind the second.
-/

namespace SymbolResolver

namespace Text

/-- The text between two byte offsets. There is none if one of them is past the end or within a
character, or if they are in the wrong order. -/
def slice? (text : String) (first last : Nat) : Option String := do
  let start ← text.pos? ⟨first⟩
  let stop ← text.pos? ⟨last⟩
  (text.slice? start stop).map String.Slice.copy

theorem pos?_eq_some_iff {text : String} {offset : String.Pos.Raw} {position : text.Pos} :
    text.pos? offset = some position ↔ position.offset = offset := by
  constructor
  · intro found
    obtain ⟨inside, inside_eq, rfl⟩ := Option.map_eq_some_iff.mp found
    unfold String.Slice.pos? at inside_eq
    split at inside_eq
    · cases inside_eq
      rfl
    · cases inside_eq
  · rintro rfl
    have valid : String.Pos.Raw.isValidForSlice text.toSlice position.offset = true :=
      String.Pos.Raw.isValidForSlice_eq_true_iff.mpr position.isValid.toSlice
    rw [String.pos?, String.Slice.pos?, dif_pos valid]
    rfl

theorem copy_slice?_eq_some_iff {text inner : String} {start stop : text.Pos} :
    (text.slice? start stop).map String.Slice.copy = some inner ↔
      ∃ front back, start.Splits front (inner ++ back) ∧ stop.Splits (front ++ inner) back := by
  rw [← String.copy_slice_eq_iff_splits, String.slice?]
  split <;> simp_all

/-- A text stands between two offsets exactly if the bytes in front of it are as many as the first
offset says, and those in front of its end as many as the second says. -/
theorem slice?_eq_some_iff {text inner : String} {first last : Nat} :
    slice? text first last = some inner ↔
      ∃ front back, text = front ++ inner ++ back ∧ first = front.utf8ByteSize ∧
        last = (front ++ inner).utf8ByteSize := by
  constructor
  · intro cut
    obtain ⟨start, start_eq, cut⟩ := Option.bind_eq_some_iff.mp cut
    obtain ⟨stop, stop_eq, cut⟩ := Option.bind_eq_some_iff.mp cut
    rw [pos?_eq_some_iff] at start_eq stop_eq
    obtain ⟨front, back, before, behind⟩ := copy_slice?_eq_some_iff.mp cut
    refine ⟨front, back, behind.eq_append, ?_, ?_⟩
    · rw [← String.byteIdx_rawEndPos, ← before.offset_eq_rawEndPos, start_eq]
    · rw [← String.byteIdx_rawEndPos, ← behind.offset_eq_rawEndPos, stop_eq]
  · rintro ⟨front, back, rfl, rfl, rfl⟩
    have start_valid : front.rawEndPos.IsValid (front ++ inner ++ back) :=
      String.Pos.Raw.isValid_iff_exists_append.mpr ⟨front, inner ++ back, String.append_assoc, rfl⟩
    have stop_valid : (front ++ inner).rawEndPos.IsValid (front ++ inner ++ back) :=
      String.Pos.Raw.isValid_iff_exists_append.mpr ⟨front ++ inner, back, rfl, rfl⟩
    refine Option.bind_eq_some_iff.mpr ⟨⟨_, start_valid⟩, pos?_eq_some_iff.mpr rfl, ?_⟩
    refine Option.bind_eq_some_iff.mpr ⟨⟨_, stop_valid⟩, pos?_eq_some_iff.mpr rfl, ?_⟩
    exact copy_slice?_eq_some_iff.mpr ⟨front, back, ⟨String.append_assoc, rfl⟩, ⟨rfl, rfl⟩⟩

/-- No cut goes through a character. -/
example : slice? "aéa" 1 3 = some "é" ∧ slice? "aéa" 1 2 = none := by decide

end Text

end SymbolResolver
