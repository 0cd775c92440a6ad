import SymbolResolver.Proofs.DottedNames

/-!
# Identifiers as parts of names

Dotted names, trimmed texts and cuts by byte offsets rely on identifiers without looking into them.
An identifier has one of two forms. A plain one is made of letters and numbers, and of these nothing
more is used than that no separator, no backtick and no blank is among them. An escaped one may hold
blanks, but it begins and ends with a backtick, with something in between. So either way it is one
segment that no trimming changes, and the cut inside the backticks leaves a text of its own
(`SimpleName.accepted_text_safe`).
-/

namespace SymbolResolver

namespace SimpleName

variable {name : SimpleName}

theorem unescaped_of_plain (plain : name.isEscaped = false) : name.unescaped = name.text := by
  rw [unescaped, Option.get_of_eq_some _ (unescaped?_of_plain plain)]

/-- An escaped identifier is what it is without its backticks, with the backticks around it. -/
theorem quoted_unescaped (escaped : name.isEscaped = true) :
    name.text = "`" ++ name.unescaped ++ "`" ∧ name.unescaped ≠ "" ∧
      ∀ char ∈ name.unescaped.toList, char ∉ Identifier.forbidden := by
  rw [isEscaped_eq, Identifier.isEscaped_iff] at escaped
  obtain ⟨bare, quoted, bare_ne, harmless⟩ := escaped
  have bare_eq : name.unescaped = bare := by
    rw [unescaped, Option.get_of_eq_some _ (unescaped?_of_quoted quoted)]
  rw [bare_eq]
  exact ⟨quoted, bare_ne, harmless⟩

/-- The offsets inside the backticks are in bounds and between characters. -/
theorem slice?_text (escaped : name.isEscaped = true) :
    Text.slice? name.text 1 (name.text.utf8ByteSize - 1) = some name.unescaped := by
  have cut : name.unescaped? = some name.unescaped := (Option.some_get _).symm
  rwa [unescaped?, if_pos escaped] at cut

theorem unescaped_ne_empty (name : SimpleName) : name.unescaped ≠ "" := by
  cases escaped : name.isEscaped with
  | false => exact unescaped_of_plain escaped ▸ name.text_ne_empty
  | true => exact (quoted_unescaped escaped).2.1

theorem backtick_not_mem_unescaped (name : SimpleName) :
    Identifier.backtick ∉ name.unescaped.toList := by
  cases escaped : name.isEscaped with
  | false =>
      rw [unescaped_of_plain escaped]
      exact Identifier.backtick_not_mem (isPlain_of_not_isEscaped escaped)
  | true => exact fun member => (quoted_unescaped escaped).2.2 _ member (by decide)

/-- A text that is accepted as an identifier is not empty, holds no separator and no blanks at its
ends, and is of exactly one of the two forms. What is left without the backticks is not empty and
holds none; in an escaped identifier it stands between the first byte and the last, which are the
backticks, and a plain identifier is left as it is. -/
theorem accepted_text_safe {text : String} {name : SimpleName} (accepted : ofText text = .ok name) :
    name.text = text ∧ text ≠ "" ∧ Text.separator ∉ text.toList ∧ Text.trim text = text ∧
    Identifier.isEscaped text = name.isEscaped ∧ Identifier.isPlain text = !name.isEscaped ∧
    name.unescaped ≠ "" ∧ Identifier.backtick ∉ name.unescaped.toList ∧
    (name.isEscaped = true →
      Text.slice? text 1 (text.utf8ByteSize - 1) = some name.unescaped ∧
      "`" ++ name.unescaped ++ "`" = text) ∧
    (name.isEscaped = false → name.unescaped = text) := by
  obtain rfl := ofText_eq_ok_iff.mp accepted
  exact ⟨rfl, name.text_ne_empty, name.shape.1, name.tidy_text.trim_eq, name.isEscaped_eq.symm,
    name.isPlain_eq, name.unescaped_ne_empty, name.backtick_not_mem_unescaped,
    fun escaped => ⟨slice?_text escaped, (quoted_unescaped escaped).1.symm⟩, unescaped_of_plain⟩

/-- Letters of two bytes, between backticks with a blank and without backticks. -/
theorem accepted_text_safe_accents :
    ∃ escaped plain, ofText "`é à`" = .ok escaped ∧ ofText "é_à" = .ok plain ∧
      Text.slice? "`é à`" 1 6 = some escaped.unescaped ∧
      "`" ++ escaped.unescaped ++ "`" = "`é à`" ∧ plain.unescaped = "é_à" ∧
      Text.trim "é_à" = "é_à" := by
  have escaped_accepted : ofText "`é à`" = .ok ⟨"`é à`", by rfl⟩ := by rfl
  have plain_accepted : ofText "é_à" = .ok ⟨"é_à", by rfl⟩ := by rfl
  obtain ⟨-, -, -, -, -, -, -, -, inside, -⟩ := accepted_text_safe escaped_accepted
  obtain ⟨-, -, -, trimmed, -, -, -, -, -, whole⟩ := accepted_text_safe plain_accepted
  obtain ⟨cut, quoted⟩ := inside (by rfl)
  exact ⟨_, _, escaped_accepted, plain_accepted, cut, quoted, whole (by rfl), trimmed⟩

end SimpleName

end SymbolResolver
