import SymbolResolver.Json.Print
import SymbolResolver.Json.Reader
import SymbolResolver.Text.Blank

/-!
# Written documents

The text of a document is scanned back as that document, provided that its strings are readable and
its numbers are spelled in the one way in which natural numbers are written. Spaces between the
tokens make no difference, so this holds of every layout (`Layout.reads`): of the compact one and
of the one with a line for every item. What follows a document in a text must not look like more
digits of a number, which holds wherever a list or a record goes on or ends.
-/

namespace SymbolResolver

namespace Json

/-! ## Strings -/

theorem consUnit_some (unit : StringUnit) (units : List StringUnit) (rest : List Char) :
    consUnit unit (some (units, rest)) = some (unit :: units, rest) := rfl

theorem scanUnits_plain {char : Char} (notQuote : char ≠ '\"') (notBackslash : char ≠ '\\')
    (printable : ¬ char.toNat < 0x20) (rest : List Char) :
    scanUnits (char :: rest) = consUnit (.char char) (scanUnits rest) := by
  rw [scanUnits]
  · simp [notBackslash, printable]
  · exact notQuote
  · intro first second third fourth tail same _
    exact notBackslash same
  · intro escape tail same _
    exact notBackslash same

/-- The last hexadecimal digit of what is left of a number without its last digits. -/
abbrev digitAt (position number : Nat) : Char :=
  Text.hexDigit ((number >>> (4 * position)) % 16)

theorem hexUnit?_digitAt : ∀ code < 0x20,
    hexUnit? (digitAt 3 code) (digitAt 2 code) (digitAt 1 code) (digitAt 0 code) =
      some (.char (Char.ofNat code)) := by
  decide

theorem scanUnits_control {char : Char} (control : char.toNat < 0x20) (rest : List Char) :
    scanUnits ('\\' :: 'u' :: Text.fixedHexDigits 4 char.toNat ++ rest) =
      consUnit (.char char) (scanUnits rest) := by
  have digits : Text.fixedHexDigits 4 char.toNat =
      [digitAt 3 char.toNat, digitAt 2 char.toNat, digitAt 1 char.toNat, digitAt 0 char.toNat] :=
    rfl
  simp [digits, scanUnits, hexUnit?_digitAt _ control]

/-- An escaped character is read as that character. -/
theorem scanUnits_escapeChar (char : Char) (rest : List Char) :
    scanUnits (escapeChar char ++ rest) = consUnit (.char char) (scanUnits rest) := by
  unfold escapeChar
  split
  case h_8 notQuote notBackslash _ _ _ _ _ =>
    split
    · rename_i control
      exact scanUnits_control control rest
    · rename_i printable
      exact scanUnits_plain notQuote notBackslash printable rest
  all_goals simp [scanUnits, shortEscape?]

theorem scanUnits_flatMap_escapeChar (chars rest : List Char) :
    scanUnits (chars.flatMap escapeChar ++ '\"' :: rest) = some (chars.map .char, rest) := by
  induction chars with
  | nil => rfl
  | cons char chars ih =>
      rw [List.flatMap_cons, List.append_assoc, scanUnits_escapeChar, ih, consUnit_some,
        List.map_cons]

theorem spell?_map_char (chars : List Char) : spell? (chars.map .char) = some chars := by
  induction chars with
  | nil => rfl
  | cons char chars ih => rw [List.map_cons, spell?, ih, Option.map_some]

/-- A written string is read as its content. -/
theorem scanString_flatMap_escapeChar (content : String) (rest : List Char) :
    scanString (content.toList.flatMap escapeChar ++ '\"' :: rest) = some (some content, rest) := by
  simp [scanString, scanUnits_flatMap_escapeChar, spell?_map_char]

/-! ## Numbers -/

/-- Nothing in front of these characters can be made a longer number by them. -/
def EndsNumber (rest : List Char) : Prop :=
  ∀ char ∈ rest.head?, isDigit char = false ∧ char ≠ '.' ∧ char ≠ 'e' ∧ char ≠ 'E'

theorem isDigit_eq (char : Char) : isDigit char = char.isDigit := by
  simp [isDigit, Char.isDigit, Char.le_def]

theorem isDigit_of_mem_toDigits {value : Nat} {char : Char}
    (member : char ∈ Nat.toDigits 10 value) : isDigit char = true := by
  rw [isDigit_eq]
  exact Nat.isDigit_of_mem_toDigits (by omega) (by omega) member

theorem isSpace_of_isDigit {char : Char} (digit : isDigit char = true) : isSpace char = false := by
  apply Bool.eq_false_iff.mpr
  intro space
  simp only [isSpace, Bool.or_eq_true, beq_iff_eq] at space
  rcases space with ((rfl | rfl) | rfl) | rfl <;> exact absurd digit (by decide)

theorem digitsValue_toDigits (value : Nat) : digitsValue (Nat.toDigits 10 value) = value :=
  Nat.ofDigitChars_toDigits (by omega) (by omega)

theorem naturalValue?_toDigits (value : Nat) :
    naturalValue? (String.ofList (Nat.toDigits 10 value)) = some value := by
  have digits : (Nat.toDigits 10 value).all isDigit = true :=
    List.all_eq_true.mpr fun _ => isDigit_of_mem_toDigits
  rw [naturalValue?, String.toList_ofList, if_pos ⟨Nat.toDigits_ne_nil, digits⟩,
    digitsValue_toDigits]

theorem exists_toDigits_cons (value : Nat) :
    ∃ first digits, Nat.toDigits 10 value = first :: digits ∧ isDigit first = true := by
  obtain ⟨first, digits, split⟩ :=
    List.exists_cons_of_ne_nil (Nat.toDigits_ne_nil (b := 10) (n := value))
  have member : first ∈ Nat.toDigits 10 value := split ▸ List.mem_cons_self
  exact ⟨first, digits, split, isDigit_of_mem_toDigits member⟩

/-- The first digit of a number is a zero only if it is the only digit. -/
theorem toDigits_eq_zero_cons {value : Nat} {digits : List Char}
    (leading : Nat.toDigits 10 value = '0' :: digits) : digits = [] := by
  induction value using Nat.strongRecOn generalizing digits with
  | ind value ih =>
      rw [Nat.toDigits_eq_if (by omega)] at leading
      split at leading
      · exact (List.cons.inj leading).2.symm
      · rename_i large
        obtain ⟨first, more, split, -⟩ := exists_toDigits_cons (value / 10)
        rw [split, List.cons_append] at leading
        obtain ⟨rfl, -⟩ := List.cons.inj leading
        have alone := ih (value / 10) (by omega) split
        have zero : digitsValue (Nat.toDigits 10 (value / 10)) = 0 := by
          rw [split, alone]
          rfl
        rw [digitsValue_toDigits] at zero
        omega

theorem takeWhile_isDigit {digits rest : List Char} (all : ∀ char ∈ digits, isDigit char = true)
    (ends : EndsNumber rest) : (digits ++ rest).takeWhile isDigit = digits := by
  rw [List.takeWhile_append_of_pos all]
  cases rest with
  | nil => simp
  | cons char rest =>
      obtain ⟨other, -⟩ := ends char rfl
      simp [other]

theorem dropWhile_isDigit {digits rest : List Char} (all : ∀ char ∈ digits, isDigit char = true)
    (ends : EndsNumber rest) : (digits ++ rest).dropWhile isDigit = rest := by
  rw [List.dropWhile_append_of_pos all]
  cases rest with
  | nil => rfl
  | cons char rest =>
      obtain ⟨other, -⟩ := ends char rfl
      simp [other]

theorem scanWhole_toDigits (value : Nat) {rest : List Char} (ends : EndsNumber rest) :
    scanWhole (Nat.toDigits 10 value ++ rest) = some (Nat.toDigits 10 value, rest) := by
  have digits : ∀ char ∈ Nat.toDigits 10 value, isDigit char = true :=
    fun _ => isDigit_of_mem_toDigits
  obtain ⟨first, more, split, -⟩ := exists_toDigits_cons value
  by_cases zero : first = '0'
  · subst zero
    obtain rfl := toDigits_eq_zero_cons split
    rw [split]
    rfl
  · have whole : scanWhole (Nat.toDigits 10 value ++ rest) =
        scanDigits (Nat.toDigits 10 value ++ rest) := by
      rw [split, List.cons_append, scanWhole]
      intro tail same
      exact zero (List.cons.inj same).1
    rw [whole, scanDigits, takeWhile_isDigit digits ends, dropWhile_isDigit digits ends, split]

theorem scanFraction_of_ends {rest : List Char} (ends : EndsNumber rest) :
    scanFraction rest = some ([], rest) := by
  rw [scanFraction]
  rintro tail rfl
  exact (ends '.' rfl).2.1 rfl

theorem scanExponent_of_ends {rest : List Char} (ends : EndsNumber rest) :
    scanExponent rest = some ([], rest) := by
  cases rest with
  | nil => rfl
  | cons char rest =>
      obtain ⟨-, -, notSmall, notLarge⟩ := ends char rfl
      simp [scanExponent, notSmall, notLarge]

theorem scanNumber_toDigits (value : Nat) {rest : List Char} (ends : EndsNumber rest) :
    scanNumber (Nat.toDigits 10 value ++ rest) = some (Nat.toDigits 10 value, rest) := by
  have unsigned : scanNumber (Nat.toDigits 10 value ++ rest) =
      scanUnsigned (Nat.toDigits 10 value ++ rest) := by
    rw [scanNumber]
    intro tail same
    obtain ⟨first, more, split, digit⟩ := exists_toDigits_cons value
    rw [split, List.cons_append] at same
    rw [(List.cons.inj same).1] at digit
    exact absurd digit (by decide)
  rw [unsigned, scanUnsigned, scanWhole_toDigits value ends]
  simp [scanFraction_of_ends ends, scanExponent_of_ends ends]

/-! ## Values -/

/-- Entries whose keys are readable. -/
abbrev keyed (entries : List (String × Document)) : List (Option String × Document) :=
  entries.map fun entry => (some entry.1, entry.2)

namespace Document

theorem fields_eq (entries : List (String × Document)) : fields entries = record (keyed entries) :=
  rfl

/-- A document that is written without loss: its strings and keys are readable, and its numbers are
natural numbers without leading zeros. -/
inductive Written : Document → Prop
  | null : Written null
  | boolean (value : Bool) : Written (boolean value)
  | natural (value : Nat) : Written (natural value)
  | text (content : String) : Written (text content)
  | list {items : List Document} : (∀ item ∈ items, Written item) → Written (list items)
  | fields {entries : List (String × Document)} :
      (∀ entry ∈ entries, Written entry.2) → Written (fields entries)

end Document

/-- Characters that may stand between tokens. -/
def Spaces (chars : List Char) : Prop := ∀ char ∈ chars, isSpace char = true

theorem skipSpaces_cons {char : Char} (solid : isSpace char = false) (rest : List Char) :
    skipSpaces (char :: rest) = char :: rest := by
  simp [skipSpaces, solid]

theorem Spaces.skip {gap : List Char} (spaces : Spaces gap) (chars : List Char) :
    skipSpaces (gap ++ chars) = skipSpaces chars :=
  List.dropWhile_append_of_pos spaces

theorem skipSpaces_skipSpaces (chars : List Char) :
    skipSpaces (skipSpaces chars) = skipSpaces chars :=
  Text.dropWhile_dropWhile isSpace chars

theorem endsNumber_cons {char : Char} (notDigit : isDigit char = false) (notPoint : char ≠ '.')
    (notSmall : char ≠ 'e') (notLarge : char ≠ 'E') (rest : List Char) :
    EndsNumber (char :: rest) := by
  rintro first same
  obtain rfl := Option.mem_some.mp same
  exact ⟨notDigit, notPoint, notSmall, notLarge⟩

theorem endsNumber_comma (rest : List Char) : EndsNumber (',' :: rest) :=
  endsNumber_cons (by decide) (by decide) (by decide) (by decide) rest

theorem endsNumber_bracket (rest : List Char) : EndsNumber (']' :: rest) :=
  endsNumber_cons (by decide) (by decide) (by decide) (by decide) rest

theorem endsNumber_brace (rest : List Char) : EndsNumber ('\x7d' :: rest) :=
  endsNumber_cons (by decide) (by decide) (by decide) (by decide) rest

/-- A space ends a number as well. -/
theorem Spaces.endsNumber {gap rest : List Char} (spaces : Spaces gap) (ends : EndsNumber rest) :
    EndsNumber (gap ++ rest) := by
  cases gap with
  | nil => exact ends
  | cons char gap =>
      have space := spaces char List.mem_cons_self
      simp only [isSpace, Bool.or_eq_true, beq_iff_eq] at space
      rcases space with ((rfl | rfl) | rfl) | rfl <;>
        exact endsNumber_cons (by decide) (by decide) (by decide) (by decide) _

theorem scanValue_skipSpaces (fuel : Nat) (chars : List Char) :
    scanValue fuel (skipSpaces chars) = scanValue fuel chars := by
  cases fuel with
  | zero => rw [scanValue, scanValue]
  | succ fuel => rw [scanValue, scanValue, skipSpaces_skipSpaces]

theorem scanItems_skipSpaces (fuel : Nat) (chars : List Char) :
    scanItems fuel (skipSpaces chars) = scanItems fuel chars := by
  cases fuel with
  | zero => rw [scanItems, scanItems]
  | succ fuel => rw [scanItems, scanItems, scanValue_skipSpaces]

theorem scanEntries_skipSpaces (fuel : Nat) (chars : List Char) :
    scanEntries fuel (skipSpaces chars) = scanEntries fuel chars := by
  cases fuel with
  | zero => rw [scanEntries, scanEntries]
  | succ fuel => rw [scanEntries, scanEntries, skipSpaces_skipSpaces]

/-- A text is read as a document wherever it stands. The fuel is twice its length. -/
def Reads (text : List Char) (document : Document) : Prop :=
  ∀ (fuel : Nat) (rest : List Char), 2 * text.length ≤ fuel → EndsNumber rest →
    scanValue fuel (text ++ rest) = (document, some rest)

namespace Reads

variable {text gap : List Char} {document : Document}

/-- Any fuel is enough for a text without parts. -/
theorem of_scans (nonempty : text ≠ []) (scans : ∀ (fuel : Nat) (rest : List Char),
    EndsNumber rest → scanValue (fuel + 1) (text ++ rest) = (document, some rest)) :
    Reads text document := by
  intro fuel rest enough ends
  have long := List.length_pos_iff.mpr nonempty
  obtain ⟨fuel, rfl⟩ : ∃ less, fuel = less + 1 := ⟨fuel - 1, by omega⟩
  exact scans fuel rest ends

theorem behind (spaces : Spaces gap) (reads : Reads text document) :
    Reads (gap ++ text) document := by
  intro fuel rest enough ends
  rw [List.append_assoc, ← scanValue_skipSpaces, spaces.skip, scanValue_skipSpaces]
  rw [List.length_append] at enough
  exact reads fuel rest (by omega) ends

/-- No value begins with a bracket that closes. -/
theorem not_closing (reads : Reads text document) {rest : List Char} (ends : EndsNumber rest) :
    ∀ after, skipSpaces (text ++ rest) ≠ ']' :: after := by
  intro after closing
  have found := reads (2 * text.length + 1) rest (by omega) ends
  rw [scanValue, closing] at found
  cases found

end Reads

/-- Texts between commas. -/
def commas (texts : List (List Char)) : List Char := [','].intercalate texts

theorem commas_singleton (text : List Char) : commas [text] = text := by
  simp [commas]

theorem commas_cons {texts : List (List Char)} (nonempty : texts ≠ []) (text : List Char) :
    commas (text :: texts) = text ++ ',' :: commas texts := by
  simp [commas, List.intercalate_cons_of_ne_nil nonempty]

/-- What is written with a comma behind all but the last item. -/
theorem eq_commas {α : Type} (write : List α → List Char) {text : α → List Char}
    (none : write [] = []) (one : ∀ item, write [item] = text item)
    (more : ∀ item second items,
      write (item :: second :: items) = text item ++ ',' :: write (second :: items))
    (items : List α) : write items = commas (items.map text) := by
  induction items with
  | nil => exact none
  | cons item items ih =>
      cases items with
      | nil => rw [one, List.map_singleton, commas_singleton]
      | cons second items =>
          have others_ne : (second :: items).map text ≠ [] := by simp
          rw [more, ih, ← commas_cons others_ne]
          rfl

section Parts

variable {gap : List Char} {rest : List Char}

theorem scanItems_commas {items : List Document} {text : Document → List Char}
    (nonempty : items ≠ []) (reads : ∀ item ∈ items, Reads (text item) item) (spaces : Spaces gap)
    (fuel : Nat) (enough : 2 * (commas (items.map text)).length < fuel) :
    scanItems fuel (commas (items.map text) ++ (gap ++ ']' :: rest)) = (items, some rest) := by
  induction items generalizing fuel with
  | nil => exact absurd rfl nonempty
  | cons item items ih =>
      obtain ⟨fuel, rfl⟩ := Nat.exists_eq_succ_of_ne_zero (Nat.ne_zero_of_lt enough)
      rw [List.forall_mem_cons] at reads
      by_cases last : items = []
      · subst last
        rw [List.map_singleton, commas_singleton] at enough ⊢
        rw [scanItems, reads.1 fuel _ (by omega) (spaces.endsNumber (endsNumber_bracket rest))]
        simp only [spaces.skip, skipSpaces_cons (show isSpace ']' = false from rfl)]
      · have others_ne : items.map text ≠ [] := by simpa using last
        rw [List.map_cons, commas_cons others_ne, List.length_append, List.length_cons] at enough
        have others := ih last reads.2 fuel (by omega)
        rw [List.map_cons, commas_cons others_ne, List.append_assoc, List.cons_append, scanItems,
          reads.1 fuel _ (by omega) (endsNumber_comma _)]
        simp only [skipSpaces_cons (show isSpace ',' = false from rfl), others]

/-- An entry with spaces in front of it. -/
def entryText (lead : List Char) (key : String) (value : List Char) : List Char :=
  lead ++ stringChars key ++ ':' :: value

theorem stringChars_append (content : String) (rest : List Char) :
    stringChars content ++ rest = '\"' :: (content.toList.flatMap escapeChar ++ '\"' :: rest) := by
  simp [stringChars]

/-- An entry is read, and what follows tells whether it is the last one. -/
theorem scanEntries_entry {lead text after rest : List Char} {key : String} {value : Document}
    (spaces : Spaces lead) (reads : Reads text value) {fuel : Nat}
    (enough : 2 * text.length ≤ fuel) (ends : EndsNumber after) :
    (skipSpaces after = ',' :: rest →
      scanEntries (fuel + 1) (entryText lead key text ++ after) =
        ((some key, value) :: (scanEntries fuel rest).1, (scanEntries fuel rest).2)) ∧
    (skipSpaces after = '\x7d' :: rest →
      scanEntries (fuel + 1) (entryText lead key text ++ after) =
        ([(some key, value)], some rest)) := by
  rw [entryText, List.append_assoc, List.append_assoc, List.cons_append, scanEntries, spaces.skip,
    stringChars_append, skipSpaces_cons (by decide)]
  simp only [scanString_flatMap_escapeChar]
  rw [skipSpaces_cons (by decide)]
  simp only [reads fuel after enough ends]
  exact ⟨fun comma => by simp only [comma], fun brace => by simp only [brace]⟩

theorem scanEntries_commas {entries : List (String × Document)} {lead : List Char}
    {text : String × Document → List Char} (nonempty : entries ≠ []) (front : Spaces lead)
    (reads : ∀ entry ∈ entries, Reads (text entry) entry.2) (spaces : Spaces gap) (fuel : Nat)
    (enough : 2 * (commas (entries.map fun entry =>
      entryText lead entry.1 (text entry))).length < fuel) :
    scanEntries fuel (commas (entries.map fun entry => entryText lead entry.1 (text entry)) ++
      (gap ++ '\x7d' :: rest)) = (keyed entries, some rest) := by
  induction entries generalizing fuel with
  | nil => exact absurd rfl nonempty
  | cons entry entries ih =>
      obtain ⟨fuel, rfl⟩ := Nat.exists_eq_succ_of_ne_zero (Nat.ne_zero_of_lt enough)
      rw [List.forall_mem_cons] at reads
      have longer : (text entry).length ≤ (entryText lead entry.1 (text entry)).length := by
        simp only [entryText, List.length_append, List.length_cons]
        omega
      by_cases last : entries = []
      · subst last
        rw [List.map_singleton, commas_singleton] at enough ⊢
        have enough_entry : 2 * (text entry).length ≤ fuel := by omega
        have brace : skipSpaces (gap ++ '\x7d' :: rest) = '\x7d' :: rest :=
          (spaces.skip _).trans (skipSpaces_cons (by decide) rest)
        exact (scanEntries_entry front reads.1 enough_entry
          (spaces.endsNumber (endsNumber_brace rest))).2 brace
      · have others_ne : entries.map (fun entry => entryText lead entry.1 (text entry)) ≠ [] := by
          simpa using last
        rw [List.map_cons, commas_cons others_ne, List.length_append, List.length_cons] at enough
        have others := ih last reads.2 fuel (by omega)
        have enough_entry : 2 * (text entry).length ≤ fuel := by omega
        rw [List.map_cons, commas_cons others_ne, List.append_assoc, List.cons_append,
          (scanEntries_entry front reads.1 enough_entry (endsNumber_comma _)).1
            (skipSpaces_cons (by decide) _), others]
        rfl

/-- A list that is not over at once has items. -/
theorem scanValue_list {fuel : Nat} {chars : List Char}
    (inside : ∀ after, skipSpaces chars ≠ ']' :: after) :
    scanValue (fuel + 1) ('[' :: chars) =
      (.list (scanItems fuel chars).1, (scanItems fuel chars).2) := by
  rw [scanValue, skipSpaces_cons (by decide)]
  simp only [scanItems_skipSpaces]

theorem scanValue_record {fuel : Nat} {chars : List Char}
    (inside : ∀ after, skipSpaces chars ≠ '\x7d' :: after) :
    scanValue (fuel + 1) ('\x7b' :: chars) =
      (.record (scanEntries fuel chars).1, (scanEntries fuel chars).2) := by
  rw [scanValue, skipSpaces_cons (by decide)]
  simp only [scanEntries_skipSpaces]

theorem reads_list {items : List Document} {text : Document → List Char} (nonempty : items ≠ [])
    (reads : ∀ item ∈ items, Reads (text item) item) (spaces : Spaces gap) :
    Reads ('[' :: commas (items.map text) ++ gap ++ [']']) (.list items) := by
  intro fuel rest enough _
  simp only [List.cons_append, List.length_cons, List.length_append, List.length_nil] at enough
  obtain ⟨fuel, rfl⟩ : ∃ less, fuel = less + 1 := ⟨fuel - 1, by omega⟩
  have inside : ∀ after,
      skipSpaces (commas (items.map text) ++ (gap ++ ']' :: rest)) ≠ ']' :: after := by
    obtain ⟨item, items, rfl⟩ := List.exists_cons_of_ne_nil nonempty
    have first := reads item List.mem_cons_self
    by_cases last : items = []
    · rw [last, List.map_singleton, commas_singleton]
      exact first.not_closing (spaces.endsNumber (endsNumber_bracket rest))
    · rw [List.map_cons, commas_cons (by simpa using last), List.append_assoc]
      exact first.not_closing (endsNumber_comma _)
  simp only [List.cons_append, List.append_assoc, List.nil_append]
  rw [scanValue_list inside, scanItems_commas nonempty reads spaces fuel (by omega)]

theorem reads_fields {entries : List (String × Document)} {lead : List Char}
    {text : String × Document → List Char} (nonempty : entries ≠ []) (front : Spaces lead)
    (reads : ∀ entry ∈ entries, Reads (text entry) entry.2) (spaces : Spaces gap) :
    Reads ('\x7b' :: commas (entries.map fun entry => entryText lead entry.1 (text entry)) ++ gap ++
      ['\x7d']) (.fields entries) := by
  intro fuel rest enough _
  simp only [List.cons_append, List.length_cons, List.length_append, List.length_nil] at enough
  obtain ⟨fuel, rfl⟩ : ∃ less, fuel = less + 1 := ⟨fuel - 1, by omega⟩
  have inside : ∀ after, skipSpaces (commas (entries.map fun entry =>
      entryText lead entry.1 (text entry)) ++ (gap ++ '\x7d' :: rest)) ≠ '\x7d' :: after := by
    obtain ⟨entry, entries, rfl⟩ := List.exists_cons_of_ne_nil nonempty
    obtain ⟨more, begins⟩ : ∃ more, commas ((entry :: entries).map fun entry =>
        entryText lead entry.1 (text entry)) = lead ++ '\"' :: more := by
      by_cases last : entries = []
      · rw [last, List.map_singleton, commas_singleton, entryText, List.append_assoc,
          stringChars_append]
        exact ⟨_, rfl⟩
      · rw [List.map_cons, commas_cons (by simpa using last), entryText, List.append_assoc,
          List.append_assoc, stringChars_append]
        exact ⟨_, rfl⟩
    rw [begins, List.append_assoc, front.skip, List.cons_append, skipSpaces_cons (by decide)]
    exact fun after same => absurd (List.cons.inj same).1 (by decide)
  simp only [List.cons_append, List.append_assoc, List.nil_append]
  rw [scanValue_record inside, scanEntries_commas nonempty front reads spaces fuel (by omega),
    Document.fields_eq]

end Parts

/-! ## Layouts -/

/-- A number is tried last: a digit begins nothing else. -/
theorem scanValue_toDigits (value fuel : Nat) {rest : List Char} (ends : EndsNumber rest) :
    scanValue (fuel + 1) (Nat.toDigits 10 value ++ rest) = (.natural value, some rest) := by
  have number := scanNumber_toDigits value ends
  obtain ⟨first, more, split, digit⟩ := exists_toDigits_cons value
  have other : ∀ char, isDigit char = false → first ≠ char := by
    rintro char plain rfl
    exact absurd digit (by simp [plain])
  rw [Document.natural]
  rw [split, List.cons_append] at number ⊢
  rw [scanValue, skipSpaces_cons (isSpace_of_isDigit digit)]
  split
  case h_7 => simp only [number]
  all_goals
    rename_i same
    exact absurd (List.cons.inj same).1 (other _ (by decide))

/-- A way to print documents. The items of a list and the entries of a record stand between commas,
and there may be spaces in front of each of them, in front of the closing bracket and behind a
colon. -/
structure Layout where
  /-- The text of a document at a depth. -/
  chars : Nat → Document → List Char
  /-- The spaces in front of whatever stands at a depth. -/
  gap : Nat → List Char
  /-- The spaces behind a colon. -/
  colon : List Char
  gap_spaces : ∀ depth, Spaces (gap depth)
  colon_spaces : Spaces colon
  scalar : ∀ depth {document : Document}, document.depth = 0 →
    chars depth document = document.compactChars
  list_nil : ∀ depth, chars depth (.list []) = ['[', ']']
  record_nil : ∀ depth, chars depth (.record []) = ['\x7b', '\x7d']
  list : ∀ depth {items : List Document}, items ≠ [] → chars depth (.list items) =
    '[' :: commas (items.map fun item => gap (depth + 1) ++ chars (depth + 1) item) ++ gap depth ++
      [']']
  fields : ∀ depth {entries : List (String × Document)}, entries ≠ [] →
    chars depth (.fields entries) =
      '\x7b' :: commas (entries.map fun entry =>
        entryText (gap (depth + 1)) entry.1 (colon ++ chars (depth + 1) entry.2)) ++ gap depth ++
      ['\x7d']

/-- In every layout the text of a written document is read back as that document. -/
theorem Layout.reads (layout : Layout) {document : Document} (written : document.Written)
    (depth : Nat) : Reads (layout.chars depth document) document := by
  induction written generalizing depth with
  | null =>
      rw [layout.scalar depth rfl]
      exact .of_scans (List.cons_ne_nil _ _) fun _ _ _ => rfl
  | boolean value =>
      rw [layout.scalar depth rfl]
      cases value <;> exact .of_scans (List.cons_ne_nil _ _) fun _ _ _ => rfl
  | natural value =>
      rw [layout.scalar depth rfl, Document.natural, Document.compactChars, String.toList_ofList]
      -- Only a number needs to know what comes after it: another digit would belong to it.
      exact .of_scans Nat.toDigits_ne_nil fun fuel _ ends => scanValue_toDigits value fuel ends
  | text content =>
      rw [layout.scalar depth rfl, Document.compactChars]
      refine .of_scans (List.cons_ne_nil _ _) fun fuel rest _ => ?_
      rw [stringChars_append, scanValue, skipSpaces_cons (by decide)]
      simp only [scanString_flatMap_escapeChar]
  | @list items _ ih =>
      by_cases empty : items = []
      · rw [empty, layout.list_nil]
        exact .of_scans (List.cons_ne_nil _ _) fun _ _ _ => rfl
      · rw [layout.list depth empty]
        exact reads_list empty
          (fun item member => (ih item member _).behind (layout.gap_spaces _))
          (layout.gap_spaces depth)
  | @fields entries _ ih =>
      by_cases empty : entries = []
      · rw [empty, Document.fields_eq, keyed, List.map_nil, layout.record_nil]
        exact .of_scans (List.cons_ne_nil _ _) fun _ _ _ => rfl
      · rw [layout.fields depth empty]
        exact reads_fields empty (layout.gap_spaces _)
          (fun entry member => (ih entry member _).behind layout.colon_spaces)
          (layout.gap_spaces depth)

namespace Document

theorem compactItems_eq (items : List Document) :
    compactItems items = commas (items.map compactChars) :=
  eq_commas compactItems rfl (fun _ => rfl) (fun _ _ _ => rfl) items

theorem compactEntries_eq (entries : List (String × Document)) :
    compactEntries (keyed entries) =
      commas (entries.map fun entry => entryText [] entry.1 entry.2.compactChars) :=
  eq_commas (fun entries => compactEntries (keyed entries)) rfl (fun _ => rfl) (fun _ _ _ => rfl)
    entries

theorem prettyItems_eq (depth : Nat) (items : List Document) :
    prettyItems depth items =
      commas (items.map fun item => newLine depth ++ item.prettyChars depth) :=
  eq_commas (prettyItems depth) rfl (fun _ => rfl) (fun _ _ _ => rfl) items

theorem prettyEntries_eq (depth : Nat) (entries : List (String × Document)) :
    prettyEntries depth (keyed entries) =
      commas (entries.map fun entry =>
        entryText (newLine depth) entry.1 (' ' :: entry.2.prettyChars depth)) :=
  eq_commas (fun entries => prettyEntries depth (keyed entries)) rfl (fun _ => rfl)
    (fun _ _ _ => rfl) entries

end Document

theorem spaces_newLine (depth : Nat) : Spaces (newLine depth) := by
  intro char member
  rcases List.mem_cons.mp member with rfl | blank
  · rfl
  · rw [List.eq_of_mem_replicate blank]
    rfl

/-- Without any spaces. -/
def Layout.compact : Layout where
  chars _ := Document.compactChars
  gap _ := []
  colon := []
  gap_spaces _ := nofun
  colon_spaces := nofun
  scalar _ _ _ := rfl
  list_nil _ := rfl
  record_nil _ := rfl
  list depth items _ := by
    rw [Document.compactChars, Document.compactItems_eq]
    simp
  fields depth entries _ := by
    rw [Document.fields_eq, Document.compactChars, Document.compactEntries_eq]
    simp

/-- With one line for every item and every entry. -/
def Layout.pretty : Layout where
  chars depth document := document.prettyChars depth
  gap := newLine
  colon := [' ']
  gap_spaces := spaces_newLine
  colon_spaces := by simp [Spaces, isSpace]
  scalar depth document flat := by
    cases document with
    | list items => cases flat
    | record entries => cases flat
    | _ => rfl
  list_nil _ := rfl
  record_nil _ := rfl
  list depth items nonempty := by
    obtain ⟨item, items, rfl⟩ := List.exists_cons_of_ne_nil nonempty
    rw [Document.prettyChars, Document.prettyItems_eq]
    nofun
  fields depth entries nonempty := by
    obtain ⟨entry, entries, rfl⟩ := List.exists_cons_of_ne_nil nonempty
    rw [Document.fields_eq, Document.prettyChars, Document.prettyEntries_eq]
    · simp
    · nofun

namespace Document

/-- A text in any layout is scanned to its end. -/
theorem Written.scan_layout {document : Document} (written : document.Written) (layout : Layout) :
    scan (String.ofList (layout.chars 0 document)) = (document, true) := by
  have scanned := layout.reads written 0 (2 * (layout.chars 0 document).length + 2) []
    (by omega) (by simp [EndsNumber])
  rw [List.append_nil] at scanned
  simp [scan, scanned, skipSpaces]

theorem Written.readText_layout {α : Type} {document : Document} (written : document.Written)
    (layout : Layout) (reader : Reader α) :
    readText reader (String.ofList (layout.chars 0 document)) = reader document := by
  simp only [readText, written.scan_layout, if_true]
  exact bind_pure (reader document)

/-- A reader finds in a written text what it finds in the document. -/
theorem Written.readText_compact {α : Type} {document : Document} (written : document.Written)
    (reader : Reader α) : readText reader document.compact = reader document :=
  written.readText_layout .compact reader

theorem Written.readText_pretty {α : Type} {document : Document} (written : document.Written)
    (reader : Reader α) : readText reader document.pretty = reader document :=
  written.readText_layout .pretty reader

end Document

end Json

end SymbolResolver
