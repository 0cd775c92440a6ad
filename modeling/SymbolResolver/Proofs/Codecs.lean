import Mathlib.Control.Monad.Basic
import SymbolResolver.Codec.Resolution
import SymbolResolver.Proofs.Documents

/-!
# Round trips

Reading accepts more than writing produces: records as lists, fields in any order, absent and
unknown fields, blanks around names, keys twice in a table. Whatever has been read is written in one
way, though, and read back from it unchanged. A reader and a writer with that property fit together,
and fitting is closed under everything that the readers and writers of this library are made of.
-/

namespace SymbolResolver

open Json
open Json.Reader (Field field visit fieldsOf required defaulted)

section Results

variable {α β ε : Type}

theorem bind_eq_ok {first : Except ε α} {next : α → Except ε β} {result : β} :
    (first >>= next) = .ok result ↔ ∃ value, first = .ok value ∧ next value = .ok result := by
  cases first with
  | error fault => exact ⟨nofun, nofun⟩
  | ok value =>
      refine ⟨fun found => ⟨value, rfl, found⟩, ?_⟩
      rintro ⟨_, same, found⟩
      cases same
      exact found

theorem map_eq_ok {first : Except ε α} {image : α → β} {result : β} :
    first.map image = .ok result ↔ ∃ value, first = .ok value ∧ image value = result := by
  cases first with
  | error fault => exact ⟨nofun, nofun⟩
  | ok value => simp [Except.map]

theorem exists_of_mem_mapM {work : α → Except ε β} {items : List α} {results : List β}
    (found : items.mapM work = .ok results) :
    ∀ result ∈ results, ∃ item ∈ items, work item = .ok result := by
  induction items generalizing results with
  | nil =>
      cases found
      exact nofun
  | cons item items ih =>
      rw [List.mapM_cons] at found
      obtain ⟨first, given, more⟩ := bind_eq_ok.mp found
      obtain ⟨others, rest, same⟩ := bind_eq_ok.mp more
      cases same
      intro result member
      rcases List.mem_cons.mp member with rfl | later
      · exact ⟨item, List.mem_cons_self, given⟩
      · obtain ⟨source, among, gives⟩ := ih rest result later
        exact ⟨source, List.mem_cons_of_mem _ among, gives⟩

theorem mapM_map_ok {work : α → Except ε β} {image : β → α} {values : List β}
    (back : ∀ value ∈ values, work (image value) = .ok value) :
    (values.map image).mapM work = .ok values := by
  induction values with
  | nil => rfl
  | cons value values ih =>
      rw [List.map_cons, List.mapM_cons, back value List.mem_cons_self,
        ih fun later member => back later (List.mem_cons_of_mem _ member)]
      rfl

end Results

namespace Json

variable {α β : Type} {read : Reader α} {write : α → Document}

/-- A value that is read back as it was written. -/
def Returns (read : Reader α) (write : α → Document) (value : α) : Prop :=
  read (write value) = .ok value

/-- A reader and a writer fit together: all that is written can be scanned, and all that can be read
is read back as it was written. -/
structure Fits (read : Reader α) (write : α → Document) : Prop where
  written : ∀ value, (write value).Written
  returns : ∀ {document value}, read document = .ok value → Returns read write value

/-- Reads a text and prints what it denotes. -/
def reprint (read : Reader α) (write : α → Document) (text : String) : Except ReadError String :=
  (readText read text).map fun value => (write value).compact

/-- Every text that can be read is printed as a text that is read in the same way, and printing what
is read from a printed text changes nothing. -/
def RoundTrips (read : Reader α) (write : α → Document) : Prop :=
  (∀ text value, readText read text = .ok value →
    readText read (write value).compact = .ok value) ∧
  ∀ text printed, reprint read write text = .ok printed → reprint read write printed = .ok printed

theorem exists_document_of_readText {text : String} {value : α}
    (found : readText read text = .ok value) : ∃ document, read document = .ok value := by
  simp only [readText] at found
  obtain ⟨given, gives, last⟩ := bind_eq_ok.mp found
  by_cases atEnd : (scan text).2 = true
  · rw [if_pos atEnd] at last
    cases last
    exact ⟨_, gives⟩
  · rw [if_neg atEnd] at last
    cases last

/-- Printing what was read gives a text that is read in the same way. -/
theorem Fits.readText_compact (fits : Fits read write) {text : String} {value : α}
    (found : readText read text = .ok value) :
    readText read (write value).compact = .ok value := by
  obtain ⟨document, given⟩ := exists_document_of_readText found
  rw [(fits.written value).readText_compact]
  exact fits.returns given

theorem Fits.roundTrips (fits : Fits read write) : RoundTrips read write := by
  refine ⟨fun text value found => fits.readText_compact found, ?_⟩
  intro text printed found
  obtain ⟨value, given, rfl⟩ := map_eq_ok.mp found
  exact map_eq_ok.mpr ⟨value, fits.readText_compact given, rfl⟩

/-! ## Lists, optional values and tags -/

theorem Fits.text : Fits Reader.text Document.text where
  written := .text
  returns _ := rfl

theorem naturalBelow_natural {bound value : Nat} (below : value < bound) :
    Reader.naturalBelow bound (.natural value) = .ok value := by
  rw [Document.natural, Reader.naturalBelow, naturalValue?_toDigits]
  simp only [below, if_true]

theorem lt_of_naturalBelow {bound value : Nat} {document : Document}
    (found : Reader.naturalBelow bound document = .ok value) : value < bound := by
  cases document with
  | number literal =>
      simp only [Reader.naturalBelow] at found
      split at found
      · split at found
        · rename_i below
          cases found
          exact below
        · cases found
      · cases found
  | _ => cases found

theorem Fits.naturalBelow (bound : Nat) : Fits (Reader.naturalBelow bound) Document.natural where
  written := .natural
  returns found := naturalBelow_natural (lt_of_naturalBelow found)

theorem written_list {values : List α} (written : ∀ value, (write value).Written) :
    (Document.list (values.map write)).Written := by
  apply Document.Written.list
  intro item member
  obtain ⟨value, -, rfl⟩ := List.mem_map.mp member
  exact written value

theorem returns_list {values : List α} (returns : ∀ value ∈ values, Returns read write value) :
    Returns (Reader.list read) (fun values => .list (values.map write)) values :=
  mapM_map_ok returns

theorem returns_list_iff (fits : Fits read write) {values : List α} :
    Returns (Reader.list read) (fun values => .list (values.map write)) values ↔
      ∀ value ∈ values, Returns read write value := by
  refine ⟨fun returns value member => ?_, returns_list⟩
  obtain ⟨item, -, given⟩ := exists_of_mem_mapM returns value member
  exact fits.returns given

theorem returns_nil : Returns (Reader.list read) (fun values => .list (values.map write)) [] := rfl

theorem Fits.list (fits : Fits read write) :
    Fits (Reader.list read) fun values => .list (values.map write) where
  written _ := written_list fits.written
  returns := by
    intro document values found
    apply returns_list
    intro value member
    cases document with
    | list items =>
        obtain ⟨item, -, given⟩ := exists_of_mem_mapM found value member
        exact fits.returns given
    | _ => cases found

theorem returns_none : Returns (Reader.optional read) (Document.optional write) none := rfl

/-- Null stands for absence, so it must not be written for a value. -/
theorem Fits.optional (fits : Fits read write) (solid : ∀ value, write value ≠ .null) :
    Fits (Reader.optional read) (Document.optional write) where
  written
    | none => .null
    | some value => fits.written value
  returns := by
    intro document value found
    cases value with
    | none => rfl
    | some value =>
        have given : read document = .ok value := by
          unfold Reader.optional at found
          split at found
          · cases found
          · obtain ⟨_, given, same⟩ := map_eq_ok.mp found
            cases same
            exact given
        have back : read (write value) = .ok value := fits.returns given
        show Reader.optional read (write value) = .ok (some value)
        rw [Reader.optional]
        · rw [back]
          rfl
        · exact solid value

theorem Fits.tagged {ofTag? : String → Option α} {tag : α → String}
    (back : ∀ value, ofTag? (tag value) = some value) :
    Fits (Reader.tagged ofTag?) fun value => .text (tag value) where
  written value := .text (tag value)
  returns := by
    intro _ value _
    simp [Returns, Reader.tagged, back]

/-! ## Records -/

theorem Fits.required (fits : Fits read write) {entries : List (Option String × Document)}
    {name : String} {value : α} (found : required entries name read = .ok value) :
    Returns read write value := by
  unfold Reader.required at found
  split at found
  · exact fits.returns found
  · cases found

theorem Fits.defaulted (fits : Fits read write) {entries : List (Option String × Document)}
    {name : String} {absent value : α} (known : Returns read write absent)
    (found : defaulted entries name absent read = .ok value) : Returns read write value := by
  unfold Reader.defaulted at found
  split at found
  · exact fits.returns found
  · cases found
    exact known

/-- Entries that hold a readable value for every known field, in the order of the fields. -/
inductive Filled : List Field → List (String × Document) → Prop
  | nil : Filled [] []
  | cons {γ : Type} {name : String} {reader : Reader γ} {document : Document} {value : γ}
      {known : List Field} {entries : List (String × Document)} :
      reader document = .ok value → Filled known entries →
        Filled (field name reader :: known) ((name, document) :: entries)

namespace Filled

variable {known : List Field} {entries : List (String × Document)}

theorem names_eq (filled : Filled known entries) :
    entries.map Prod.fst = known.map Field.name := by
  induction filled with
  | nil => rfl
  | cons _ _ ih => rw [List.map_cons, List.map_cons, ih, field]

theorem find?_checks (filled : Filled known entries) (distinct : (known.map Field.name).Nodup)
    {entry : String × Document} (member : entry ∈ entries) :
    ∃ expected, known.find? (·.name == entry.1) = some expected ∧
      expected.check entry.2 = .ok () := by
  induction filled with
  | nil => cases member
  | @cons _ name reader document value known entries found filled ih =>
      obtain ⟨first, others⟩ := List.nodup_cons.mp distinct
      rcases List.mem_cons.mp member with rfl | later
      · refine ⟨field name reader, ?_, ?_⟩
        · simp [field]
        · simp only [field, found, Except.map]
      · have different : name ≠ entry.1 := by
          intro same
          apply first
          rw [← filled.names_eq]
          exact same ▸ List.mem_map_of_mem later
        obtain ⟨expected, finds, checks⟩ := ih others later
        refine ⟨expected, ?_, checks⟩
        rw [List.find?_cons_of_neg, finds]
        simpa [field] using different

/-- Entries under different known names are all visited. -/
theorem visit_keyed {seen : List String} (distinct : (entries.map Prod.fst).Nodup)
    (unseen : ∀ entry ∈ entries, entry.1 ∉ seen)
    (checks : ∀ entry ∈ entries, ∃ expected,
      known.find? (·.name == entry.1) = some expected ∧ expected.check entry.2 = .ok ()) :
    visit known seen (keyed entries) = .ok () := by
  induction entries generalizing seen with
  | nil => rfl
  | cons entry entries ih =>
      obtain ⟨expected, found, checked⟩ := checks entry List.mem_cons_self
      have fresh : seen.contains entry.1 = false := by
        simpa using unseen entry List.mem_cons_self
      obtain ⟨first, others⟩ := List.nodup_cons.mp distinct
      simp only [keyed, List.map_cons, visit, found, fresh, Bool.false_eq_true, if_false, checked]
      apply ih others
      · intro later member
        rw [List.mem_cons, not_or]
        refine ⟨fun same => first ?_, unseen later (List.mem_cons_of_mem _ member)⟩
        exact same ▸ List.mem_map_of_mem member
      · exact fun later member => checks later (List.mem_cons_of_mem _ member)

end Filled

/-- A record that is written with all its fields is visited without complaint. -/
theorem fieldsOf_fields {known : List Field} {entries : List (String × Document)}
    (filled : Filled known entries) (distinct : (known.map Field.name).Nodup) :
    fieldsOf known (.fields entries) = .ok (keyed entries) := by
  have visited : visit known [] (keyed entries) = .ok () := by
    apply Filled.visit_keyed
    · rw [filled.names_eq]
      exact distinct
    · simp
    · exact fun _ => filled.find?_checks distinct
  simp only [fieldsOf, Document.fields_eq, Reader.entriesOf]
  exact bind_eq_ok.mpr ⟨_, rfl, bind_eq_ok.mpr ⟨_, visited, rfl⟩⟩

end Json

/-! ## Names -/

namespace Language

theorem ofFullTag?_tag (language : Language) : ofFullTag? language.tag = some language := by
  cases language <;> decide

theorem read_toDocument (language : Language) : read language.toDocument = .ok language := by
  simp [read, toDocument, Reader.tagged, ofFullTag?_tag]

theorem fits : Fits read toDocument := Fits.tagged ofFullTag?_tag

end Language

namespace LanguageSet

theorem read_toDocument (languages : LanguageSet) : read languages.toDocument = .ok languages := by
  have members : Reader.list Language.read languages.toDocument = .ok languages.toList :=
    returns_list fun language _ => language.read_toDocument
  rw [read, members, Except.map, ofList_toList]

theorem fits : Fits read toDocument where
  written _ := written_list Language.fits.written
  returns _ := read_toDocument _

end LanguageSet

namespace SimpleName

theorem read_toDocument (name : SimpleName) : read name.toDocument = .ok name := by
  have text : Reader.text name.toDocument = .ok name.text := rfl
  exact bind_eq_ok.mpr ⟨_, text, by rw [ofText_text]; rfl⟩

theorem fits : Fits read toDocument where
  written name := .text name.text
  returns _ := read_toDocument _

end SimpleName

namespace PackageName

/-- A package is read back without the blanks around it. -/
theorem read_toDocument (package : PackageName) :
    read package.toDocument = .ok (ofText package.text) := rfl

theorem returns_iff {package : PackageName} :
    Returns read toDocument package ↔ Text.trim package.text = package.text := by
  rcases package with ⟨text⟩
  simp [Returns, read_toDocument, ofText]

theorem returns_default : Returns read toDocument default := returns_iff.mpr (by decide)

theorem trim_of_read {document : Document} {package : PackageName}
    (found : read document = .ok package) : Text.trim package.text = package.text := by
  obtain ⟨given, -, rfl⟩ := map_eq_ok.mp found
  cases given with
  | none => decide
  | some text => exact Text.trim_trim text

theorem fits : Fits read toDocument where
  written package := .text package.text
  returns := by
    intro document package found
    exact returns_iff.mpr (trim_of_read found)

end PackageName

namespace ReferenceName

/-- A reference is read back without the blanks around it. -/
theorem read_toDocument (reference : ReferenceName) :
    read reference.toDocument = .ok (ofText reference.text reference.language) := by
  have name : Reader.text (.text reference.text) = .ok reference.text := rfl
  have language := reference.language.read_toDocument
  simp only [read, bind_eq_ok]
  exact ⟨_, fieldsOf_fields (.cons name (.cons language .nil)) (by decide), _, name, _, language,
    rfl⟩

theorem returns_iff {reference : ReferenceName} :
    Returns read toDocument reference ↔ Text.trim reference.text = reference.text := by
  rcases reference with ⟨text, language⟩
  simp [Returns, read_toDocument, ofText]

theorem trim_of_read {document : Document} {reference : ReferenceName}
    (found : read document = .ok reference) : Text.trim reference.text = reference.text := by
  simp only [read, bind_eq_ok] at found
  obtain ⟨entries, -, text, -, language, -, same⟩ := found
  cases same
  exact Text.trim_trim text

theorem toEntries_written (reference : ReferenceName) :
    ∀ entry ∈ reference.toEntries, entry.2.Written := by
  simp [toEntries, Document.Written.text, Language.fits.written]

theorem fits : Fits read toDocument where
  written reference := .fields reference.toEntries_written
  returns := by
    intro document reference found
    exact returns_iff.mpr (trim_of_read found)

end ReferenceName

namespace DeclaredName

/-- A name that is put together has the given parts and their text, and some language sees it. -/
theorem parts_of_make {package : PackageName} {names : List SimpleName} {languages : LanguageSet}
    {declared : DeclaredName} (made : make package names languages = .ok declared) :
    declared.languages.isEmpty = false ∧
      declared.qualified = qualify declared.package declared.names ∧
      package = declared.package ∧ names = declared.names ∧ languages = declared.languages := by
  unfold make at made
  split at made
  · cases made
  · split at made
    · cases made
    · rename_i seen
      cases made
      exact ⟨by simpa using seen, rfl, rfl, rfl, rfl⟩

/-- The three fields that are written are enough to make the name. -/
theorem read_toDocument {declared : DeclaredName}
    (package : Returns PackageName.read PackageName.toDocument declared.package)
    (made : make declared.package declared.names declared.languages = .ok declared) :
    read declared.toDocument = .ok declared := by
  have names := returns_list fun name (_ : name ∈ declared.names) => name.read_toDocument
  have languages := declared.languages.read_toDocument
  simp only [read, bind_eq_ok]
  refine ⟨_, fieldsOf_fields (.cons package (.cons names (.cons languages .nil))) (by decide),
    _, package, _, names, _, languages, ?_⟩
  rw [made, Reader.named]

theorem toEntries_written (declared : DeclaredName) :
    ∀ entry ∈ declared.toEntries, entry.2.Written := by
  simp [toEntries, PackageName.fits.written, LanguageSet.fits.written,
    written_list SimpleName.fits.written]

theorem returns_of_read {document : Document} {declared : DeclaredName}
    (found : read document = .ok declared) :
    Text.trim declared.package.text = declared.package.text ∧
      make declared.package declared.names declared.languages = .ok declared := by
  simp only [read, bind_eq_ok] at found
  obtain ⟨entries, -, package, package_found, names, -, languages, -, last⟩ := found
  have made : make package names languages = .ok declared := by
    cases result : make package names languages with
    | error fault => rw [result] at last; cases last
    | ok other => rw [result] at last; cases last; rfl
  obtain ⟨-, -, rfl, rfl, rfl⟩ := parts_of_make made
  have package_back := PackageName.fits.defaulted PackageName.returns_default package_found
  exact ⟨PackageName.returns_iff.mp package_back, made⟩

/-- A declared name is read back if its package has no blanks around it and its fields make it. -/
theorem returns_iff {declared : DeclaredName} :
    Returns read toDocument declared ↔
      Text.trim declared.package.text = declared.package.text ∧
        make declared.package declared.names declared.languages = .ok declared := by
  refine ⟨returns_of_read, ?_⟩
  rintro ⟨trimmed, made⟩
  exact read_toDocument (PackageName.returns_iff.mpr trimmed) made

theorem fits : Fits read toDocument where
  written declared := .fields declared.toEntries_written
  returns found := returns_iff.mpr (returns_of_read found)

end DeclaredName

namespace Json

variable {α : Type} {readerOf? : String → Option (Reader α)}

/-! ## Variants -/

/-- A document that comes out of being held back as it was, and that is not nested deeper than a
bound. -/
structure Document.Held (bound : Nat) (document : Document) : Prop where
  isHoldable : Reader.isHoldable document = true
  relaxed_eq : Reader.relaxed document = document
  depth_le : document.depth ≤ bound

namespace Document

variable {bound : Nat}

theorem held_text (content : String) : Held bound (.text content) := ⟨rfl, rfl, Nat.zero_le bound⟩

theorem held_items {items : List Document} (held : ∀ item ∈ items, Held bound item) :
    Reader.itemsHoldable items = true ∧ Reader.relaxedItems items = items ∧
      itemsDepth items ≤ bound := by
  induction items with
  | nil => exact ⟨rfl, rfl, Nat.zero_le bound⟩
  | cons item items ih =>
      rw [List.forall_mem_cons] at held
      obtain ⟨first, others⟩ := held
      obtain ⟨holdable, relaxed, shallow⟩ := ih others
      refine ⟨?_, ?_, ?_⟩
      · rw [Reader.itemsHoldable, first.isHoldable, holdable, Bool.and_true]
      · rw [Reader.relaxedItems, first.relaxed_eq, relaxed]
      · exact Nat.max_le.mpr ⟨first.depth_le, shallow⟩

theorem held_list {items : List Document} (held : ∀ item ∈ items, Held bound item) :
    Held (bound + 1) (.list items) := by
  obtain ⟨holdable, relaxed, shallow⟩ := held_items held
  refine ⟨holdable, ?_, Nat.succ_le_succ shallow⟩
  rw [Reader.relaxed, relaxed]

theorem held_texts (contents : List String) : Held (bound + 1) (.texts contents) := by
  apply held_list
  intro item member
  obtain ⟨content, -, rfl⟩ := List.mem_map.mp member
  exact held_text content

theorem held_entries {entries : List (String × Document)}
    (held : ∀ entry ∈ entries, Held bound entry.2) :
    Reader.entriesHoldable (keyed entries) = true ∧
      Reader.relaxedEntries (keyed entries) = keyed entries ∧
      entriesDepth (keyed entries) ≤ bound := by
  induction entries with
  | nil => exact ⟨rfl, rfl, Nat.zero_le bound⟩
  | cons entry entries ih =>
      rw [List.forall_mem_cons] at held
      obtain ⟨first, others⟩ := held
      obtain ⟨holdable, relaxed, shallow⟩ := ih others
      refine ⟨?_, ?_, ?_⟩
      · simp only [List.map_cons, Reader.entriesHoldable, Option.isSome_some, first.isHoldable,
          holdable, Bool.and_true]
      · simp only [List.map_cons, Reader.relaxedEntries, first.relaxed_eq, relaxed]
      · exact Nat.max_le.mpr ⟨first.depth_le, shallow⟩

/-- Only a record whose single value is an empty record is changed by being held back. -/
theorem held_fields {entries : List (String × Document)}
    (held : ∀ entry ∈ entries, Held bound entry.2)
    (filled : ∀ entry ∈ entries, entry.2 ≠ .record []) : Held (bound + 1) (.fields entries) := by
  obtain ⟨holdable, relaxed, shallow⟩ := held_entries held
  refine ⟨holdable, ?_, Nat.succ_le_succ shallow⟩
  rw [fields_eq, Reader.relaxed, relaxed]
  intro key same
  obtain ⟨entry, member, given⟩ :=
    List.mem_map.mp (show (key, .record []) ∈ keyed entries from same ▸ List.mem_singleton_self _)
  exact filled entry member (Prod.mk.inj given).2

end Document

theorem exists_of_variant {document : Document} {value : α}
    (found : Reader.variant readerOf? document = .ok value) :
    ∃ tag reader content, readerOf? tag = some reader ∧ reader content = .ok value := by
  unfold Reader.variant at found
  split at found
  · obtain ⟨⟨tag, content⟩, -, chosen⟩ := bind_eq_ok.mp found
    cases known : readerOf? tag with
    | none =>
        simp only [known] at chosen
        cases chosen
    | some reader =>
        simp only [known] at chosen
        exact ⟨tag, reader, _, known, chosen⟩
  · cases found

/-- A tag in front of the fields of a record chooses the reader of the record. -/
theorem variant_fields {tag : String} {reader : Reader α} {entries : List (String × Document)}
    {bound : Nat} (known : readerOf? tag = some reader)
    (held : ∀ entry ∈ entries, entry.2.Held bound)
    (filled : ∀ entry ∈ entries, entry.2 ≠ .record [])
    (untagged : ∀ entry ∈ entries, entry.1 ≠ "kind") (shallow : bound < Reader.maximalDepth) :
    Reader.variant readerOf? (.fields (("kind", .text tag) :: entries)) =
      reader (.fields entries) := by
  -- The record is held back until the tag is known, and comes out of that as it was.
  have whole : (Document.fields (("kind", .text tag) :: entries)).Held (bound + 1) :=
    Document.held_fields (List.forall_mem_cons.mpr ⟨Document.held_text tag, held⟩)
      (List.forall_mem_cons.mpr ⟨nofun, filled⟩)
  have deep : (Document.fields (("kind", .text tag) :: entries)).depth ≤ Reader.maximalDepth :=
    Nat.le_trans whole.depth_le shallow
  have tagged : (keyed entries).filter (·.1 == some "kind") = [] := by
    apply List.filter_eq_nil_iff.mpr
    intro pair member
    obtain ⟨entry, among, rfl⟩ := List.mem_map.mp member
    simpa using untagged entry among
  have rest : (keyed entries).filter (·.1 != some "kind") = keyed entries := by
    apply List.filter_eq_self.mpr
    intro pair member
    obtain ⟨entry, among, rfl⟩ := List.mem_map.mp member
    simpa using untagged entry among
  have split : Reader.splitTag (.fields (("kind", .text tag) :: entries)) =
      .ok (tag, .fields entries) := by
    simp [Reader.splitTag, Document.fields_eq, tagged, rest]
  simp only [Reader.variant, whole.isHoldable, deep, decide_true, Bool.and_true, if_true, split]
  simp only [bind, Except.bind, known, (Document.held_fields held filled).relaxed_eq]

end Json

theorem DeclaredName.toEntries_held (declared : DeclaredName) :
    ∀ entry ∈ declared.toEntries, entry.2.Held 1 := by
  have names : Document.list (declared.names.map SimpleName.toDocument) =
      .texts (declared.names.map SimpleName.text) := by
    simp [Document.texts, SimpleName.toDocument]
  have languages : declared.languages.toDocument =
      .texts (declared.languages.toList.map Language.tag) := by
    simp [Document.texts, LanguageSet.toDocument, Language.toDocument]
  simp [toEntries, PackageName.toDocument, names, languages, Document.held_text,
    Document.held_texts]

theorem DeclaredName.toEntries_filled (declared : DeclaredName) :
    ∀ entry ∈ declared.toEntries, entry.2 ≠ .record [] := by
  simp [toEntries, PackageName.toDocument, LanguageSet.toDocument]

theorem ReferenceName.toEntries_held (reference : ReferenceName) :
    ∀ entry ∈ reference.toEntries, entry.2.Held 0 := by
  simp [toEntries, Language.toDocument, Document.held_text]

theorem ReferenceName.toEntries_filled (reference : ReferenceName) :
    ∀ entry ∈ reference.toEntries, entry.2 ≠ .record [] := by
  simp [toEntries, Language.toDocument]

namespace Name

theorem read_declared (declared : DeclaredName) :
    read (toDocument (.declared declared)) =
      (DeclaredName.read declared.toDocument).map Name.declared := by
  have known : readerOf? "declared" =
      some fun document => (DeclaredName.read document).map Name.declared := rfl
  exact variant_fields known declared.toEntries_held declared.toEntries_filled
    (by simp [DeclaredName.toEntries]) (by decide)

theorem read_reference (reference : ReferenceName) :
    read (toDocument (.reference reference)) =
      (ReferenceName.read reference.toDocument).map Name.reference := by
  have known : readerOf? "reference" =
      some fun document => (ReferenceName.read document).map Name.reference := rfl
  exact variant_fields known reference.toEntries_held reference.toEntries_filled
    (by simp [ReferenceName.toEntries]) (by decide)

/-- A name is read by the reader of its kind. -/
theorem exists_of_readerOf? {tag : String} {reader : Reader Name} {content : Document} {name : Name}
    (known : readerOf? tag = some reader) (given : reader content = .ok name) :
    (∃ declared, DeclaredName.read content = .ok declared ∧ .declared declared = name) ∨
      ∃ reference, ReferenceName.read content = .ok reference ∧ .reference reference = name := by
  unfold readerOf? at known
  split at known
  · cases known
    exact .inl (map_eq_ok.mp given)
  · split at known
    · cases known
      exact .inr (map_eq_ok.mp given)
    · cases known

theorem fits : Fits read toDocument where
  written
    | .declared name => .fields (List.forall_mem_cons.mpr ⟨.text _, name.toEntries_written⟩)
    | .reference name => .fields (List.forall_mem_cons.mpr ⟨.text _, name.toEntries_written⟩)
  returns := by
    intro document name found
    obtain ⟨tag, reader, content, known, given⟩ := exists_of_variant found
    rcases exists_of_readerOf? known given with ⟨name, plain, rfl⟩ | ⟨name, plain, rfl⟩
    · have back : DeclaredName.read name.toDocument = .ok name := DeclaredName.fits.returns plain
      rw [Returns, read_declared, back, Except.map]
    · have back : ReferenceName.read name.toDocument = .ok name := ReferenceName.fits.returns plain
      rw [Returns, read_reference, back, Except.map]

end Name

/-! ## Generated names -/

namespace ResourceName

theorem toEntries_written (resource : ResourceName) :
    ∀ entry ∈ resource.toEntries, entry.2.Written := by
  simp [toEntries, DeclaredName.fits.written, written_list ReferenceName.fits.written]

theorem returns_of_read {document : Document} {resource : ResourceName}
    (found : read document = .ok resource) :
    Returns DeclaredName.read DeclaredName.toDocument resource.declared ∧
      ∀ source ∈ resource.sources, Returns ReferenceName.read ReferenceName.toDocument source := by
  simp only [read, bind_eq_ok] at found
  obtain ⟨entries, -, declared, declared_found, sources, sources_found, same⟩ := found
  cases same
  exact ⟨DeclaredName.fits.required declared_found,
    (returns_list_iff ReferenceName.fits).mp (ReferenceName.fits.list.required sources_found)⟩

theorem returns_iff {resource : ResourceName} :
    Returns read toDocument resource ↔
      Returns DeclaredName.read DeclaredName.toDocument resource.declared ∧
        ∀ source ∈ resource.sources,
          Returns ReferenceName.read ReferenceName.toDocument source := by
  refine ⟨returns_of_read, ?_⟩
  rintro ⟨declared_back, each_back⟩
  have sources_back := returns_list each_back
  simp only [Returns, read, bind_eq_ok]
  exact ⟨_, fieldsOf_fields (.cons declared_back (.cons sources_back .nil)) (by decide),
    _, declared_back, _, sources_back, rfl⟩

theorem fits : Fits read toDocument where
  written resource := .fields resource.toEntries_written
  returns found := returns_iff.mpr (returns_of_read found)

end ResourceName

namespace AccessorKind

theorem fits : Fits read toDocument := by
  apply Fits.tagged
  intro kind
  cases kind <;> decide

end AccessorKind

namespace AccessorName

theorem toEntries_written (accessor : AccessorName) :
    ∀ entry ∈ accessor.toEntries, entry.2.Written := by
  simp [toEntries, DeclaredName.fits.written, AccessorKind.fits.written,
    written_list ReferenceName.fits.written]

theorem fits : Fits read toDocument where
  written accessor := .fields accessor.toEntries_written
  returns := by
    intro document accessor found
    simp only [read, bind_eq_ok] at found
    obtain ⟨entries, -, declared, declared_found, kind, kind_found, sources, sources_found, same⟩ :=
      found
    cases same
    have declared_back := DeclaredName.fits.required declared_found
    have kind_back := AccessorKind.fits.required kind_found
    have sources_back := ReferenceName.fits.list.required sources_found
    simp only [Returns, read, bind_eq_ok]
    exact ⟨_, fieldsOf_fields (.cons declared_back (.cons kind_back (.cons sources_back .nil)))
      (by decide), _, declared_back, _, kind_back, _, sources_back, rfl⟩

end AccessorName

/-! ## Identities and tables -/

namespace FileId

theorem fits : Fits read toDocument where
  written id := .text id.text
  returns _ := rfl

end FileId

namespace NodeId

theorem fits : Fits read toDocument where
  written id := .natural id.value
  returns := by
    intro document id found
    obtain ⟨value, given, rfl⟩ := map_eq_ok.mp found
    rw [Returns, read, toDocument, naturalBelow_natural (lt_of_naturalBelow given), Except.map]

end NodeId

namespace TextTable

theorem insertEntry_last {key value : String} {entries : List (String × String)}
    (last : ∀ entry ∈ entries, entry.1 < key) :
    insertEntry key value entries = entries ++ [(key, value)] := by
  induction entries with
  | nil => rfl
  | cons entry entries ih =>
      have before := last entry List.mem_cons_self
      have rest := ih fun later member => last later (List.mem_cons_of_mem _ member)
      rw [insertEntry, if_neg (String.lt_asymm before), if_neg fun same => ?_, rest,
        List.cons_append]
      exact String.lt_irrefl _ (same ▸ before)

/-- Entries that come in order are put one behind the other. -/
theorem entries_foldl_insert (table : TextTable) {pairs : List (String × String)}
    (increasing : Increasing (table.entries ++ pairs)) :
    (pairs.foldl (fun table pair => table.insert pair.1 pair.2) table).entries =
      table.entries ++ pairs := by
  induction pairs generalizing table with
  | nil => rw [List.foldl_nil, List.append_nil]
  | cons pair pairs ih =>
      have last : ∀ entry ∈ table.entries, entry.1 < pair.1 := fun entry member =>
        (List.pairwise_append.mp increasing).2.2 entry member pair List.mem_cons_self
      have added : (table.insert pair.1 pair.2).entries = table.entries ++ [pair] :=
        insertEntry_last last
      have joined : table.entries ++ pair :: pairs =
          (table.insert pair.1 pair.2).entries ++ pairs := by
        rw [added, List.append_assoc, List.singleton_append]
      rw [List.foldl_cons, ih _ (joined ▸ increasing), ← joined]

theorem ofList_entries (table : TextTable) : ofList table.entries = table := by
  have same : (ofList table.entries).entries = table.entries :=
    entries_foldl_insert empty table.increasing
  rcases table with ⟨entries, increasing⟩
  cases made : ofList entries with
  | mk others _ =>
      simp only [made] at same
      subst same
      rfl

theorem read_toDocument (table : TextTable) : Reader.table table.toDocument = .ok table := by
  simp only [toDocument, Document.fields_eq, Reader.table, keyed, List.map_map]
  refine bind_eq_ok.mpr ⟨table.entries, ?_, ?_⟩
  · apply mapM_map_ok
    intro entry _
    rfl
  · rw [ofList_entries]
    rfl

theorem fits : Fits Reader.table toDocument where
  written table := by
    apply Document.Written.fields
    intro entry member
    obtain ⟨_, -, rfl⟩ := List.mem_map.mp member
    exact .text _
  returns _ := read_toDocument _

end TextTable

/-! ## Settings, snapshots and results -/

theorem Resolution.StageKind.read_toDocument (kind : StageKind) :
    read kind.toDocument = .ok kind := by
  simp [read, toDocument, Reader.tagged]

theorem Resolution.StageKind.fits : Fits read toDocument := Fits.tagged ofTag?_tag

namespace Config

/-- A configuration is read back as it was written, unless its version is too large to be read. -/
theorem returns_of_version {config : Config} (below : config.version < UInt32.size) :
    Returns read toDocument config := by
  have version_back := naturalBelow_natural below
  have language_back := Language.read_toDocument config.defaultLanguage
  have stages_back := returns_list fun kind (_ : kind ∈ config.stages) =>
    Resolution.StageKind.read_toDocument kind
  have stdlib_back := TextTable.read_toDocument config.stdlib
  have cache_back : Reader.boolean (.boolean config.cacheResults) = .ok config.cacheResults := rfl
  simp only [Returns, read, bind_eq_ok]
  exact ⟨_, fieldsOf_fields (.cons version_back (.cons language_back (.cons stages_back
    (.cons stdlib_back (.cons cache_back .nil))))) (by decide), _, version_back, _, language_back,
    _, stages_back, _, stdlib_back, _, cache_back, rfl⟩

theorem fits : Fits read toDocument where
  written config := by
    apply Document.Written.fields
    simp [Document.Written.natural, Language.fits.written, TextTable.fits.written,
      Document.Written.boolean, written_list Resolution.StageKind.fits.written]
  returns := by
    intro document config found
    simp only [read, bind_eq_ok] at found
    obtain ⟨entries, -, version, version_found, language, -, stages, -, stdlib, -, cache, -, same⟩
      := found
    cases same
    exact returns_of_version
      (lt_of_naturalBelow ((Fits.naturalBelow UInt32.size).required version_found))

end Config

namespace SnapshotDeclaration

theorem languages_fits : Fits (Reader.optional LanguageSet.read)
    (Document.optional LanguageSet.toDocument) := LanguageSet.fits.optional nofun

theorem fits : Fits read toDocument where
  written declaration := by
    apply Document.Written.fields
    simp [Document.Written.text, languages_fits.written]
  returns := by
    intro document declaration found
    simp only [read, bind_eq_ok] at found
    obtain ⟨entries, -, names, names_found, languages, languages_found, same⟩ := found
    cases same
    have names_back := Fits.text.required names_found
    have languages_back := languages_fits.defaulted returns_none languages_found
    simp only [Returns, read, bind_eq_ok]
    exact ⟨_, fieldsOf_fields (.cons names_back (.cons languages_back .nil)) (by decide),
      _, names_back, _, languages_back, rfl⟩

end SnapshotDeclaration

namespace SnapshotFile

theorem language_fits : Fits (Reader.optional Language.read)
    (Document.optional Language.toDocument) := Language.fits.optional nofun

theorem aliases_fits : Fits (Reader.optional Reader.table)
    (Document.optional TextTable.toDocument) := TextTable.fits.optional nofun

theorem fits : Fits read toDocument where
  written file := by
    apply Document.Written.fields
    simp [Document.Written.text, PackageName.fits.written, language_fits.written,
      aliases_fits.written, Document.texts, written_list Document.Written.text,
      written_list SnapshotDeclaration.fits.written]
  returns := by
    intro document file found
    simp only [read, bind_eq_ok] at found
    obtain ⟨entries, -, path, path_found, package, package_found, language, language_found,
      aliases, aliases_found, imports, imports_found, declarations, declarations_found,
      references, references_found, same⟩ := found
    cases same
    have path_back := Fits.text.required path_found
    have package_back := PackageName.fits.defaulted PackageName.returns_default package_found
    have language_back := language_fits.defaulted returns_none language_found
    have aliases_back := aliases_fits.defaulted returns_none aliases_found
    have imports_back := Fits.text.list.defaulted returns_nil imports_found
    have declarations_back := SnapshotDeclaration.fits.list.defaulted returns_nil declarations_found
    have references_back := Fits.text.list.defaulted returns_nil references_found
    simp only [Returns, read, bind_eq_ok]
    exact ⟨_, fieldsOf_fields (.cons path_back (.cons package_back (.cons language_back
      (.cons aliases_back (.cons imports_back (.cons declarations_back
        (.cons references_back .nil))))))) (by decide), _, path_back, _, package_back,
      _, language_back, _, aliases_back, _, imports_back, _, declarations_back,
      _, references_back, rfl⟩

end SnapshotFile

namespace Snapshot

theorem fits : Fits read toDocument where
  written snapshot := by
    apply Document.Written.fields
    simp [written_list SnapshotFile.fits.written]
  returns := by
    intro document snapshot found
    simp only [read, bind_eq_ok] at found
    obtain ⟨entries, -, files, files_found, same⟩ := found
    cases same
    have files_back := SnapshotFile.fits.list.defaulted returns_nil files_found
    simp only [Returns, read, bind_eq_ok]
    exact ⟨_, fieldsOf_fields (.cons files_back .nil) (by decide), _, files_back, rfl⟩

end Snapshot

namespace Resolution

namespace ResolvedReference

theorem returns_of_read {document : Document} {pair : ResolvedReference}
    (found : read document = .ok pair) :
    Returns ReferenceName.read ReferenceName.toDocument pair.written ∧
      Returns ReferenceName.read ReferenceName.toDocument pair.resolved := by
  simp only [read, bind_eq_ok] at found
  obtain ⟨entries, -, written, written_found, resolved, resolved_found, same⟩ := found
  cases same
  exact ⟨ReferenceName.fits.required written_found, ReferenceName.fits.required resolved_found⟩

theorem returns_iff {pair : ResolvedReference} :
    Returns read toDocument pair ↔
      Returns ReferenceName.read ReferenceName.toDocument pair.written ∧
        Returns ReferenceName.read ReferenceName.toDocument pair.resolved := by
  refine ⟨returns_of_read, ?_⟩
  rintro ⟨written, resolved⟩
  simp only [Returns, read, bind_eq_ok]
  exact ⟨_, fieldsOf_fields (.cons written (.cons resolved .nil)) (by decide), _, written,
    _, resolved, rfl⟩

theorem fits : Fits read toDocument where
  written pair := by
    apply Document.Written.fields
    simp [ReferenceName.fits.written]
  returns found := returns_iff.mpr (returns_of_read found)

end ResolvedReference

namespace Summary

theorem returns_of_read {document : Document} {summary : Summary}
    (found : read document = .ok summary) :
    (∀ pair ∈ summary.resolved, Returns ResolvedReference.read ResolvedReference.toDocument pair) ∧
      (∀ reference ∈ summary.unresolved,
        Returns ReferenceName.read ReferenceName.toDocument reference) ∧
      summary.total < UInt64.size := by
  simp only [read, bind_eq_ok] at found
  obtain ⟨entries, -, resolved, resolved_found, unresolved, unresolved_found, total, total_found,
    same⟩ := found
  cases same
  have total_back := (Fits.naturalBelow UInt64.size).required total_found
  exact ⟨(returns_list_iff ResolvedReference.fits).mp
      (ResolvedReference.fits.list.required resolved_found),
    (returns_list_iff ReferenceName.fits).mp (ReferenceName.fits.list.required unresolved_found),
    lt_of_naturalBelow total_back⟩

theorem returns_iff {summary : Summary} :
    Returns read toDocument summary ↔
      (∀ pair ∈ summary.resolved,
        Returns ResolvedReference.read ResolvedReference.toDocument pair) ∧
      (∀ reference ∈ summary.unresolved,
        Returns ReferenceName.read ReferenceName.toDocument reference) ∧
      summary.total < UInt64.size := by
  refine ⟨returns_of_read, ?_⟩
  rintro ⟨resolved, unresolved, small⟩
  have resolved_back := returns_list resolved
  have unresolved_back := returns_list unresolved
  have total_back := naturalBelow_natural small
  simp only [Returns, read, bind_eq_ok]
  exact ⟨_, fieldsOf_fields (.cons resolved_back (.cons unresolved_back (.cons total_back .nil)))
    (by decide), _, resolved_back, _, unresolved_back, _, total_back, rfl⟩

theorem fits : Fits read toDocument where
  written summary := by
    apply Document.Written.fields
    simp [written_list ResolvedReference.fits.written, written_list ReferenceName.fits.written,
      Document.Written.natural]
  returns found := returns_iff.mpr (returns_of_read found)

end Summary

end Resolution

namespace FileResolution

theorem fits : Fits read toDocument where
  written result := by
    apply Document.Written.fields
    simp [Document.Written.text, Resolution.Summary.fits.written]
  returns := by
    intro document result found
    simp only [read, bind_eq_ok] at found
    obtain ⟨entries, -, path, path_found, summary, summary_found, same⟩ := found
    cases same
    have path_back := Fits.text.required path_found
    have summary_back := Resolution.Summary.fits.required summary_found
    simp only [Returns, read, bind_eq_ok]
    exact ⟨_, fieldsOf_fields (.cons path_back (.cons summary_back .nil)) (by decide),
      _, path_back, _, summary_back, rfl⟩

end FileResolution

/-- Everything that can be read is read back from what is written for it. -/
theorem readable_round_trips :
    RoundTrips SimpleName.read SimpleName.toDocument ∧
    RoundTrips PackageName.read PackageName.toDocument ∧
    RoundTrips DeclaredName.read DeclaredName.toDocument ∧
    RoundTrips ReferenceName.read ReferenceName.toDocument ∧
    RoundTrips Name.read Name.toDocument ∧
    RoundTrips ResourceName.read ResourceName.toDocument ∧
    RoundTrips AccessorName.read AccessorName.toDocument ∧
    RoundTrips LanguageSet.read LanguageSet.toDocument ∧
    RoundTrips Reader.table TextTable.toDocument ∧
    RoundTrips FileId.read FileId.toDocument ∧
    RoundTrips NodeId.read NodeId.toDocument ∧
    RoundTrips Config.read Config.toDocument ∧
    RoundTrips Snapshot.read Snapshot.toDocument ∧
    RoundTrips Resolution.Summary.read Resolution.Summary.toDocument ∧
    RoundTrips FileResolution.read FileResolution.toDocument :=
  ⟨SimpleName.fits.roundTrips, PackageName.fits.roundTrips, DeclaredName.fits.roundTrips,
    ReferenceName.fits.roundTrips, Name.fits.roundTrips, ResourceName.fits.roundTrips,
    AccessorName.fits.roundTrips, LanguageSet.fits.roundTrips, TextTable.fits.roundTrips,
    FileId.fits.roundTrips, NodeId.fits.roundTrips, Config.fits.roundTrips,
    Snapshot.fits.roundTrips, Resolution.Summary.fits.roundTrips, FileResolution.fits.roundTrips⟩

/-- A file as a list, with blanks around its package and an alias twice. -/
theorem readable_snapshot_round_trips :
    readText Snapshot.read
      "\x7b\"files\": [[\"A.kt\",\" b \",null,\x7b\"y\":\"1\",\"x\":\"\\n\",\"y\":\"2\"\x7d]]\x7d" =
      .ok ⟨[⟨"A.kt", ⟨"b"⟩, none, some ⟨[("x", "\n"), ("y", "2")], by decide⟩, [], [], []⟩]⟩ ∧
    readText Snapshot.read (Snapshot.toDocument
      ⟨[⟨"A.kt", ⟨"b"⟩, none, some ⟨[("x", "\n"), ("y", "2")], by decide⟩, [], [], []⟩]⟩).compact =
      .ok ⟨[⟨"A.kt", ⟨"b"⟩, none, some ⟨[("x", "\n"), ("y", "2")], by decide⟩, [], [], []⟩]⟩ := by
  have found : readText Snapshot.read
      "\x7b\"files\": [[\"A.kt\",\" b \",null,\x7b\"y\":\"1\",\"x\":\"\\n\",\"y\":\"2\"\x7d]]\x7d" =
      .ok ⟨[⟨"A.kt", ⟨"b"⟩, none, some ⟨[("x", "\n"), ("y", "2")], by decide⟩, [], [], []⟩]⟩ := by
    decide +kernel
  obtain ⟨-, -, -, -, -, -, -, -, -, -, -, -, ⟨returns, -⟩, -⟩ := readable_round_trips
  exact ⟨found, returns _ _ found⟩

end SymbolResolver
