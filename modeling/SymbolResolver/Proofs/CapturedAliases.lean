import SymbolResolver.Proofs.FoundDeclarations

/-!
# Captured aliases

The usual chain replaces an alias in front of a text before it asks the imports of the file, and the
imports see nothing but the text that comes out. So an import can take the first segment of a
qualified target for the name that it brings in. Imports that do not bring in this segment make no
difference, and the first one that does so decides the answer
(`Resolver.alias_capture_exact`).
-/

namespace SymbolResolver

namespace Resolution

open Lazy

/-! ## Imports that see the target of an alias -/

/-- The first import that brings in the first segment of a text. -/
def captor? (imports : List String) (text : String) : Option String :=
  (Text.segments text).head?.bind fun first => imports.find? (bringsIn · first)

theorem imported?_eq_captor? (file : FileContext) (text : String) :
    imported? file text =
      (captor? file.imports text).map (Text.joined · (Text.segments text).tail) := by
  rw [imported?, captor?]
  cases (Text.segments text).head? with
  | none => rfl
  | some first => cases found : file.imports.find? (bringsIn · first) <;> simp [found]

/-- An import brings in its last segment. -/
theorem captor?_singleton {imported text first : String} {front : List String}
    (begins : (Text.segments text).head? = some first)
    (ends : Text.segments imported = front ++ [first]) (nonempty : first ≠ "")
    (named : first ≠ "*") : captor? [imported] text = some imported := by
  have brought : bringsIn imported first = true := by
    simp [bringsIn, ends, nonempty, named]
  simp [captor?, begins, brought]

/-- No import brings in an empty name or a wildcard. -/
theorem captor?_eq_none {imports : List String} {text : String}
    (nameless : (Text.segments text).head? = some "" ∨ (Text.segments text).head? = some "*") :
    captor? imports text = none := by
  rcases nameless with begins | begins <;> simp [captor?, begins, bringsIn]

/-- Two imports that bring in the same name give different answers: the import of the name alone
leaves a text as it is, and a longer one does not. -/
theorem exists_captors {text first : String} (begins : (Text.segments text).head? = some first)
    (nonempty : first ≠ "") (named : first ≠ "*") :
    ∃ short long, captor? [short] text = some short ∧ captor? [long] text = some long ∧
      ∀ rest : List String, (∀ part ∈ rest, Text.separator ∉ part.toList) →
        Text.joined short rest ≠ Text.joined long rest := by
  have single : Text.separator ∉ first.toList :=
    Text.separator_not_mem_segments (List.mem_of_head? begins)
  have short_segments : Text.segments first = [] ++ [first] :=
    Text.segments_of_not_mem nonempty single
  have long_segments : Text.segments (Text.joined "x" [first]) = ["x"] ++ [first] :=
    Text.segments_joined (by decide) (by simpa using single)
  have long_ne : Text.joined "x" [first] ≠ "" := by
    intro blank
    rw [blank] at long_segments
    cases long_segments
  refine ⟨first, Text.joined "x" [first], captor?_singleton begins short_segments nonempty named,
    captor?_singleton begins long_segments nonempty named, fun rest rest_single same => ?_⟩
  have lengths := congrArg (fun text => (Text.segments text).length) same
  simp only [Text.segments_joined nonempty rest_single, Text.segments_joined long_ne rest_single,
    short_segments, long_segments, List.length_append, List.length_cons, List.length_nil] at lengths
  omega

section Aliased

variable {file : FileContext} {text name target : String}

theorem aliased_of_known (begins : (Text.segments text).head? = some name)
    (known : file.aliases.bind (·.get? name) = some target) :
    aliased file text = Text.joined target (Text.segments text).tail := by
  simp only [aliased, begins, Option.bind_some, known]

/-- The segments of the target come first, whatever follows the alias in the text. -/
theorem segments_aliased (begins : (Text.segments text).head? = some name)
    (known : file.aliases.bind (·.get? name) = some target) (nonempty : target ≠ "") :
    Text.segments (aliased file text) = Text.segments target ++ (Text.segments text).tail := by
  rw [aliased_of_known begins known]
  exact Text.segments_joined_tail nonempty text

/-- An import captures the text with its alias replaced exactly if it captures the target. -/
theorem imported?_aliased (file : FileContext) (begins : (Text.segments text).head? = some name)
    (known : file.aliases.bind (·.get? name) = some target) (nonempty : target ≠ "") :
    imported? file (aliased file text) =
      (captor? file.imports target).map
        (Text.joined · ((Text.segments target).tail ++ (Text.segments text).tail)) := by
  obtain ⟨first, target_begins⟩ := Text.exists_first_segment nonempty
  obtain ⟨rest, split⟩ := List.head?_eq_some_iff.mp target_begins
  rw [imported?_eq_captor?, captor?, captor?, segments_aliased begins known nonempty, split]
  rfl

end Aliased

/-! ## Resolving with other imports -/

/-- The aliases of a file do not depend on its imports. -/
theorem aliased_imports (file : FileContext) (imports : List String) (text : String) :
    aliased { file with imports := imports } text = aliased file text := rfl

/-- Without a node, the imports answer first, and they see the text with its alias replaced. -/
theorem run_defaultChain {request : Request} (unasked : request.consultation? = none) :
    Chain.run (StageKind.defaultChain.map StageKind.stage) request =
      match imported? request.file (aliased request.file request.reference.text) with
      | some text => .answer (some ⟨text, request.language⟩)
      | none => StageKind.declarationLookup.intercept
          (request.withReference ⟨aliased request.file request.reference.text, request.language⟩)
          (Chain.run ([.stdlib].map StageKind.stage)) := by
  let expanded := request.withReference
    ⟨aliased request.file request.reference.text, request.language⟩
  have still_unasked : expanded.consultation? = none := unasked
  have imported_eq : importedReference? expanded =
      (imported? request.file (aliased request.file request.reference.text)).map
        (⟨·, request.language⟩) := importedReference?_eq expanded
  rw [StageKind.defaultChain, run_cons, StageKind.intercept, expandAlias_eq, run_cons,
    intercept_unconsulted still_unasked, run_cons, StageKind.intercept, imported_eq]
  cases imported? request.file (aliased request.file request.reference.text) with
  | some text => rfl
  | none => rw [Option.map_none, run_cons]

namespace Resolver

section Requests

variable (resolver : Resolver) (file : FileContext) (text : String) (language : Language)

@[simp] theorem request_file : (resolver.request file text language none).file = file := rfl

@[simp] theorem request_text :
    (resolver.request file text language none).reference.text = Text.trim text := rfl

@[simp] theorem request_language :
    (resolver.request file text language none).language = language := rfl

theorem request_unasked : (resolver.request file text language none).consultation? = none := by
  cases bound : resolver.binding <;> simp [Request.consultation?, request, bound]

end Requests

variable {resolver : Resolver} {file : FileContext} {text : String} {language : Language}
  {world : World}

theorem dispatch_congr {request other : Request}
    (same_run : Chain.run resolver.stages request = Chain.run resolver.stages other)
    (same_key : keyOf request = keyOf other) (same_needed : neededBy request = neededBy other) :
    resolver.dispatch request world = resolver.dispatch other world := by
  simp only [dispatch, same_run, same_key, same_needed]

/-- Imports make no difference at all to a text that they do not bring in. -/
theorem resolve_unimported (file : FileContext)
    (usual : resolver.stages = StageKind.defaultChain.map StageKind.stage)
    {imports others : List String}
    (first_free : imported? { file with imports := imports } (aliased file (Text.trim text)) = none)
    (second_free : imported? { file with imports := others } (aliased file (Text.trim text)) =
      none) :
    resolver.resolve { file with imports := imports } text language world =
      resolver.resolve { file with imports := others } text language world := by
  refine dispatch_congr ?_ rfl rfl
  rw [usual, run_defaultChain (resolver.request_unasked { file with imports := imports } text
    language), run_defaultChain (resolver.request_unasked { file with imports := others } text
    language)]
  simp only [request_file, request_text, aliased_imports, first_free, second_free]
  rfl

/-- A chain that is its answer gives it to a new request, with or without a cache. -/
theorem dispatch_answer {request : Request} {answer : Answer}
    (runs : Chain.run resolver.stages request = .answer answer)
    (unanswered : ∀ number, resolver.cache = some number →
      (world.cacheAt number).cell? (keyOf request) = none) :
    (resolver.dispatch request world).1 = .finished (.ok answer) := by
  cases cached : resolver.cache with
  | none =>
      simp only [dispatch, cached, runs, runDirectly, Resolving.answer]
      rfl
  | some number =>
      have requested := Cache.request_of_absent (unanswered number cached) world.store
        ((Chain.run resolver.stages request).mapOk Payload.answer) (neededBy request)
      rw [dispatch_cached cached requested, runs]
      have supplies : Supplies (fun _ => False) (fun _ => .error .brokenOff) none [] := .absent
      have tells := Store.tells_nothing world.store (fun _ => False) fun _ => .error .brokenOff
      have within : (Resolving.answer answer).Within
        (relying (fun _ => False) (fun _ => False) world.store.size) := trivial
      exact (kept_ends tells (fun _ => False.elim) supplies within rfl _ _).2.1 fun _ => False.elim

/-- A text that an import brings in gets the import as its answer, with or without a cache. -/
theorem resolve_imported (file : FileContext)
    (usual : resolver.stages = StageKind.defaultChain.map StageKind.stage)
    (unanswered : ∀ number, resolver.cache = some number →
      (world.cacheAt number).cell? (keyOf (resolver.request file text language none)) = none)
    {found : String} (imported : imported? file (aliased file (Text.trim text)) = some found) :
    (resolver.resolve file text language world).1 = .finished (.ok (some ⟨found, language⟩)) := by
  refine dispatch_answer ?_ unanswered
  rw [usual, run_defaultChain (resolver.request_unasked file text language)]
  simp only [request_file, request_text, request_language, imported]

/-- Behind an alias with a qualified target, imports matter exactly if they bring in the first
segment of the target: the first import that does so is the answer. So the imports can be changed
safely only if the target begins with a segment that no import can bring in. -/
theorem alias_capture_exact (resolver : Resolver)
    (usual : resolver.stages = StageKind.defaultChain.map StageKind.stage) (file : FileContext)
    {text name target : String} (language : Language) (world : World)
    (begins : (Text.segments (Text.trim text)).head? = some name)
    (known : file.aliases.bind (·.get? name) = some target)
    (qualified : Text.separator ∈ target.toList) :
    let ended (imports : List String) :=
      resolver.resolve { file with imports := imports } text language world
    (∀ imports others, captor? imports target = none → captor? others target = none →
      ended imports = ended others) ∧
    ((∀ number, resolver.cache = some number →
      (world.cacheAt number).cell? (keyOf (resolver.request file text language none)) = none) →
      (∀ imports imported, captor? imports target = some imported →
        (ended imports).1 = .finished (.ok (some ⟨Text.joined imported
          ((Text.segments target).tail ++ (Text.segments (Text.trim text)).tail), language⟩))) ∧
      ((∀ imports others, (ended imports).1 = (ended others).1) ↔
        (Text.segments target).head? = some "" ∨ (Text.segments target).head? = some "*")) := by
  intro ended
  have nonempty : target ≠ "" := by
    rintro rfl
    simp at qualified
  have imported_eq : ∀ imports, imported? { file with imports := imports }
      (aliased file (Text.trim text)) = (captor? imports target).map
        (Text.joined · ((Text.segments target).tail ++ (Text.segments (Text.trim text)).tail)) := by
    intro imports
    rw [← aliased_imports file imports]
    exact imported?_aliased { file with imports := imports } begins known nonempty
  have free : ∀ imports others, captor? imports target = none → captor? others target = none →
      ended imports = ended others := by
    intro imports others first_free second_free
    refine resolve_unimported file usual ?_ ?_
    · rw [imported_eq, first_free, Option.map_none]
    · rw [imported_eq, second_free, Option.map_none]
  refine ⟨free, fun unanswered => ?_⟩
  have captured : ∀ imports imported, captor? imports target = some imported →
      (ended imports).1 = .finished (.ok (some ⟨Text.joined imported
        ((Text.segments target).tail ++ (Text.segments (Text.trim text)).tail), language⟩)) := by
    intro imports imported found
    have still_unanswered : ∀ number, resolver.cache = some number → (world.cacheAt number).cell?
        (keyOf (resolver.request { file with imports := imports } text language none)) = none :=
      unanswered
    refine resolve_imported { file with imports := imports } usual still_unanswered ?_
    rw [aliased_imports, imported_eq, found, Option.map_some]
  refine ⟨captured, ?_, ?_⟩
  · intro same
    by_contra nameable
    rw [not_or] at nameable
    obtain ⟨first, target_begins⟩ := Text.exists_first_segment nonempty
    have first_ne : first ≠ "" := fun blank => nameable.1 (blank ▸ target_begins)
    have first_named : first ≠ "*" := fun wildcard => nameable.2 (wildcard ▸ target_begins)
    obtain ⟨short, long, short_captures, long_captures, different⟩ :=
      exists_captors target_begins first_ne first_named
    have rest_single :
        ∀ part ∈ (Text.segments target).tail ++ (Text.segments (Text.trim text)).tail,
        Text.separator ∉ part.toList := by
      intro part member
      rcases List.mem_append.mp member with in_target | in_text
      · exact Text.separator_not_mem_segments (List.mem_of_mem_tail in_target)
      · exact Text.separator_not_mem_segments (List.mem_of_mem_tail in_text)
    have equal := same [short] [long]
    rw [captured _ _ short_captures, captured _ _ long_captures] at equal
    exact different _ rest_single (by simpa using equal)
  · intro nameless imports others
    rw [free imports others (captor?_eq_none nameless) (captor?_eq_none nameless)]

/-- Of several imports that end like the first segment of a target, the first one is taken, also
with a cache and for a member of what the alias stands for. An import of another name is not
noticed. -/
theorem alias_capture_exact_member :
    let resolver : Resolver :=
      ⟨StageKind.defaultChain.map StageKind.stage, .nothing, none, none, some 0⟩
    let file : FileContext := (FileContext.ofPath "a.kt" ⟨"com.app"⟩ .kotlin).withAlias "Foo"
      "com.lib.Foo"
    let ended (imports : List String) :=
      resolver.resolve { file with imports := imports } " Foo.Bar" .kotlin ⟨.empty, [.empty]⟩
    (ended ["lib.Foo", "x.com", "y.com"]).1 =
        .finished (.ok (some ⟨"x.com.lib.Foo.Bar", .kotlin⟩)) ∧
      ended ["lib.Foo"] = ended [] := by
  intro resolver file ended
  have begins : (Text.segments (Text.trim " Foo.Bar")).head? = some "Foo" := by decide +kernel
  have known : file.aliases.bind (·.get? "Foo") = some "com.lib.Foo" := by decide +kernel
  obtain ⟨free, captured⟩ := alias_capture_exact resolver rfl file .kotlin ⟨.empty, [.empty]⟩ begins
    known (by decide)
  refine ⟨?_, free ["lib.Foo"] [] (by decide +kernel) (by decide +kernel)⟩
  refine (captured ?_).1 ["lib.Foo", "x.com", "y.com"] "x.com" (by decide +kernel)
  rintro _ ⟨⟩
  rfl

/-- An alias stands for a declared name, and an import that ends like the first segment of that name
takes its place. -/
theorem alias_captured :
    let foo : DeclaredName :=
      ⟨⟨"com.lib"⟩, [⟨"Foo", by decide⟩], .singleton .kotlin, "com.lib.Foo", List.cons_ne_nil _ _⟩
    let source := Store.empty.defer (.finish (.ok (.declarations [foo]))) []
    let built := Collection.build source.2 [⟨.normal, source.1, none⟩]
    let resolver : Resolver :=
      ⟨StageKind.defaultChain.map StageKind.stage, .nothing, none, some built.1, none⟩
    let file : FileContext := (FileContext.ofPath "a.kt" ⟨"com.app"⟩ .kotlin).withAlias "Foo"
      "com.lib.Foo"
    let ended (imports : List String) :=
      (resolver.resolve { file with imports := imports } "Foo" .kotlin ⟨built.2, []⟩).1
    ended [] = .finished (.ok (some ⟨"com.lib.Foo", .kotlin⟩)) ∧
      ended ["x.com"] = .finished (.ok (some ⟨"x.com.lib.Foo", .kotlin⟩)) := by
  decide +kernel

end Resolver

end Resolution

end SymbolResolver
