import SymbolResolver.Config
import SymbolResolver.Resolution.Cache

/-!
# Resolvers

A resolver sends references through its chain of stages. If it has a cache, every request runs the
chain at most once. The cells and caches that resolvers work on form a world, which is passed from
one request to the next.
-/

namespace SymbolResolver

namespace Resolution

open Lazy

/-- The cells and caches that resolvers share. -/
structure World where
  /-- The cells of declaration sources and cached answers. -/
  store : Store Event Payload
  /-- The caches, by number. -/
  caches : List Cache

/-- The world before anything has been built. -/
def World.empty : World := ⟨.empty, []⟩

/-- Makes a new cache. -/
def World.addCache (world : World) : Nat × World :=
  (world.caches.length, { world with caches := world.caches ++ [.empty] })

/-- A resolver: its chain, and the lookups that every request carries. -/
structure Resolver where
  /-- The stages in the order they run. -/
  stages : List Stage
  /-- The standard library. -/
  stdlib : StdlibLookup
  /-- The semantic bindings, if there are any. -/
  binding : Option Binding
  /-- The known declarations, if there are any. -/
  declarations : Option (Collection DeclaredName)
  /-- The number of the cache, if answers are kept. -/
  cache : Option Nat

/-- How a request ends. -/
abbrev Ending (α : Type) := Computation.Progress (Outcome α)

/-- Goes on with a success in the world that it has left, and passes every other ending through. -/
def World.andThen {α β : Type} :
    Ending α × World → (α → World → Ending β × World) → Ending β × World
  | (.finished (.ok value), world), continuation => continuation value world
  | (.finished (.error error), world), _ => (.finished (.error error), world)
  | (.brokenOff, world), _ => (.brokenOff, world)
  | (.waiting, world), _ => (.waiting, world)

/-- A reference with what it refers to. -/
structure ResolvedReference where
  /-- The reference as written. -/
  written : ReferenceName
  /-- What it refers to. -/
  resolved : ReferenceName
deriving DecidableEq, Repr

/-- The result of resolving the references of a file. -/
structure Summary where
  /-- The resolved references, in order. -/
  resolved : List ResolvedReference
  /-- The references without an answer, in order. -/
  unresolved : List ReferenceName
  /-- The number of references. -/
  total : Nat
deriving DecidableEq, Repr

/-- The summary of references with their answers. -/
def Summary.ofAnswers (answers : List (ReferenceName × Answer)) : Summary where
  resolved := answers.filterMap fun (written, answer) => answer.map (⟨written, ·⟩)
  unresolved := answers.filterMap fun (written, answer) =>
    if answer.isNone then some written else none
  total := answers.length

namespace Resolver

/-- The resolver of a chain without any lookups. -/
def ofStages (stages : List Stage) (cache : Option Nat) : Resolver :=
  ⟨stages, .nothing, none, none, cache⟩

/-- The resolver that a configuration describes, with a cache of its own if answers are kept. -/
def ofConfig (config : Config) (world : World) : Resolver × World :=
  let stages := config.stages.map StageKind.stage
  let resolver (cache : Option Nat) : Resolver :=
    { ofStages stages cache with stdlib := .ofTable config.stdlib }
  if config.cacheResults then
    let (cache, world) := world.addCache
    (resolver (some cache), world)
  else (resolver none, world)

/-- The names of the stages. -/
def stageNames (resolver : Resolver) : List String := resolver.stages.map Stage.name

/-- The request for a text, with everything that the resolver knows. -/
def request (resolver : Resolver) (file : FileContext) (text : String) (language : Language)
    (node : Option SyntaxNode) : Request :=
  { Request.ofText file text language resolver.stdlib with
    binding := resolver.binding, node := node, declarations := resolver.declarations }

/-- The key of a request. -/
def keyOf (request : Request) : CacheKey :=
  ⟨request.file.id, request.written, request.language, request.node.map SyntaxNode.id⟩

/-- The cells that a request refers to. -/
def neededBy (request : Request) : List Nat :=
  (request.declarations.map Collection.cells).getD []

/-- Runs a course of resolution that belongs to no cell. -/
def runDirectly (work : Resolving) (world : World) : Ending Answer × World :=
  let (rest, store) := world.store.run work
  (rest.progress, { world with store := store })

/-- Runs the chain for a request, or shares the run of an earlier request with its key. -/
def dispatch (resolver : Resolver) (request : Request) (world : World) : Ending Answer × World :=
  match resolver.cache with
  | none => runDirectly (Chain.run resolver.stages request) world
  | some number =>
    let work := (Chain.run resolver.stages request).mapOk Payload.answer
    let (cell, cache, store) :=
      (world.caches[number]?.getD .empty).request world.store (keyOf request) work
        (neededBy request)
    runDirectly ((Computation.outcomeOf cell).mapOk Payload.toAnswer)
      ⟨store, world.caches.set number cache⟩

/-- Resolves a text in a file. -/
def resolve (resolver : Resolver) (file : FileContext) (text : String) (language : Language)
    (world : World) : Ending Answer × World :=
  resolver.dispatch (resolver.request file text language none) world

/-- Resolves the text of a node, which the semantic bindings can be asked about. -/
def resolveNode (resolver : Resolver) (file : FileContext) (node : SyntaxNode)
    (language : Language) (world : World) : Ending Answer × World :=
  resolver.dispatch (resolver.request file node.text language (some node)) world

/-- Resolves references one after the other. The first failure ends it. -/
def resolveEach (resolver : Resolver) (file : FileContext) :
    List ReferenceName → World → Ending (List (ReferenceName × Answer)) × World
  | [], world => (.finished (.ok []), world)
  | reference :: references, world =>
    World.andThen (resolver.resolve file reference.text reference.language world)
      fun answer world =>
        World.andThen (resolver.resolveEach file references world) fun answers world =>
          (.finished (.ok ((reference, answer) :: answers)), world)

/-- Resolves the references of a file. -/
def resolveAll (resolver : Resolver) (file : FileContext) (references : List ReferenceName)
    (world : World) : Ending Summary × World :=
  World.andThen (resolver.resolveEach file references world) fun answers world =>
    (.finished (.ok (.ofAnswers answers)), world)

/-- The cache of a resolver, if it has one. -/
def cache? (resolver : Resolver) (world : World) : Option Cache :=
  resolver.cache.bind fun number => world.caches[number]?

/-- Removes the answers of a file. -/
def invalidate (resolver : Resolver) (file : FileId) (world : World) : World :=
  match resolver.cache with
  | some number => { world with caches := world.caches.modify number (·.invalidate file) }
  | none => world

/-- Removes all answers. -/
def clear (resolver : Resolver) (world : World) : World :=
  match resolver.cache with
  | some number => { world with caches := world.caches.set number .empty }
  | none => world

end Resolver

end Resolution

end SymbolResolver
