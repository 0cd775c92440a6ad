import SymbolResolver.Resolution.Resolver

/-!
# Scripts over resolvers

The calls that can be made on a resolver, and what each of them answers. A script is a list of calls on
resolvers that work on one world.
-/

namespace SymbolResolver

namespace Resolution

/-- A call on a resolver. -/
inductive Call
  /-- Resolves a text in a file. -/
  | resolve (file : FileContext) (text : String) (language : Language)
  /-- Resolves the text of a node. -/
  | resolveNode (file : FileContext) (node : SyntaxNode) (language : Language)
  /-- Resolves the references of a file. -/
  | resolveAll (file : FileContext) (references : List ReferenceName)
  /-- Resolves several texts at once. -/
  | resolveTogether (texts : List (FileContext × String × Language))
  /-- Runs a chain on a request directly. -/
  | runChain (stages : List Stage) (request : Request)
  /-- Looks at the outcome of a request in the cache. -/
  | peek (key : CacheKey)
  /-- Removes the answers of a file from the cache. -/
  | invalidate (file : FileId)
  /-- Removes all answers from the cache. -/
  | clear

/-- What a call answers. -/
inductive CallReply
  /-- The answer to a request. -/
  | answer (ending : Ending Answer)
  /-- The answers to several requests. -/
  | answers (endings : List (Ending Answer))
  /-- The references of a file. -/
  | summary (ending : Ending Summary)
  /-- The outcome that the cache holds, if it holds one. -/
  | peeked (outcome : Option (Outcome Answer))
  /-- The number of removed answers. -/
  | removed (count : Nat)
  /-- All answers are removed. -/
  | cleared
  /-- There is no cache. -/
  | noCache

namespace Resolver

/-- Resolves several texts. The requests are independent of each other, so they are taken in order. -/
def resolveTogether (resolver : Resolver) :
    List (FileContext × String × Language) → World → List (Ending Answer) × World
  | [], world => ([], world)
  | (file, text, language) :: texts, world =>
    let (ending, world) := resolver.resolve file text language world
    let (endings, world) := resolver.resolveTogether texts world
    (ending :: endings, world)

/-- Makes a call. -/
def call (resolver : Resolver) (world : World) : Call → CallReply × World
  | .resolve file text language =>
    let (ending, world) := resolver.resolve file text language world
    (.answer ending, world)
  | .resolveNode file node language =>
    let (ending, world) := resolver.resolveNode file node language world
    (.answer ending, world)
  | .resolveAll file references =>
    let (ending, world) := resolver.resolveAll file references world
    (.summary ending, world)
  | .resolveTogether texts =>
    let (endings, world) := resolver.resolveTogether texts world
    (.answers endings, world)
  | .runChain stages request =>
    let (ending, world) := runDirectly (Chain.run stages request) world
    (.answer ending, world)
  | .peek key =>
    match resolver.cache? world with
    | some cache =>
      (.peeked ((cache.peek? world.store key).map fun outcome => outcome.map Payload.toAnswer), world)
    | none => (.noCache, world)
  | .invalidate file =>
    match resolver.cache? world with
    | some cache => (.removed (cache.countOf file), resolver.invalidate file world)
    | none => (.noCache, world)
  | .clear =>
    match resolver.cache? world with
    | some _ => (.cleared, resolver.clear world)
    | none => (.noCache, world)

/-- Makes calls one after the other. -/
def callAll : World → List (Resolver × Call) → List CallReply × World
  | world, [] => ([], world)
  | world, (resolver, made) :: calls =>
    let (reply, world) := resolver.call world made
    let (replies, world) := callAll world calls
    (reply :: replies, world)

end Resolver

end Resolution

end SymbolResolver
