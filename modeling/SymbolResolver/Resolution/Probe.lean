import SymbolResolver.Resolution.Chain

/-!
# Probe stages

Small stages that note how they were entered and then do one simple thing. They show how a chain hands
requests on and answers back.
-/

namespace SymbolResolver

namespace Resolution

open Lazy

/-- What a probe does after its note. -/
inductive ProbeAction
  /-- Goes on. -/
  | proceed
  /-- Appends a simple name to the reference and goes on. -/
  | append (segment : String)
  /-- Replaces the reference and goes on. -/
  | replace (text : String)
  /-- Changes the language and goes on. -/
  | language (language : Language)
  /-- Answers with the reference. -/
  | echo
  /-- Answers with nothing. -/
  | stop
  /-- Fails. -/
  | fail (message : String)
  /-- Breaks off. -/
  | breakOff
  /-- Goes on, and answers with a text if nothing came back. -/
  | fallback (text : String)
  /-- Goes on, and appends a simple name to what came back. -/
  | suffix (segment : String)
  /-- Goes on, and turns an error into no answer. -/
  | recover
deriving DecidableEq, Repr

namespace ProbeAction

/-- The reference with a simple name appended. -/
def appended (reference : ReferenceName) (segment : String) : Outcome ReferenceName :=
  (Outcome.ofName (SimpleName.ofText segment)).map reference.append

/-- What a probe does with a request. -/
def intercept (request : Request) (next : Request → Resolving) : ProbeAction → Resolving
  | proceed => next request
  | append segment =>
    match appended request.reference segment with
    | .ok reference => next (request.withReference reference)
    | .error error => .fail error
  | replace text => next (request.withReference (request.reference.resolved text))
  | language changed => next (request.withReference (request.reference.withLanguage changed))
  | echo => .answer (some request.reference)
  | stop => .answer none
  | fail message => .fail (.computation message)
  | breakOff => .breakOff
  | fallback text =>
    (next request).mapOk fun answer =>
      match answer with
      | some reference => some reference
      | none => some (request.reference.resolved text)
  | suffix segment =>
    (next request).andThen fun answer =>
      match answer with
      | some reference => .finish ((appended reference segment).map some)
      | none => Resolving.answer none
  | recover =>
    (next request).bind fun outcome =>
      match outcome with
      | .ok answer => Resolving.answer answer
      | .error _ => Resolving.answer none

end ProbeAction

/-- A probe stage with a label for its notes. -/
def probe (label : String) (action : ProbeAction) : Stage where
  name := "custom"
  intercept place request next :=
    .note
      (.probed label place.position place.remaining request.reference.text request.written
        request.language)
      (action.intercept request next)

end Resolution

end SymbolResolver
