/-!
# Code point ranges

Character properties are kept as increasing lists of code point ranges. A look-up walks the list and
stops at the first range that begins after the code point.
-/

namespace SymbolResolver

namespace Text

/-- A closed interval of code points, by its first and last member. -/
abbrev CodeRange := Nat × Nat

/-- Whether an increasing list of ranges covers a code point. -/
def covered : List CodeRange → Nat → Bool
  | [], _ => false
  | (first, last) :: ranges, code =>
    if code < first then false else if code ≤ last then true else covered ranges code

/-- A run of code points at a fixed distance. -/
structure Stretch where
  /-- The first member. -/
  first : Nat
  /-- The last member. -/
  last : Nat
  /-- The distance between neighbours. -/
  step : Nat
deriving DecidableEq, Repr

/-- Whether a stretch holds a code point. -/
def Stretch.contains (stretch : Stretch) (code : Nat) : Bool :=
  stretch.first ≤ code && code ≤ stretch.last && (code - stretch.first) % stretch.step == 0

end Text

end SymbolResolver
