import CallFlow.Graph.Basic

/-!
# Information flow complexity

The square of the product of fan-in and fan-out, and a rating of it.
-/

namespace CallFlow

/-- Rating of a complexity. -/
inductive FlowRating where
  | none
  | low
  | medium
  | high
  | veryHigh
  deriving Repr, DecidableEq, Inhabited

namespace FlowRating

/-- The word for a rating. -/
def name : FlowRating → String
  | none => "None"
  | low => "Low"
  | medium => "Medium"
  | high => "High"
  | veryHigh => "Very High"

/-- All ratings. -/
def all : List FlowRating := [none, low, medium, high, veryHigh]

end FlowRating

/-- The square of the product; zero unless both flows are positive. -/
def flowComplexity (fanIn fanOut : Int) : Int :=
  if 0 < fanIn ∧ 0 < fanOut then (fanIn * fanOut) * (fanIn * fanOut) else 0

/-- Rates a complexity. The flows tell no flow at all from a low one. -/
def FlowRating.of (fanIn fanOut complexity : Int) : FlowRating :=
  if complexity > 100 then .veryHigh
  else if complexity > 25 then .high
  else if complexity > 5 then .medium
  else if fanIn = 0 ∧ fanOut = 0 then .none
  else .low

/-- The complexity of one function. -/
structure FlowEntry where
  function : String
  moduleName : String
  file : String
  line : Nat
  fanIn : Nat
  fanOut : Nat
  complexity : Nat
  rating : FlowRating
  deriving Repr, DecidableEq, Inhabited

/-- The complexity of a function with known figures. -/
def FlowEntry.of (f : FunctionFlow) : FlowEntry :=
  let complexity := flowComplexity f.fanIn f.fanOut
  { function := f.name, moduleName := f.moduleName, file := f.file, line := f.line
    fanIn := f.fanIn, fanOut := f.fanOut, complexity := complexity.toNat
    rating := FlowRating.of f.fanIn f.fanOut complexity }

end CallFlow
