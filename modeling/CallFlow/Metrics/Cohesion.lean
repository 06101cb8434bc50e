import CallFlow.Graph.Target
import CallFlow.Metrics.Coupling

/-!
# Cohesion

The share of a module's pairs of functions that are related.
-/

namespace CallFlow

/-- Rating of a cohesion score. -/
inductive CohesionRating where
  | high
  | medium
  | low
  deriving Repr, DecidableEq, Inhabited

namespace CohesionRating

/-- The word for a rating. -/
def name : CohesionRating → String
  | high => "High"
  | medium => "Medium"
  | low => "Low"

/-- All ratings. -/
def all : List CohesionRating := [high, medium, low]

end CohesionRating

/-- Rates a score by the thresholds. -/
def CohesionRating.of (c : AnalysisConfig) (score : Binary64) : CohesionRating :=
  if c.highThreshold < score then .high
  else if c.mediumThreshold < score then .medium
  else .low

/-- The cohesion of a module. -/
structure CohesionScore where
  moduleName : String
  path : String
  /-- From zero to one. -/
  cohesion : Binary64
  relatedPairs : Nat := 0
  totalPairs : Nat := 0
  rating : CohesionRating
  /-- Why there are no pairs. -/
  reason : Option String := none
  deriving Repr, DecidableEq, Inhabited

/-- Have the lists a common element? -/
def meet (xs ys : List String) : Bool :=
  xs.any ys.contains

/-- Does a function call something whose name contains the other's? -/
def callsNameOf (f g : FunctionRecord) : Bool :=
  f.calls.any (Target.mentions · g.name)

/-- Two functions are related if one calls the other, if they share a parameter name or the object of
a call, or if a keyword occurs in both names. -/
def related (keywords : List String) (f g : FunctionRecord) : Bool :=
  callsNameOf f g || callsNameOf g f ||
    meet f.parameters g.parameters ||
    meet (f.calls.map Target.base) (g.calls.map Target.base) ||
    keywords.any fun k => Text.contains f.name k && Text.contains g.name k

/-- Number of related pairs. -/
def relatedCount (keywords : List String) (functions : List FunctionRecord) : Nat :=
  (pairsOf functions).countP fun p => related keywords p.1 p.2

/-- The cohesion of a module. One with fewer than two functions is fully cohesive. -/
def CohesionScore.of (c : AnalysisConfig) (u : SourceUnit) : CohesionScore :=
  match u.functions with
  | [] => whole "no functions"
  | [_] => whole "single function module"
  | fs =>
    let total := (pairsOf fs).length
    let score := Binary64.quotient (relatedCount c.keywords fs) total
    { moduleName := u.moduleName, path := u.path, cohesion := score
      relatedPairs := relatedCount c.keywords fs, totalPairs := total
      rating := CohesionRating.of c score }
where
  whole (reason : String) : CohesionScore :=
    { moduleName := u.moduleName, path := u.path, cohesion := Binary64.one
      rating := CohesionRating.of c Binary64.one, reason := some reason }

end CallFlow
