import CallFlow.Number.Decimal

/-!
# Parameters of the analysis
-/

namespace CallFlow

/-- Keyword tables and thresholds. -/
structure AnalysisConfig where
  /-- Named groups of functions, each given by words that occur in the functions' names. -/
  groups : List (String × List String) :=
    [("room-management", ["generateRoomId", "create", "join"]),
      ("socket-handlers",
        ["connection", "create-room", "join-room", "draw", "canvas-state", "disconnect"]),
      ("canvas-management", ["canvas-state", "canvasState"])]
  /-- Words that relate the functions whose names share them. -/
  keywords : List String := ["room", "canvas", "user"]
  /-- Coupling by more calls than this is tight. -/
  tightThreshold : Nat := 5
  /-- Scores above this are high. -/
  highThreshold : Binary64 := Binary64.quotient 7 10
  /-- Other scores above this are medium. -/
  mediumThreshold : Binary64 := Binary64.quotient 3 10
  deriving Repr, DecidableEq, Inhabited

end CallFlow
