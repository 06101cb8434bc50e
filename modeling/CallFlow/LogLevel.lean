import CallFlow.Text.Case

/-!
# Levels of log messages

A message is shown if its level is not below the level in force.
-/

namespace CallFlow.LogLevel

def debug : Nat := 10
def info : Nat := 20
def warning : Nat := 30
def error : Nat := 40
def critical : Nat := 50

/-- The levels by name. -/
def named : List (String × Nat) :=
  [("CRITICAL", critical), ("FATAL", critical), ("ERROR", error), ("WARNING", warning),
    ("WARN", warning), ("INFO", info), ("DEBUG", debug), ("NOTSET", 0)]

/-- The level in force. Being quiet comes before being verbose, both come before the name in the
settings, and an unknown name means warnings. -/
def resolve (verbose quiet : Bool) (name : String) : Nat :=
  if quiet then error
  else if verbose then debug
  else (named.lookup (Text.upper name)).getD warning

/-- The levels of messages that are shown. -/
def enabled (level : Nat) : List Nat :=
  [debug, info, warning, error, critical].filter (level ≤ ·)

end CallFlow.LogLevel
