import CallFlow.Json.Reader
import CallFlow.Settings.Assignments
import CallFlow.Settings.Basic

/-!
# Loading settings

Settings come from three sources: values given directly, environment variables, and a file of
assignments. An earlier source takes precedence over a later one, except that tables are merged.
-/

namespace CallFlow

/-- Where a text comes from. -/
inductive SettingsSource where
  | environment
  | file
  deriving Repr, DecidableEq, Inhabited

/-- The name of a source in messages. -/
def SettingsSource.name : SettingsSource → String
  | environment => "EnvSettingsSource"
  | file => "DotEnvSettingsSource"

/-- Why there are no settings. -/
inductive SettingsError where
  /-- The file of assignments is no text. -/
  | undecodable (fault : String)
  /-- The text for a list or table is not JSON. -/
  | unreadable (field : String) (source : SettingsSource)
  | invalid (faults : List Schema.Fault)
  deriving Repr, DecidableEq

/-- The wording of an unreadable text. Invalid values are reported fault by fault. -/
def SettingsError.message : SettingsError → String
  | undecodable fault => fault
  | unreadable field source =>
    "error parsing value for field \"" ++ field ++ "\" from source \"" ++ source.name ++ "\""
  | invalid _ => "invalid settings"

namespace Settings

/-- What the names of variables start with. -/
def variableStart : String := "flowmetrics_"

/-- The text for a field among variables. Letter case does not matter, and the last of several
variables counts. -/
def textOf? (texts : List (String × Option String)) (field : String) : Option String :=
  ((texts.reverse.find? fun v => Text.lower v.1 == variableStart ++ field).bind (·.2))

/-- The value that variables give to a field; a JSON `null` gives none. -/
def valueOf? (source : SettingsSource) (texts : List (String × Option String))
    (field : String) : Except SettingsError (Option Json) :=
  match textOf? texts field with
  | none => .ok none
  | some text =>
    if structured.contains field then
      match Json.parse? text with
      | some .null => .ok none
      | some v => .ok (some v)
      | none => .error (.unreadable field source)
    else .ok (some (.string text))

/-- The values that variables give to the fields. -/
def membersOf (source : SettingsSource) (texts : List (String × Option String)) :
    Except SettingsError Schema.Members := do
  let values ← fields.names.mapM fun field => do
    return (← valueOf? source texts field).map (field, ·)
  return values.filterMap id

/-- Puts one value over another: tables are merged, anything else is replaced. -/
def overlayValue : Json → Json → Json
  | .object low, .object high => .object (Json.mergeMembers (low ++ high))
  | _, high => high

/-- Puts members over others. -/
def overlay (low high : Schema.Members) : Schema.Members :=
  high.foldl (fun ms (k, v) =>
    Json.setMember k (((ms.lookup k).map (overlayValue · v)).getD v) ms) low

/-- Loads settings from values given directly, the environment, and the text of a file. -/
def load (direct : Schema.Members) (environment : List (String × String)) (file : Option String) :
    Except SettingsError Settings := do
  let fromEnvironment ← membersOf .environment (environment.map fun (k, v) => (k, some v))
  let fromFile ←
    match file with
    | none => pure []
    | some text => membersOf .file (Assignments.parse environment text.toList)
  let members := overlay (overlay fromFile fromEnvironment) direct
  (fields.lax (.object members)).toExcept.mapError .invalid

end Settings

end CallFlow
