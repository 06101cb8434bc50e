import CallFlow.Json.Writer
import CallFlow.Project.Analysis
import CallFlow.Schema.Metrics

/-!
# Projects and results as data
-/

namespace CallFlow

open Schema (Fields Reader)

namespace DiscoveryConfig

def fields : Fields DiscoveryConfig :=
  let d : DiscoveryConfig := {}
  let texts := Schema.list Schema.text
  Fields.start DiscoveryConfig.mk
    |>.default "extensions" texts d.extensions
    |>.default "exclude_dirs" texts d.excluded
    |>.default "skip_hidden" Schema.truth d.skipHidden

def read : Reader DiscoveryConfig := fields.strict

def toJson (c : DiscoveryConfig) : Json :=
  .object [("extensions", .strings c.extensions), ("exclude_dirs", .strings c.excluded),
    ("skip_hidden", .bool c.skipHidden)]

end DiscoveryConfig

namespace FileInfo

def fields : Fields FileInfo :=
  Fields.start FileInfo.mk
    |>.required "path" Schema.text
    |>.required "relative_path" Schema.text
    |>.optionalText "language"
    |>.count "size"

def read : Reader FileInfo := fields.strict

def toJson (f : FileInfo) : Json :=
  .object [("path", .string f.path), ("relative_path", .string f.relativePath),
    ("language", .optional .string f.language), ("size", .nat f.size)]

end FileInfo

namespace SkippedFile

def fields : Fields SkippedFile :=
  Fields.start SkippedFile.mk
    |>.required "file_path" Schema.text
    |>.required "error_type" Schema.text
    |>.required "message" Schema.text
    |>.default "line" (Schema.nullable Schema.whole) none

def read : Reader SkippedFile := fields.strict

def toJson (e : SkippedFile) : Json :=
  .object [("file_path", .string e.file), ("error_type", .string e.errorType),
    ("message", .string e.message), ("line", .optional .int e.line)]

end SkippedFile

/-- A point in time: a text, or a count of seconds or milliseconds. -/
def Timestamp.read : Reader Timestamp
  | .string s =>
    match Timestamp.parse? s with
    | some t => .ok t
    | none => .fault .unreadableTime
  | .int n => .ok (Timestamp.ofCount n)
  | _ => .fault .notTime

namespace AnalysisResult

/-- The fields of a result that was obtained at the time `now` unless it says otherwise. -/
def fields (now : Timestamp) : Fields AnalysisResult :=
  Fields.start AnalysisResult.mk
    |>.required "root" Schema.text
    |>.default "timestamp" Timestamp.read now
    |>.records "files" FileInfo.read
    |>.default "graph" CallGraph.read {}
    |>.default "metrics" MetricsReport.read { summary := {}, coupling := {} }
    |>.records "errors" SkippedFile.read
    |>.count "duration_ms"

def read (now : Timestamp) : Reader AnalysisResult := (fields now).lax

/-- The members of a result in front of and behind its graph. -/
def toJsonWith (graph : List (String × Json)) (r : AnalysisResult) : Json :=
  .object ([("root", .string r.root), ("timestamp", .string r.timestamp.write),
      ("files", .array (r.files.map (·.toJson)))] ++ graph ++
    [("metrics", r.metrics.toJson), ("errors", .array (r.errors.map (·.toJson))),
      ("duration_ms", .nat r.durationMs)])

/-- The whole result. -/
def toJson (r : AnalysisResult) : Json :=
  r.toJsonWith [("graph", r.graph.toJson)]

/-- The report as data: the result without its graph. -/
def report (r : AnalysisResult) : String :=
  (r.toJsonWith []).pretty

end AnalysisResult

end CallFlow
