import CallFlow.Graph.Builder
import CallFlow.Metrics.Report
import CallFlow.Project.Discovery
import CallFlow.Project.ParseFile
import CallFlow.Settings.Basic
import CallFlow.Timestamp

/-!
# Analysing a project

All files below a directory are found, parsed one by one, and joined into one call graph with its
metrics. A file that cannot be parsed is skipped and recorded.
-/

namespace CallFlow

/-- A file that was skipped, and why. -/
structure SkippedFile where
  file : String
  /-- What kind of failure it was. -/
  errorType : String
  message : String
  line : Option Int := none
  deriving Repr, DecidableEq, Inhabited

/-- The result of an analysis. -/
structure AnalysisResult where
  root : String
  timestamp : Timestamp
  files : List FileInfo := []
  graph : CallGraph := {}
  metrics : MetricsReport := { summary := {}, coupling := {} }
  errors : List SkippedFile := []
  durationMs : Nat := 0
  deriving Repr, DecidableEq, Inhabited

namespace AnalysisResult

/-- Number of files in the graph. -/
def filesProcessed (r : AnalysisResult) : Nat := r.graph.units.length

/-- The share of files that were not skipped, in percent. -/
def successRate (r : AnalysisResult) : Binary64 :=
  let total := r.filesProcessed + r.errors.length
  if total = 0 then Binary64.ofNat 100
  else (Binary64.quotient r.filesProcessed total).scale 100

end AnalysisResult

/-! ## Failures of single files -/

/-- Why one file has no records. -/
structure FileFailure where
  errorType : String
  message : String
  line : Option Nat := none
  deriving Repr, DecidableEq, Inhabited

/-- What is recorded of a failure to parse. -/
def FileFailure.of : ParseFailure → FileFailure
  | .parser e => ⟨"ParserError", e.fault.message, e.line⟩
  | .fileMissing p => ⟨"FileNotFoundError", (ParseFailure.fileMissing p).message, none⟩
  | .languageUnknown => ⟨"ValueError", ParseFailure.languageUnknown.message, none⟩

/-- The record of a skipped file. -/
def SkippedFile.of (f : FileInfo) (e : FileFailure) : SkippedFile :=
  ⟨f.path, e.errorType, e.message, e.line.map Int.ofNat⟩

/-! ## The run -/

/-- What has been collected so far. -/
structure Collected where
  builder : GraphBuilder := {}
  errors : List SkippedFile := []
  deriving Repr, DecidableEq, Inhabited

/-- Takes in one file with the outcome of parsing it. -/
def Collected.add (c : Collected) (f : FileInfo) (outcome : Except FileFailure SourceUnit) :
    Except BuilderError Collected :=
  match outcome with
  | .ok u => do
    let (_, b) ← (GraphBuilder.add u).outcome c.builder
    return { c with builder := b }
  | .error e => .ok { c with errors := c.errors ++ [SkippedFile.of f e] }

/-- Why an analysis has no result. -/
inductive AnalysisError where
  | noSourceFiles (root : String)
  | builder (e : BuilderError)
  deriving Repr, DecidableEq

/-- The wording of a failed analysis. -/
def AnalysisError.message : AnalysisError → String
  | noSourceFiles root => "No JavaScript files found under " ++ root
  | builder e => e.message

/-- Takes in all files in turn, given the outcome of parsing each of them. -/
def Collected.ofFiles (parse : String → Except FileFailure SourceUnit) (files : List FileInfo) :
    Except BuilderError Collected :=
  files.foldlM (fun c f => c.add f (parse f.path)) {}

/-- The result for a list of files, given the outcome of parsing each of them. -/
def AnalysisResult.ofFiles (config : AnalysisConfig) (now : Timestamp) (root : String)
    (parse : String → Except FileFailure SourceUnit) (files : List FileInfo) :
    Except BuilderError AnalysisResult := do
  let c ← Collected.ofFiles parse files
  let (graph, _) ← GraphBuilder.build.outcome c.builder
  return { root := root, timestamp := now, files := files, graph := graph
           metrics := MetricsReport.of config graph, errors := c.errors }

/-- Analyses a list of files, which may not be empty. -/
def analyzeFiles (config : AnalysisConfig) (now : Timestamp) (root : String)
    (parse : String → Except FileFailure SourceUnit) (files : List FileInfo) :
    Except AnalysisError AnalysisResult :=
  if files.isEmpty then .error (.noSourceFiles root)
  else (AnalysisResult.ofFiles config now root parse files).mapError .builder

/-- The outcome of parsing one file. -/
def parseOutcome (makeTree : String → Option ParsedTree) (s : Settings) (w : Workspace)
    (path : String) : Except FileFailure SourceUnit :=
  match parseFile s.parser makeTree .utf8 w (Path.ofString path) with
  | .ok r => .ok r.unit
  | .error e => .error (FileFailure.of e)

/-- Analyses the project below a directory. -/
def analyze (makeTree : String → Option ParsedTree) (s : Settings) (now : Timestamp)
    (w : Workspace) (root : Path) : Except AnalysisError AnalysisResult :=
  analyzeFiles s.analysis now root.toString (parseOutcome makeTree s w)
    (discover s.discovery w root)

/-- The progress of a run: for each file its number from 1, their total, and its path. -/
def progressOf (files : List FileInfo) : List (Nat × Nat × String) :=
  files.mapIdx fun i f => (i + 1, files.length, f.relativePath)

end CallFlow
