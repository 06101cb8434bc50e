import CallFlow.Metrics.Config
import CallFlow.Project.Discovery
import CallFlow.Schema.Reader

/-!
# Settings

All that a user may set, with the defaults, and the parts of the program that each setting concerns.
-/

namespace CallFlow

/-- All settings of a run. -/
structure Settings where
  extensions : List String := ({} : DiscoveryConfig).extensions
  excluded : List String := ({} : DiscoveryConfig).excluded
  skipHidden : Bool := true
  /-- Names whose direct calls are not recorded, by default in order of code points. -/
  denied : List String := defaultDenied.mergeSort fun a b => decide (a ≤ b)
  strict : Bool := false
  groups : List (String × List String) := ({} : AnalysisConfig).groups
  keywords : List String := ({} : AnalysisConfig).keywords
  tightThreshold : Nat := ({} : AnalysisConfig).tightThreshold
  highThreshold : Binary64 := ({} : AnalysisConfig).highThreshold
  mediumThreshold : Binary64 := ({} : AnalysisConfig).mediumThreshold
  reportName : String := "information-flow-metrics-report.txt"
  logLevel : String := "WARNING"
  deriving Repr, DecidableEq, Inhabited

namespace Settings

/-- What concerns the search for files. -/
def discovery (s : Settings) : DiscoveryConfig :=
  { extensions := s.extensions, excluded := s.excluded, skipHidden := s.skipHidden }

/-- What concerns the metrics. -/
def analysis (s : Settings) : AnalysisConfig :=
  { groups := s.groups, keywords := s.keywords, tightThreshold := s.tightThreshold
    highThreshold := s.highThreshold, mediumThreshold := s.mediumThreshold }

/-- What concerns the parser. -/
def parser (s : Settings) : ParserOptions :=
  { strict := s.strict, denied := s.denied }

/-- The fields of the settings, each with its default. -/
def fields : Schema.Fields Settings :=
  let d : Settings := {}
  let texts := Schema.list Schema.text
  Schema.Fields.start Settings.mk
    |>.default "extensions" texts d.extensions
    |>.default "exclude_dirs" texts d.excluded
    |>.default "skip_hidden" Schema.truth d.skipHidden
    |>.default "builtin_calls" texts d.denied
    |>.default "strict_syntax" Schema.truth d.strict
    |>.default "functional_groups" (Schema.table texts) d.groups
    |>.default "domain_keywords" texts d.keywords
    |>.default "tight_coupling_threshold" (Schema.atLeast 0) d.tightThreshold
    |>.default "high_cohesion_threshold" Schema.fraction d.highThreshold
    |>.default "medium_cohesion_threshold" Schema.fraction d.mediumThreshold
    |>.default "report_filename" Schema.text d.reportName
    |>.default "log_level" Schema.text d.logLevel

/-- The fields whose values are lists or tables, which plain text gives in JSON. -/
def structured : List String :=
  ["extensions", "exclude_dirs", "builtin_calls", "functional_groups", "domain_keywords"]

end Settings

end CallFlow
