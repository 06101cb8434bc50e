import CallFlow.Project.Analysis

/-!
# The text report

Boxes of fixed width, one for each part of the result. Every line of a box is 80 characters wide as
long as its contents fit.
-/

namespace CallFlow.Report

/-! ## Lines -/

/-- Number of characters between the sides of a box. -/
def width : Nat := 78

/-- Width of the columns for names. -/
def nameWidth : Nat := 28

/-- Width of the column for modules. -/
def moduleWidth : Nat := 12

/-- Repeats a character. -/
def repeated (n : Nat) (c : Char) : List Char := List.replicate n c

/-- Fills a text up at its right. -/
def padRight (n : Nat) (s : List Char) : List Char :=
  s ++ repeated (n - s.length) ' '

/-- Fills a text up at its left. -/
def padLeft (n : Nat) (s : List Char) : List Char :=
  repeated (n - s.length) ' ' ++ s

/-- Puts a text into the middle; of an odd number of blanks, the odd one goes to the left if the
width is odd too, else to the right. -/
def center (n : Nat) (s : List Char) : List Char :=
  let blanks := n - s.length
  let left := blanks / 2 + (if blanks % 2 = 1 ∧ n % 2 = 1 then 1 else 0)
  repeated left ' ' ++ s ++ repeated (blanks - left) ' '

/-- The characters before the place `stop`, which counts from the end if it is negative. -/
def before (stop : Int) (s : List Char) : List Char :=
  s.take (if stop < 0 then (s.length + stop).toNat else stop.toNat)

/-- Shortens a text to a width, and marks the cut by three points. -/
def truncate (s : List Char) (n : Int) : List Char :=
  if (s.length : Int) ≤ n then s else before (n - 3) s ++ ['.', '.', '.']

/-- A text in a column of fixed width. -/
def column (n : Nat) (s : String) : List Char :=
  padRight n (truncate s.toList n)

/-- A number in a column of fixed width. -/
def figure (n : Nat) (k : Nat) : List Char :=
  padLeft n (toString k).toList

/-- What stands between two columns. -/
def bar : List Char := [' ', '│', ' ']

/-! ## Boxes -/

/-- A horizontal line between two corners. -/
def rule (left right : Char) : List Char :=
  left :: repeated width '═' ++ [right]

/-- A line between the sides. -/
def row (s : List Char) : List Char :=
  ['║', ' ', ' '] ++ padRight (width - 2) s ++ ['║']

/-- A box with a title, and an empty line below it. -/
def box (title : String) (rows : List (List Char)) : List (List Char) :=
  [rule '╔' '╗', row (center (width - 4) title.toList), rule '╠' '╣'] ++ rows.map row ++
    [rule '╚' '╝', []]

/-! ## Contents of the boxes -/

/-- A label with its value. -/
def labelled (label : String) (value : List Char) : List Char :=
  padRight 36 label.toList ++ padLeft 10 value

/-- Numbers with two decimal places. -/
def twoPlaces (x : Binary64) : List Char := (Decimal.writeFixed 2 x).toList

def summaryRows (s : ProjectSummary) : List (List Char) :=
  let whole (n : Nat) := (toString n).toList
  [labelled "Total Modules Analyzed:" (whole s.totalModules),
    labelled "Total Functions:" (whole s.totalFunctions),
    [],
    labelled "Total Fan-In:" (whole s.totalFanIn),
    labelled "Total Fan-Out:" (whole s.totalFanOut),
    [],
    labelled "Average Fan-In:" (twoPlaces s.averageFanIn),
    labelled "Average Fan-Out:" (twoPlaces s.averageFanOut)]

/-- The header of the table of functions. -/
def functionHeader : List Char :=
  padRight nameWidth "Function".toList ++ bar ++ padRight moduleWidth "Module".toList ++ bar ++
    padLeft 6 "Fan-In".toList ++ bar ++ padLeft 7 "Fan-Out".toList

def functionRow (f : FunctionFlow) : List Char :=
  column nameWidth f.name ++ bar ++ column moduleWidth f.moduleName ++ bar ++
    figure 6 f.fanIn ++ bar ++ figure 7 f.fanOut

def functionRows (fs : List FunctionFlow) : List (List Char) :=
  functionHeader :: fs.map functionRow

/-- The header of the table of modules. -/
def moduleHeader : List Char :=
  padRight nameWidth "Module".toList ++ bar ++ padLeft 9 "Functions".toList ++ bar ++
    padLeft 6 "Fan-In".toList ++ bar ++ padLeft 7 "Fan-Out".toList

def moduleRow (m : ModuleFlow) : List Char :=
  column nameWidth m.name ++ bar ++ figure 9 m.functionCount ++ bar ++ figure 6 m.fanIn ++ bar ++
    figure 7 m.fanOut

def moduleRows (ms : List ModuleFlow) : List (List Char) :=
  moduleHeader :: ms.map moduleRow

/-- The header of the table of complexities. -/
def flowHeader : List Char :=
  padRight nameWidth "Function".toList ++ bar ++ padLeft 4 "In".toList ++ bar ++
    padLeft 4 "Out".toList ++ bar ++ padLeft 8 "IFC".toList ++ bar ++ "Rating".toList

def flowRow (e : FlowEntry) : List Char :=
  column nameWidth e.function ++ bar ++ figure 4 e.fanIn ++ bar ++ figure 4 e.fanOut ++ bar ++
    figure 8 e.complexity ++ bar ++ e.rating.name.toList

/-- The entries by falling complexity; those of equal complexity keep their order. -/
def byComplexity (es : List FlowEntry) : List FlowEntry :=
  es.mergeSort fun a b => b.complexity ≤ a.complexity

def flowRows (es : List FlowEntry) : List (List Char) :=
  flowHeader :: (byComplexity es).map flowRow

def pairRow (p : CouplingPair) : List Char :=
  column 24 p.first ++ " <-> ".toList ++ column 24 p.second ++ [' '] ++ figure 5 p.calls ++
    [' ', ' '] ++ p.kind.name.toList

def couplingRows (c : AnalysisConfig) (r : CouplingReport) : List (List Char) :=
  let t := toString c.tightThreshold
  [labelled ("Tight Coupling (>" ++ t ++ " calls):") (toString r.tight).toList,
    labelled ("Loose Coupling (1-" ++ t ++ " calls):") (toString r.loose).toList,
    []] ++
  if r.pairs.isEmpty then ["No coupling detected".toList]
  else (if r.byGroup then "Functional groups" else "Modules").toList :: r.pairs.map pairRow

/-- The header of the table of cohesion. -/
def cohesionHeader : List Char :=
  padRight nameWidth "Module".toList ++ bar ++ padLeft 8 "Cohesion".toList ++ bar ++
    padLeft 9 "Pairs".toList ++ bar ++ "Rating".toList

/-- The row of a module, and one for the reason if there is any. -/
def cohesionRow (s : CohesionScore) : List (List Char) :=
  let pairs := (toString s.relatedPairs ++ "/" ++ toString s.totalPairs).toList
  (column nameWidth s.moduleName ++ bar ++ padLeft 8 (twoPlaces s.cohesion) ++ bar ++
      padLeft 9 pairs ++ bar ++ s.rating.name.toList) ::
    match s.reason.filter (!·.isEmpty) with
    | some reason => [repeated nameWidth ' ' ++ ("   (" ++ reason ++ ")").toList]
    | none => []

def cohesionRows (ss : List CohesionScore) : List (List Char) :=
  cohesionHeader :: ss.flatMap cohesionRow

/-- Where a skipped file failed and why. Line zero counts as unknown. -/
def errorRow (e : SkippedFile) : List Char :=
  let place :=
    match e.line.filter (· != 0) with
    | some line => e.file ++ ":" ++ toString line
    | none => e.file
  (place ++ "  [" ++ e.errorType ++ "] " ++ e.message).toList

def interpretationRows (c : AnalysisConfig) : List (List Char) :=
  let t := toString c.tightThreshold
  let general (x : Binary64) := Decimal.writeGeneral 6 x
  ["Fan-In:    Number of distinct callers of a function",
    "           Higher = more reused",
    "Fan-Out:   Number of distinct user functions it calls directly",
    "           Higher = more dependencies; keep below 7",
    "IFC:       (Fan-In x Fan-Out)^2, 0 unless both are non-zero",
    "           >5 Medium, >25 High, >100 Very High",
    "Coupling:  Calls between two modules or groups",
    "           >" ++ t ++ " tight, 1-" ++ t ++ " loose",
    "Cohesion:  Share of function pairs that call each other, share a",
    "           parameter, share a call target or a domain keyword",
    "           >" ++ general c.highThreshold ++ " High, >" ++ general c.mediumThreshold ++
      " Medium, otherwise Low",
    "",
    "Best practice: high fan-in, low fan-out"].map String.toList

/-! ## The report -/

/-- A box that is left out if it has nothing to show. -/
def boxUnless (isEmpty : Bool) (title : String) (rows : List (List Char)) : List (List Char) :=
  if isEmpty then [] else box title rows

/-- All lines of the report. -/
def lines (c : AnalysisConfig) (r : AnalysisResult) : List (List Char) :=
  let m := r.metrics
  box "INFORMATION FLOW METRICS - FAN-IN/FAN-OUT"
      [("Generated: " ++ r.timestamp.display).toList, ("Root:      " ++ r.root).toList] ++
    box "PROJECT SUMMARY" (summaryRows m.summary) ++
    boxUnless m.functions.isEmpty "FUNCTION-LEVEL METRICS" (functionRows m.functions) ++
    boxUnless m.modules.isEmpty "MODULE-LEVEL METRICS" (moduleRows m.modules) ++
    boxUnless m.informationFlow.isEmpty "INFORMATION FLOW COMPLEXITY"
      (flowRows m.informationFlow) ++
    box "COUPLING" (couplingRows c m.coupling) ++
    boxUnless m.cohesion.isEmpty "COHESION" (cohesionRows m.cohesion) ++
    boxUnless r.errors.isEmpty "SKIPPED FILES" (r.errors.map errorRow) ++
    box "INTERPRETATION" (interpretationRows c)

/-- The report as one text. -/
def text (c : AnalysisConfig) (r : AnalysisResult) : String :=
  "\n".intercalate ((lines c r).map String.ofList)

end CallFlow.Report
