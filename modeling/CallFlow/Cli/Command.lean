import CallFlow.Cli.Arguments
import CallFlow.Report.Text
import CallFlow.Schema.Project
import CallFlow.Settings.Load

/-!
# The command

What one run of the command prints and writes, as a function of its arguments, the time, and the
files it starts with. How arguments are read, settings are loaded and texts are parsed is left to
`Tools`.
-/

namespace CallFlow.Cli

/-- The name and version of the program. -/
def versionText : String := "flowmetrics 0.1.0"

/-- A reminder of how the command is called. -/
def usage : String :=
  "Usage: flowmetrics [--output FILE] [--json FILE] [--no-save] [--strict] [--verbose] [--quiet]" ++
    " [--version] [--help] [ROOT]"

/-- Why a command does not run. -/
inductive CommandError where
  | usage
  | settings (e : SettingsError)
  deriving Repr, DecidableEq

/-- What a run has printed and written. -/
structure Outcome where
  stdout : String := ""
  stderr : String := ""
  exitCode : Nat := 0
  /-- The files after the run. -/
  workspace : Workspace
  deriving Repr, Inhabited

namespace Outcome

/-- Prints a line. -/
def print (o : Outcome) (line : String) : Outcome := { o with stdout := o.stdout ++ line ++ "\n" }

/-- Prints a line to the other channel. -/
def note (o : Outcome) (line : String) : Outcome := { o with stderr := o.stderr ++ line ++ "\n" }

/-- Ends with a message. -/
def fail (o : Outcome) (message : String) : Outcome :=
  { o.note ("Error: " ++ message) with exitCode := 1 }

/-- Writes a text to a file and says so, or ends with a message. -/
def save (o : Outcome) (label : String) (path : Path) (text : String) : Except Outcome Outcome :=
  match o.workspace.write path (Text.Utf8.encode text.toList) with
  | .ok w => .ok (({ o with workspace := w } : Outcome).print (label ++ path.toString))
  | .error e => .error (o.fail ("cannot write report: " ++ e.message path.toString))

end Outcome

/-! ## Checks -/

/-- What a path as it was typed leads to. With a slash at its end it leads to no file. -/
def typedEntry? (w : Workspace) (text : String) : Option Entry :=
  if text.isEmpty then none
  else
    match w.find (Path.ofString text) with
    | .ok (.file content) =>
      let last := (Path.splitSlash text.toList).getLast?.getD []
      if Path.isVoid last then none else some (.file content)
    | .ok e => some e
    | .error _ => none

def isFile (w : Workspace) (text : String) : Bool :=
  match typedEntry? w text with
  | some (.file _) => true
  | _ => false

def isDirectory (w : Workspace) (text : String) : Bool :=
  match typedEntry? w text with
  | some (.directory _) => true
  | _ => false

/-- The project, unless it is a file or there is more than one. -/
def rootOf? (w : Workspace) (a : Arguments) : Option Path :=
  match a.positional with
  | [] => some (Path.ofString ".")
  | [root] => if isFile w root then none else some (Path.ofString root)
  | _ => none

/-- The file that an option names, unless it is a directory. -/
def fileOf? (w : Workspace) (a : Arguments) (s : Setting) : Option (Option Path) :=
  match a.value? s with
  | none => some none
  | some text => if isDirectory w text then none else some (some (Path.ofString text))

/-- What a run is to do. -/
structure Task where
  root : Path
  output : Option Path
  json : Option Path
  save : Bool
  strict : Bool
  verbose : Bool
  quiet : Bool
  deriving Repr, DecidableEq

/-- What the arguments ask for, if they are in order. -/
def Task.of? (w : Workspace) (a : Arguments) : Option Task := do
  let root ← rootOf? w a
  let output ← fileOf? w a .output
  let json ← fileOf? w a .json
  return { root := root, output := output, json := json, save := !a.has .noSave
           strict := a.has .strict, verbose := a.has .verbose, quiet := a.has .quiet }

/-! ## The run -/

/-- The settings in force: a task may be stricter than the settings that were loaded. -/
def Task.inForce (t : Task) (s : Settings) : Settings :=
  { s with strict := s.strict || t.strict }

/-- Saves what is to be saved. -/
def Task.saveAll (t : Task) (s : Settings) (text : String) (r : AnalysisResult) (o : Outcome) :
    Except Outcome Outcome := do
  let o ←
    if t.save then
      o.save "Report saved to: " (t.output.getD (t.root.join (Path.ofString s.reportName))) text
    else pure o
  match t.json with
  | some path => o.save "JSON saved to: " path r.report
  | none => pure o

/-- Analyses a project, prints the report and saves it. -/
def Task.perform (t : Task) (makeTree : String → Option ParsedTree) (s : Settings)
    (now : Timestamp) (w : Workspace) : Outcome :=
  let note (line : String) (o : Outcome) : Outcome := if t.quiet then o else o.note line
  let o : Outcome := { workspace := w }
  let o := note ("Analyzing information flow metrics in: " ++ t.root.toString) o
  match analyze makeTree s now w t.root with
  | .error e => o.fail e.message
  | .ok r =>
    let o := note ("Found " ++ toString r.files.length ++ " files to analyze:") o
    let o := r.files.foldl (fun o f => note ("   - " ++ f.relativePath) o) o
    let text := Report.text s.analysis r
    match t.saveAll s text r (o.print text) with
    | .ok o => o
    | .error o => o

/-- Runs a task unless it contradicts itself. The settings are loaded from the files that are there
at its start. -/
def Task.run (t : Task) (makeTree : String → Option ParsedTree)
    (load : Workspace → Except SettingsError Settings) (now : Timestamp) (w : Workspace) :
    Except CommandError Outcome :=
  if t.verbose && t.quiet then
    .ok (({ workspace := w } : Outcome).fail "--verbose and --quiet are mutually exclusive")
  else
    match load w with
    | .error e => .error (.settings e)
    | .ok s => .ok (t.perform makeTree (t.inForce s) now w)

/-- What the command leaves to others. -/
structure Tools where
  readArguments : List String → Option Arguments
  loadSettings : Workspace → Except SettingsError Settings
  makeTree : String → Option ParsedTree

/-- Runs the command. The version or the reminder is printed as soon as the arguments can be read at
all, whichever was asked for first. -/
def run (tools : Tools) (args : List String) (now : Timestamp) (w : Workspace) :
    Except CommandError Outcome :=
  match tools.readArguments args with
  | none => .error .usage
  | some a =>
    match a.flags.find? fun f => f == .version || f == .help with
    | some .version => .ok (({ workspace := w } : Outcome).print versionText)
    | some _ => .ok (({ workspace := w } : Outcome).print usage)
    | none =>
      match Task.of? w a with
      | none => .error .usage
      | some t => t.run tools.makeTree tools.loadSettings now w

/-! ## The tools at hand -/

/-- The text of the file of assignments in the current directory. -/
def assignmentsText (w : Workspace) : Except SettingsError (Option String) :=
  match w.find (Path.ofString ".env") with
  | .ok (.file content) =>
    match Text.Utf8.decode? content with
    | some text => .ok (some (String.ofList (uniformLines text)))
    | none => .error (.undecodable ((Text.Utf8.fault? content).getD ""))
  | _ => .ok none

/-- Loads the settings in force in the current directory. -/
def loadSettings (direct : Schema.Members) (environment : List (String × String)) (w : Workspace) :
    Except SettingsError Settings := do
  Settings.load direct environment (← assignmentsText w)

/-- The tools of the program, under the given environment. -/
def Tools.standard (environment : List (String × String)) : Tools where
  readArguments := ({} : Arguments).read?
  loadSettings := Cli.loadSettings [] environment
  makeTree := javascriptTree

end CallFlow.Cli
