import CallFlow.Project.Analysis
import CallFlow.Proofs.CallerTable
import CallFlow.Proofs.Discovery
import Mathlib.Data.List.Nodup

/-!
# Every file is accounted for

A run takes in one file after the other, and each gives a unit or a record of why it was skipped.
The builder ignores a unit whose path it has already, and would lose a file without a trace if two
files shared a path or if a unit had another path than its file. Neither happens:

* `AnalysisResult.ofFiles_eq` — what a run makes of any list of files and any outcomes of parsing;
* `nodup_path_discover` — the files that are found have distinct paths;
* `path_of_parseFile` — parsing passes the path on unchanged;
* `every_file_once` — so each file that is found gives one unit or one record, and not both.
-/

namespace CallFlow

/-! ## What a run makes of a list of files -/

/-- The unit that a file gives. -/
def unit? (parse : String → Except FileFailure SourceUnit) (f : FileInfo) : Option SourceUnit :=
  (parse f.path).toOption

/-- The record of a file that gives no unit. -/
def skipped? (parse : String → Except FileFailure SourceUnit) (f : FileInfo) :
    Option SkippedFile :=
  match parse f.path with
  | .ok _ => none
  | .error e => some (SkippedFile.of f e)

section Outcomes

variable {parse : String → Except FileFailure SourceUnit} {f : FileInfo}

theorem unit?_of_ok {u : SourceUnit} (h : parse f.path = .ok u) : unit? parse f = some u := by
  simp [unit?, h, Except.toOption]

theorem unit?_of_error {e : FileFailure} (h : parse f.path = .error e) :
    unit? parse f = none := by
  simp [unit?, h, Except.toOption]

theorem skipped?_of_ok {u : SourceUnit} (h : parse f.path = .ok u) :
    skipped? parse f = none := by
  simp [skipped?, h]

theorem skipped?_of_error {e : FileFailure} (h : parse f.path = .error e) :
    skipped? parse f = some (SkippedFile.of f e) := by
  simp [skipped?, h]

end Outcomes

/-- A run over some files: the builder keeps the first unit of each path, and every failure is
recorded. -/
theorem Collected.foldlM_add (parse : String → Except FileFailure SourceUnit)
    (files : List FileInfo) : ∀ (kept : List SourceUnit) (errors : List SkippedFile),
      files.foldlM (fun (c : Collected) f => c.add f (parse f.path)) ⟨.of kept false, errors⟩ =
        .ok ⟨.of ((files.filterMap (unit? parse)).foldl (insertNew SourceUnit.path) kept) false,
          errors ++ files.filterMap (skipped? parse)⟩ := by
  induction files with
  | nil =>
    intro kept errors
    simp only [List.foldlM_nil, List.filterMap_nil, List.foldl_nil, List.append_nil]
    rfl
  | cons f files ih =>
    intro kept errors
    rw [List.foldlM_cons]
    cases hparse : parse f.path with
    | ok u =>
      rw [List.filterMap_cons_some (unit?_of_ok hparse),
        List.filterMap_cons_none (skipped?_of_ok hparse), List.foldl_cons]
      simp only [Collected.add, BuilderM.outcome, GraphBuilder.add_eq]
      exact ih _ _
    | error e =>
      rw [List.filterMap_cons_none (unit?_of_error hparse),
        List.filterMap_cons_some (skipped?_of_error hparse), List.append_cons]
      exact ih _ _

/-- The result for any list of files. -/
theorem AnalysisResult.ofFiles_eq (config : AnalysisConfig) (now : Timestamp) (root : String)
    (parse : String → Except FileFailure SourceUnit) (files : List FileInfo) :
    let graph := CallGraph.ofUnits (files.filterMap (unit? parse))
    AnalysisResult.ofFiles config now root parse files =
      .ok { root := root, timestamp := now, files := files, graph := graph
            metrics := MetricsReport.of config graph
            errors := files.filterMap (skipped? parse) } := by
  intro graph
  have hcollected : Collected.ofFiles parse files =
      .ok ⟨.of (keptUnits (files.filterMap (unit? parse))) false,
        files.filterMap (skipped? parse)⟩ :=
    Collected.foldlM_add parse files [] []
  rw [AnalysisResult.ofFiles, hcollected]
  simp only [bind, Except.bind, BuilderM.outcome, GraphBuilder.build_eq]
  rfl

/-! ## Units and errors together -/

section Together

variable {parse : String → Except FileFailure SourceUnit} {files : List FileInfo}

/-- The paths of the units are those of the files that give one. -/
theorem map_path_units (h : ∀ f ∈ files, ∀ u, parse f.path = .ok u → u.path = f.path) :
    (files.filterMap (unit? parse)).map (·.path) =
      (files.filter fun f => (parse f.path).isOk).map (·.path) := by
  induction files with
  | nil => rfl
  | cons f files ih =>
    have ih := ih fun g hg => h g (List.mem_cons_of_mem _ hg)
    cases hparse : parse f.path with
    | ok u =>
      rw [List.filterMap_cons_some (unit?_of_ok hparse), List.map_cons,
        h f (List.mem_cons_self ..) u hparse, ih, List.filter_cons_of_pos (by rw [hparse]; rfl),
        List.map_cons]
    | error e =>
      rw [List.filterMap_cons_none (unit?_of_error hparse), ih,
        List.filter_cons_of_neg (by rw [hparse]; exact Bool.false_ne_true)]

/-- The paths of the errors are those of the other files. -/
theorem map_file_skipped (parse : String → Except FileFailure SourceUnit)
    (files : List FileInfo) :
    (files.filterMap (skipped? parse)).map (·.file) =
      (files.filter fun f => !(parse f.path).isOk).map (·.path) := by
  induction files with
  | nil => rfl
  | cons f files ih =>
    cases hparse : parse f.path with
    | ok u =>
      rw [List.filterMap_cons_none (skipped?_of_ok hparse), ih,
        List.filter_cons_of_neg (by rw [hparse]; exact Bool.false_ne_true)]
    | error e =>
      rw [List.filterMap_cons_some (skipped?_of_error hparse), List.map_cons, ih,
        List.filter_cons_of_pos (by rw [hparse]; rfl), List.map_cons]
      rfl

theorem paths_perm (h : ∀ f ∈ files, ∀ u, parse f.path = .ok u → u.path = f.path) :
    ((files.filterMap (unit? parse)).map (·.path) ++
      (files.filterMap (skipped? parse)).map (·.file)).Perm (files.map (·.path)) := by
  rw [map_path_units h, map_file_skipped, ← List.map_append]
  exact (List.filter_append_perm _ files).map _

theorem map_path_units_sublist (h : ∀ f ∈ files, ∀ u, parse f.path = .ok u → u.path = f.path) :
    ((files.filterMap (unit? parse)).map (·.path)).Sublist (files.map (·.path)) := by
  rw [map_path_units h]
  exact List.filter_sublist.map _

/-- Under distinct paths, the builder drops no unit. -/
theorem keptUnits_filterMap_unit? (hpaths : (files.map (·.path)).Nodup)
    (h : ∀ f ∈ files, ∀ u, parse f.path = .ok u → u.path = f.path) :
    keptUnits (files.filterMap (unit? parse)) = files.filterMap (unit? parse) := by
  have hdistinct : ((files.filterMap (unit? parse)).map (·.path)).Nodup :=
    hpaths.sublist (map_path_units_sublist h)
  rw [keptUnits_eq_firstOfEach]
  exact firstOfEach_eq_self SourceUnit.path (List.pairwise_map.1 hdistinct)

end Together

/-! ## The paths of files that are found -/

theorem FileInfo.path_of_inj {root : Path} (hroot : root.Normal) {f g : FoundFile}
    (hf : ∀ name ∈ f.names, Path.IsPart name) (hg : ∀ name ∈ g.names, Path.IsPart name) :
    (FileInfo.of root f).path = (FileInfo.of root g).path ↔ f.names = g.names := by
  refine (Path.toString_inj (hroot.append hf) (hroot.append hg)).trans ?_
  simp

/-- The files that are found have distinct paths. -/
theorem nodup_path_discover (c : DiscoveryConfig) {w : Workspace} (hw : w.top.WellFormed)
    {root : Path} (hroot : root.Normal) : ((discover c w root).map (·.path)).Nodup := by
  rw [discover]
  split
  case h_2 => exact List.nodup_nil
  case h_1 es hfind =>
    have hes := wellFormed_of_find hw hfind
    rw [List.map_map]
    refine List.pairwise_map.2 ((pairwise_inNameOrder_foundIn c hes).imp_of_mem ?_)
    intro f g hf hg hlt heq
    have hnames := (FileInfo.path_of_inj hroot (isPart_of_mem_foundIn hes hf)
      (isPart_of_mem_foundIn hes hg)).1 heq
    rw [FoundFile.precedes, hnames] at hlt
    exact List.lt_irrefl _ hlt

/-- The path of a file that is found is the text of a path in normal form. -/
theorem exists_normal_of_mem_discover {c : DiscoveryConfig} {w : Workspace}
    (hw : w.top.WellFormed) {root : Path} (hroot : root.Normal) {f : FileInfo}
    (hf : f ∈ discover c w root) : ∃ p : Path, p.Normal ∧ f.path = p.toString := by
  rw [discover] at hf
  split at hf
  case h_2 => exact absurd hf List.not_mem_nil
  case h_1 es hfind =>
    obtain ⟨g, hg, rfl⟩ := List.mem_map.1 hf
    exact ⟨_, hroot.append (isPart_of_mem_foundIn (wellFormed_of_find hw hfind) hg), rfl⟩

/-! ## Parsing passes the path on -/

theorem path_of_ofParsedTree {opts : ParserOptions} {src : Tree.Source} {file language : String}
    {t : ParsedTree} {r : ParsedSource} (h : ofParsedTree opts src file language t = .ok r) :
    r.unit.path = file := by
  have haccept (errors : List Tree.Node)
      (h : ofParsedTree.accept opts src file language t errors = .ok r) : r.unit.path = file := by
    rw [ofParsedTree.accept, Except.ok.injEq] at h
    rw [← h]
    rfl
  rw [ofParsedTree] at h
  split at h
  · split at h
    · cases h
    · exact haccept _ h
  · exact haccept _ h

theorem path_of_parseSource {opts : ParserOptions} {makeTree : String → Option ParsedTree}
    {text file : String} {language : Option String} {r : ParsedSource} (hfile : file ≠ "")
    (h : parseSource opts makeTree text (some file) language = .ok r) : r.unit.path = file := by
  have hshown : ((some file).filter (!·.isEmpty)).getD "<string>" = file := by
    rw [Option.filter_some, if_pos (by simpa using hfile), Option.getD_some]
  rw [parseSource, hshown] at h
  split at h
  · cases h
  · rename_i l _
    split at h
    · cases h
    · cases htree : treeOf makeTree text l with
      | error e =>
        rw [htree] at h
        cases h
      | ok t =>
        rw [htree] at h
        simp only [bind, Except.bind] at h
        cases hparsed : ofParsedTree opts (Tree.Source.ofString text) file l t with
        | error e =>
          rw [hparsed] at h
          cases h
        | ok r' =>
          rw [hparsed] at h
          cases h
          exact path_of_ofParsedTree hparsed

/-- The unit of a file has the path under which the file was parsed. -/
theorem path_of_parseFile {opts : ParserOptions} {makeTree : String → Option ParsedTree}
    {encoding : Encoding} {w : Workspace} {p : Path} {r : ParsedSource} (hp : p.Normal)
    (h : parseFile opts makeTree encoding w p = .ok r) : r.unit.path = p.toString := by
  rw [parseFile] at h
  split at h
  · cases h
  · split at h
    · cases h
    · split at h
      · cases h
      · exact path_of_parseSource (Path.toString_ne_empty hp) h
  · cases h

theorem path_of_parseOutcome {makeTree : String → Option ParsedTree} {s : Settings}
    {w : Workspace} {p : Path} {u : SourceUnit} (hp : p.Normal)
    (h : parseOutcome makeTree s w p.toString = .ok u) : u.path = p.toString := by
  rw [parseOutcome, Path.ofString_toString hp] at h
  split at h
  · rename_i r hr
    cases h
    exact path_of_parseFile hp hr
  · cases h

/-! ## The account -/

/-- A result that accounts for each file once: by a unit or by the record of a skipped file. -/
structure AnalysisResult.AccountsFor (r : AnalysisResult)
    (parse : String → Except FileFailure SourceUnit) (files : List FileInfo) : Prop where
  found : r.files = files
  /-- All units are in the graph, in the order of the files. -/
  units : r.graph.units = files.filterMap (unit? parse)
  unitPaths : (r.graph.units.map (·.path)).Sublist (files.map (·.path))
  /-- All failures are recorded, in the order of the files. -/
  errors : r.errors = files.filterMap (skipped? parse)
  errorPaths : (r.errors.map (·.file)).Sublist (files.map (·.path))
  once : ∀ f ∈ files,
    (r.graph.units.map (·.path)).count f.path + (r.errors.map (·.file)).count f.path = 1
  total : r.filesProcessed + r.errors.length = files.length

/-- Under distinct paths, and if units have the paths of their files, there is a result for any list
of files, and it accounts for them. -/
theorem ofFiles_accountsFor (config : AnalysisConfig) (now : Timestamp) (root : String)
    {parse : String → Except FileFailure SourceUnit} {files : List FileInfo}
    (hpaths : (files.map (·.path)).Nodup)
    (h : ∀ f ∈ files, ∀ u, parse f.path = .ok u → u.path = f.path) :
    ∃ r, AnalysisResult.ofFiles config now root parse files = .ok r ∧
      r.AccountsFor parse files := by
  have hkept := keptUnits_filterMap_unit? hpaths h
  have hperm := paths_perm h
  refine ⟨_, AnalysisResult.ofFiles_eq config now root parse files, rfl, hkept, ?_, rfl, ?_, ?_, ?_⟩
  · dsimp only [CallGraph.ofUnits, CallGraph.of]
    rw [hkept]
    exact map_path_units_sublist h
  · dsimp only
    rw [map_file_skipped]
    exact List.filter_sublist.map _
  · intro f hf
    dsimp only [CallGraph.ofUnits, CallGraph.of]
    rw [hkept, ← List.count_append, hperm.count_eq]
    exact List.nodup_iff_count_eq_one.1 hpaths _ (List.mem_map_of_mem hf)
  · dsimp only [AnalysisResult.filesProcessed, CallGraph.ofUnits, CallGraph.of]
    rw [hkept]
    simpa using hperm.length_eq

/-- **No file is lost or counted twice.** Below any place of a well-formed tree, and whatever
parsing makes of each file as long as a unit has the path of its file, a run fails for want of files
just when none is found, and else has a result that accounts for each file once. Parsing keeps to
that proviso whatever trees it is given, so this holds of the analysis of a project. -/
theorem every_file_once (makeTree : String → Option ParsedTree) (s : Settings) (now : Timestamp)
    {w : Workspace} (hw : w.top.WellFormed) (root : String) :
    let files := discover s.discovery w (Path.ofString root)
    let run parse := analyzeFiles s.analysis now (Path.ofString root).toString parse files
    (∀ parse, (∀ f ∈ files, ∀ u, parse f.path = .ok u → u.path = f.path) →
      (run parse = .error (.noSourceFiles (Path.ofString root).toString) ↔ files = []) ∧
        (files ≠ [] → ∃ r, run parse = .ok r ∧ r.AccountsFor parse files)) ∧
    (∀ f ∈ files, ∀ u, parseOutcome makeTree s w f.path = .ok u → u.path = f.path) ∧
    analyze makeTree s now w (Path.ofString root) = run (parseOutcome makeTree s w) := by
  intro files run
  have hroot := Path.ofString_normal root
  refine ⟨?outcomes, ?parser, rfl⟩
  case outcomes =>
    intro parse hparse
    obtain ⟨r, hr, haccounts⟩ := ofFiles_accountsFor s.analysis now (Path.ofString root).toString
      (nodup_path_discover s.discovery hw hroot) hparse
    have hrun : files ≠ [] → run parse = .ok r := by
      intro hne
      simp only [run, analyzeFiles]
      rw [if_neg (by simpa using hne), hr]
      rfl
    refine ⟨⟨fun herror => ?_, fun hnil => ?_⟩, fun hne => ⟨r, hrun hne, haccounts⟩⟩
    · by_contra hne
      rw [hrun hne] at herror
      cases herror
    · simp [run, analyzeFiles, hnil]
  case parser =>
    intro f hf u hu
    obtain ⟨p, hp, hpath⟩ := exists_normal_of_mem_discover hw hroot hf
    rw [hpath] at hu ⊢
    exact path_of_parseOutcome hp hu

namespace Mixed

/-- Of the two source files, `a-b.js` cannot be read. -/
def parse (path : String) : Except FileFailure SourceUnit :=
  if path = "p/a-b.js" then .error ⟨"OSError", "unreadable", none⟩
  else .ok { path := path, moduleName := path }

/-- The tree of a text without statements, as all source files hold one. -/
def makeTree (text : String) : Option ParsedTree :=
  some (.of (.mk { kind := "program", start := text.utf8ByteSize, stop := text.utf8ByteSize } []))

end Mixed

theorem every_file_once_mixed :
    let w := Mixed.project Mixed.entries
    let files := discover ({} : Settings).discovery w (Path.ofString "p")
    w.top.WellFormed ∧ "p/a-b.js" ∈ files.map (·.path) ∧ "p/a/z.js" ∈ files.map (·.path) ∧
      ∃ r, analyzeFiles ({} : Settings).analysis default "p" Mixed.parse files = .ok r ∧
        r.AccountsFor Mixed.parse files := by
  intro w files
  have hw : w.top.WellFormed := by
    simp only [w, Mixed.project, Mixed.entries, Mixed.inner, Entry.WellFormed, Entry.WellFormedAll]
    decide
  have hroot : w.find ⟨0, ["p"]⟩ = .ok (.directory Mixed.entries) := rfl
  have hmem (f : FoundFile) (hf : f.IsRight {} (.directory Mixed.entries)) :
      FileInfo.of ⟨0, ["p"]⟩ f ∈ files := by
    rw [show files = _ from discover_eq hroot]
    exact List.mem_map_of_mem
      ((mem_inNameOrder_foundIn_iff (wellFormed_of_find hw hroot) f).2 hf)
  have hfirst := hmem ⟨["a-b.js"], 1⟩ ⟨⟨[10], rfl, rfl⟩, by decide, by decide⟩
  have hsecond := hmem ⟨["a", "z.js"], 0⟩ ⟨⟨[], rfl, rfl⟩, by decide, by decide⟩
  obtain ⟨hrun, -⟩ := every_file_once Mixed.makeTree {} default hw "p"
  have hparse : ∀ f ∈ files, ∀ u, Mixed.parse f.path = .ok u → u.path = f.path := by
    intro f _ u hu
    rw [Mixed.parse] at hu
    split at hu
    · cases hu
    · cases hu
      rfl
  refine ⟨hw, List.mem_map.2 ⟨_, hfirst, by decide⟩, List.mem_map.2 ⟨_, hsecond, by decide⟩, ?_⟩
  exact (hrun Mixed.parse hparse).2 (List.ne_nil_of_mem hfirst)

end CallFlow
