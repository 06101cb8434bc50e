import CallFlow.Proofs.Accounting
import CallFlow.Proofs.FileRemoval

/-!
# A skipped file has no influence

A run over a project with a file that cannot be parsed is compared with a run over the project
without that file. The second run walks another tree and counts fewer files, and still:

* `discover_without` — it finds the same files but that one;
* `parseOutcome_without` — parsing makes the same of each of them;
* `analyzeFiles_without` — so the same units are joined into one graph.
-/

namespace CallFlow

/-! ## Discovery -/

section Discovery

variable {c : DiscoveryConfig} {w : Workspace} {root : Path} {f : FileInfo}

/-- Where a file that was found stands. -/
theorem exists_at?_of_mem_discover (hw : w.top.WellFormed) (hroot : root.Normal)
    (hf : f ∈ discover c w root) : ∃ es g content, w.find root = .ok (.directory es) ∧
      f = FileInfo.of root g ∧ (Entry.directory es).at? g.names = some (.file content) ∧
        Path.ofString f.path = root.below g.names := by
  rw [discover] at hf
  split at hf
  case h_2 => exact absurd hf List.not_mem_nil
  case h_1 es hfind =>
    have hes := wellFormed_of_find hw hfind
    obtain ⟨g, hg, rfl⟩ := List.mem_map.1 hf
    obtain ⟨⟨content, hat, -⟩, -⟩ := (mem_inNameOrder_foundIn_iff hes g).1 hg
    exact ⟨es, g, content, hfind, rfl, hat,
      Path.ofString_toString (hroot.append (isPart_of_mem_foundIn hes hg))⟩

/-- Without one of the files that are found, the same others are found in the same order. -/
theorem discover_without (hw : w.top.WellFormed) (hroot : root.Normal)
    (hf : f ∈ discover c w root) :
    discover c (w.without (Path.ofString f.path)) root =
      (discover c w root).filter (·.path != f.path) := by
  obtain ⟨es, g, content, hfind, rfl, hfile, hpath⟩ := exists_at?_of_mem_discover hw hroot hf
  obtain ⟨hw', es', hfind', hleft⟩ := Workspace.find_without hw hfind hfile
  have hes := wellFormed_of_find hw hfind
  have hes' := wellFormed_of_find hw' hfind'
  have hfound : inNameOrder (foundIn c es') =
      (inNameOrder (foundIn c es)).filter (·.names != g.names) := by
    -- both are in order, so they only have to hold the same files
    refine eq_of_pairwise_precedes (pairwise_inNameOrder_foundIn c hes')
      ((pairwise_inNameOrder_foundIn c hes).filter _) fun k => ?_
    rw [List.mem_filter, mem_inNameOrder_foundIn_iff hes, mem_inNameOrder_foundIn_iff hes']
    simp only [FoundFile.IsRight, hleft, bne_iff_ne]
    tauto
  rw [hpath, discover_eq hfind', discover_eq hfind, hfound, List.filter_map]
  refine congrArg _ (List.filter_congr fun k hk => ?_)
  have hinj := FileInfo.path_of_inj hroot (isPart_of_mem_foundIn hes hk)
    fun name hname => ((hes.at? hfile).2 name hname).1
  rw [Function.comp_apply, Bool.eq_iff_iff, bne_iff_ne, bne_iff_ne, Ne, Ne, hinj]

theorem parseOutcome_congr (makeTree : String → Option ParsedTree) (s : Settings)
    {w' : Workspace} {path : String}
    (h : w'.find (Path.ofString path) = w.find (Path.ofString path)) :
    parseOutcome makeTree s w' path = parseOutcome makeTree s w path := by
  rw [parseOutcome, parseOutcome, parseFile, parseFile, h]

/-- Each of the other files is read as before. -/
theorem parseOutcome_without (makeTree : String → Option ParsedTree) (s : Settings)
    (hw : w.top.WellFormed) (hroot : root.Normal) (hf : f ∈ discover c w root) {g : FileInfo}
    (hg : g ∈ discover c (w.without (Path.ofString f.path)) root) :
    parseOutcome makeTree s (w.without (Path.ofString f.path)) g.path =
      parseOutcome makeTree s w g.path := by
  obtain ⟨es, k, content, hfind, rfl, hfile, hpath⟩ := exists_at?_of_mem_discover hw hroot hf
  obtain ⟨hw', es', hfind', hleft⟩ := Workspace.find_without hw hfind hfile
  rw [hpath] at hg ⊢
  obtain ⟨es'', k', content', hfind'', rfl, hfile', hpath'⟩ :=
    exists_at?_of_mem_discover hw' hroot hg
  obtain rfl : es' = es'' := by simpa [hfind'] using hfind''
  refine parseOutcome_congr makeTree s ?_
  rw [hpath', Workspace.find_below hw' hfind' hfile',
    Workspace.find_below hw hfind ((hleft _ _).1 hfile').2]

end Discovery

/-! ## The run -/

/-- The results of two runs that differ by the entries of one skipped file. -/
structure AnalysisResult.DiffersBy (f : FileInfo) (e : FileFailure) (r r' : AnalysisResult) :
    Prop where
  root : r'.root = r.root
  graph : r'.graph = r.graph
  metrics : r'.metrics = r.metrics
  file : r.files.filter (·.path == f.path) = [f]
  otherFiles : r'.files = r.files.filter (·.path != f.path)
  error : r.errors.filter (·.file == f.path) = [SkippedFile.of f e]
  otherErrors : r'.errors = r.errors.filter (·.file != f.path)

section Run

variable {parse parse' : String → Except FileFailure SourceUnit} {files : List FileInfo}
  {f : FileInfo} {e : FileFailure}

theorem analyzeFiles_eq (config : AnalysisConfig) (now : Timestamp) (root : String)
    (parse : String → Except FileFailure SourceUnit) (h : files ≠ []) :
    let graph := CallGraph.ofUnits (files.filterMap (unit? parse))
    analyzeFiles config now root parse files =
      .ok { root := root, timestamp := now, files := files, graph := graph
            metrics := MetricsReport.of config graph
            errors := files.filterMap (skipped? parse) } := by
  intro graph
  rw [analyzeFiles, if_neg (by simpa using h), AnalysisResult.ofFiles_eq]
  rfl

theorem filterMap_unit?_without (hfail : parse f.path = .error e)
    (hsame : ∀ g ∈ files, g.path ≠ f.path → parse' g.path = parse g.path) :
    (files.filter (·.path != f.path)).filterMap (unit? parse') =
      files.filterMap (unit? parse) := by
  rw [List.filterMap_filter]
  refine List.filterMap_congr fun g hg => ?_
  by_cases hpath : g.path = f.path
  · simp [hpath, unit?, hfail, Except.toOption]
  · simp [hpath, unit?, hsame g hg hpath]

theorem file_of_skipped? {g : FileInfo} {k : SkippedFile} (h : skipped? parse g = some k) :
    k.file = g.path := by
  rw [skipped?] at h
  split at h
  · cases h
  · cases h
    rfl

/-- The records of skipped files are picked by their paths like the files. -/
theorem filter_filterMap_skipped? (parse : String → Except FileFailure SourceUnit)
    (files : List FileInfo) (keep : String → Bool) :
    (files.filterMap (skipped? parse)).filter (keep ·.file) =
      (files.filter (keep ·.path)).filterMap (skipped? parse) := by
  rw [List.filter_filterMap, List.filterMap_filter]
  refine List.filterMap_congr fun g _ => ?_
  cases h : skipped? parse g with
  | none => simp
  | some k => rw [Option.filter_some, file_of_skipped? h]

/-- A run over the other files alone, if parsing makes the same of them. -/
theorem analyzeFiles_without (config : AnalysisConfig) (now now' : Timestamp) (root : String)
    (hpaths : (files.map (·.path)).Nodup) (hf : f ∈ files) (hother : ∃ g ∈ files, g ≠ f)
    (hfail : parse f.path = .error e)
    (hsame : ∀ g ∈ files, g.path ≠ f.path → parse' g.path = parse g.path) :
    ∃ r r', analyzeFiles config now root parse files = .ok r ∧
      analyzeFiles config now' root parse' (files.filter (·.path != f.path)) = .ok r' ∧
        r.DiffersBy f e r' := by
  have hfile : files.filter (·.path == f.path) = [f] :=
    filter_key_eq_singleton FileInfo.path (List.pairwise_map.1 hpaths) hf
  have hrest : files.filter (·.path != f.path) ≠ [] := by
    obtain ⟨g, hg, hne⟩ := hother
    refine List.ne_nil_of_mem (List.mem_filter.2 ⟨hg, ?_⟩)
    simpa using fun hpath => hne (List.inj_on_of_nodup_map hpaths hg hf hpath)
  refine ⟨_, _, analyzeFiles_eq config now root parse (List.ne_nil_of_mem hf),
    analyzeFiles_eq config now' root parse' hrest, ?_⟩
  rw [filterMap_unit?_without hfail hsame]
  refine ⟨rfl, rfl, rfl, hfile, rfl, ?_, ?_⟩
  · dsimp only
    rw [filter_filterMap_skipped? parse files (· == f.path), hfile]
    simp [skipped?_of_error hfail]
  · dsimp only
    rw [filter_filterMap_skipped? parse files (· != f.path)]
    refine List.filterMap_congr fun g hg => ?_
    obtain ⟨hg, hpath⟩ := List.mem_filter.1 hg
    rw [skipped?, skipped?, hsame g hg (by simpa using hpath)]

end Run

/-- **A file that cannot be parsed has no influence on the others.** Of the files found below a
place of a well-formed tree, let one fail, and let there be another one. Then the run succeeds, and
so does the run over the tree without that file, at whatever time. Both have the same graph and the
same figures, and their lists differ by the entries of that file alone. This holds for whatever
makes trees of texts, and whatever makes the file fail, as long as the outcome for each other file
is the same in both runs. -/
theorem skipped_file_no_influence (makeTree : String → Option ParsedTree) (s : Settings)
    (now now' : Timestamp) {w : Workspace} (hw : w.top.WellFormed) (root : String) {f : FileInfo}
    (hf : f ∈ discover s.discovery w (Path.ofString root))
    (hother : ∃ g ∈ discover s.discovery w (Path.ofString root), g ≠ f) :
    let p := Path.ofString root
    let w' := w.without (Path.ofString f.path)
    (∀ e, parseOutcome makeTree s w f.path = .error e →
      ∃ r r', analyze makeTree s now w p = .ok r ∧ analyze makeTree s now' w' p = .ok r' ∧
        r.DiffersBy f e r') ∧
    ∀ parse parse' e, parse f.path = .error e →
      (∀ g ∈ discover s.discovery w' p, parse' g.path = parse g.path) →
      ∃ r r', analyzeFiles s.analysis now p.toString parse (discover s.discovery w p) = .ok r ∧
        analyzeFiles s.analysis now' p.toString parse' (discover s.discovery w' p) = .ok r' ∧
        r.DiffersBy f e r' := by
  intro p w'
  have hp := Path.ofString_normal root
  have hfound : discover s.discovery w' p = (discover s.discovery w p).filter (·.path != f.path) :=
    discover_without hw hp hf
  have hrun : ∀ parse parse' e, parse f.path = .error e →
      (∀ g ∈ discover s.discovery w' p, parse' g.path = parse g.path) →
      ∃ r r', analyzeFiles s.analysis now p.toString parse (discover s.discovery w p) = .ok r ∧
        analyzeFiles s.analysis now' p.toString parse' (discover s.discovery w' p) = .ok r' ∧
        r.DiffersBy f e r' := by
    intro parse parse' e hfail hsame
    rw [hfound] at hsame ⊢
    refine analyzeFiles_without s.analysis now now' p.toString
      (nodup_path_discover s.discovery hw hp) hf hother hfail fun g hg hpath => hsame g ?_
    exact List.mem_filter.2 ⟨hg, by simpa using hpath⟩
  refine ⟨fun e hfail => ?_, hrun⟩
  exact hrun (parseOutcome makeTree s w) (parseOutcome makeTree s w') e hfail
    fun g hg => parseOutcome_without makeTree s hw hp hf hg

namespace Mixed

/-- A source file that is no text, a link to it, and another source file. -/
def unreadable : List (String × Entry) :=
  [("l.js", .link "a-b.js"), ("a-b.js", .file [255]), ("a", .directory inner)]

end Mixed

theorem skipped_file_no_influence_unreadable :
    let w := Mixed.project Mixed.unreadable
    let f := FileInfo.of ⟨0, ["p"]⟩ ⟨["a-b.js"], 1⟩
    let g := FileInfo.of ⟨0, ["p"]⟩ ⟨["a", "z.js"], 0⟩
    let files := discover ({} : Settings).discovery w (Path.ofString "p")
    w.top.WellFormed ∧ f ∈ files ∧ g ∈ files ∧ g ≠ f ∧
      ∃ e, parseOutcome Mixed.makeTree {} w f.path = .error e ∧
        ∃ r r', analyze Mixed.makeTree {} default w (Path.ofString "p") = .ok r ∧
          analyze Mixed.makeTree {} default (w.without (Path.ofString f.path))
            (Path.ofString "p") = .ok r' ∧
          r.DiffersBy f e r' := by
  intro w f g files
  have hw : w.top.WellFormed := by
    simp only [w, Mixed.project, Mixed.unreadable, Mixed.inner, Entry.WellFormed,
      Entry.WellFormedAll]
    decide
  have hroot : w.find ⟨0, ["p"]⟩ = .ok (.directory Mixed.unreadable) := rfl
  have hmem (k : FoundFile) (hk : k.IsRight {} (.directory Mixed.unreadable)) :
      FileInfo.of ⟨0, ["p"]⟩ k ∈ files := by
    rw [show files = _ from discover_eq hroot]
    exact List.mem_map_of_mem
      ((mem_inNameOrder_foundIn_iff (wellFormed_of_find hw hroot) k).2 hk)
  have hf : f ∈ files := hmem _ ⟨⟨[255], rfl, rfl⟩, by decide, by decide⟩
  have hg : g ∈ files := hmem _ ⟨⟨[], rfl, rfl⟩, by decide, by decide⟩
  have hne : g ≠ f := by decide
  have hpath : Path.ofString f.path = ⟨0, ["p", "a-b.js"]⟩ := by decide
  have hfail : parseOutcome Mixed.makeTree {} w f.path = .error (FileFailure.of
      (.parser { fault := .undecodable "utf-8", file := some f.path })) := by
    have hfind : w.find ⟨0, ["p", "a-b.js"]⟩ = .ok (.file [255]) := rfl
    have hlanguage : detectLanguage ⟨0, ["p", "a-b.js"]⟩ = some "javascript" := by decide
    have htext : Encoding.utf8.decode? [255] = none := by decide
    rw [parseOutcome, hpath, parseFile, hfind]
    simp only [hlanguage, htext]
    rfl
  obtain ⟨hanalyze, -⟩ :=
    skipped_file_no_influence Mixed.makeTree {} default default hw "p" hf ⟨g, hg, hne⟩
  exact ⟨hw, hf, hg, hne, _, hfail, hanalyze _ hfail⟩

end CallFlow
