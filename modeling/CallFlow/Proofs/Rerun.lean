import CallFlow.Cli.Command
import CallFlow.Proofs.FileWriting
import CallFlow.Proofs.SkippedFile

/-!
# A run does not feed on its own output

A run writes its report into the directory that it analyses, so the next run starts with another
tree. What an analysis reads of a tree is the source files below one directory (`SameSources`), and
a report whose name has another suffix is none of them:

* `analyze_of_sameSources` — trees with the same source files are analysed alike;
* `Cli.Task.WritesOnly.perform_cases` — a task leaves the files as they are, or its report has been
  written;
* `Cli.analyze_putFile` — which leaves the source files as they were;
* `Cli.rerun_finds_the_same` — so under the same settings the next run finds the same;
* `rerun_differs_reassigned` — under settings that are loaded again it need not, as the report may
  have replaced the file that they come from.
-/

namespace CallFlow

/-! ## Trees with the same source files -/

/-- Directories with the same files of the wanted suffixes, at the same places. -/
def SameSources (c : DiscoveryConfig) (d d' : Entry) : Prop :=
  ∀ names, Path.suffix ⟨0, names⟩ ∈ c.extensions → ∀ content,
    d'.at? names = some (.file content) ↔ d.at? names = some (.file content)

section SameSources

variable {makeTree : String → Option ParsedTree} {w w' : Workspace} {root : Path}
  {es es' : List (String × Entry)}

theorem discover_of_sameSources {c : DiscoveryConfig} (hw : w.top.WellFormed)
    (hw' : w'.top.WellFormed) (hfind : w.find root = .ok (.directory es))
    (hfind' : w'.find root = .ok (.directory es'))
    (hsame : SameSources c (.directory es) (.directory es')) :
    discover c w' root = discover c w root := by
  have hright (f : FoundFile) : f.IsRight c (.directory es') ↔ f.IsRight c (.directory es) := by
    unfold FoundFile.IsRight
    constructor
    · rintro ⟨⟨content, hat, hsize⟩, hexcluded, hsuffix⟩
      exact ⟨⟨content, (hsame _ hsuffix content).1 hat, hsize⟩, hexcluded, hsuffix⟩
    · rintro ⟨⟨content, hat, hsize⟩, hexcluded, hsuffix⟩
      exact ⟨⟨content, (hsame _ hsuffix content).2 hat, hsize⟩, hexcluded, hsuffix⟩
  have hfound := inNameOrder_foundIn_congr (wellFormed_of_find hw' hfind')
    (wellFormed_of_find hw hfind) hright
  rw [discover_eq hfind', discover_eq hfind, hfound]

theorem parseOutcome_of_sameSources {s : Settings} (hw : w.top.WellFormed)
    (hw' : w'.top.WellFormed) (hroot : root.Normal) (hfind : w.find root = .ok (.directory es))
    (hfind' : w'.find root = .ok (.directory es'))
    (hsame : SameSources s.discovery (.directory es) (.directory es')) {f : FileInfo}
    (hf : f ∈ discover s.discovery w root) :
    parseOutcome makeTree s w' f.path = parseOutcome makeTree s w f.path := by
  rw [discover_eq hfind] at hf
  obtain ⟨g, hg, rfl⟩ := List.mem_map.1 hf
  have hes := wellFormed_of_find hw hfind
  obtain ⟨⟨content, hat, -⟩, -, hsuffix⟩ := (mem_inNameOrder_foundIn_iff hes g).1 hg
  have hpath : Path.ofString (FileInfo.of root g).path = root.below g.names :=
    Path.ofString_toString (hroot.append (isPart_of_mem_foundIn hes hg))
  refine parseOutcome_congr makeTree s ?_
  rw [hpath, Workspace.find_below hw hfind hat,
    Workspace.find_below hw' hfind' ((hsame _ hsuffix content).2 hat)]

theorem analyzeFiles_congr (config : AnalysisConfig) (now : Timestamp) (root : String)
    {parse parse' : String → Except FileFailure SourceUnit} {files : List FileInfo}
    (h : ∀ f ∈ files, parse' f.path = parse f.path) :
    analyzeFiles config now root parse' files = analyzeFiles config now root parse files := by
  by_cases hne : files = []
  · subst hne
    rfl
  · have hunits : files.filterMap (unit? parse') = files.filterMap (unit? parse) :=
      List.filterMap_congr fun f hf => by rw [unit?, unit?, h f hf]
    have hskipped : files.filterMap (skipped? parse') = files.filterMap (skipped? parse) :=
      List.filterMap_congr fun f hf => by rw [skipped?, skipped?, h f hf]
    rw [analyzeFiles_eq config now root parse' hne, analyzeFiles_eq config now root parse hne,
      hunits, hskipped]

/-- Trees with the same source files are analysed alike. -/
theorem analyze_of_sameSources {s : Settings} (now : Timestamp) (hw : w.top.WellFormed)
    (hw' : w'.top.WellFormed) (hroot : root.Normal) (hfind : w.find root = .ok (.directory es))
    (hfind' : w'.find root = .ok (.directory es'))
    (hsame : SameSources s.discovery (.directory es) (.directory es')) :
    analyze makeTree s now w' root = analyze makeTree s now w root := by
  rw [analyze, analyze, discover_of_sameSources hw hw' hfind hfind' hsame]
  exact analyzeFiles_congr _ _ _ fun f hf =>
    parseOutcome_of_sameSources hw hw' hroot hfind hfind' hsame hf

end SameSources

/-! ## What an analysis has found -/

/-- The results of an analysis apart from its place and time. -/
def AnalysisResult.findings (r : AnalysisResult) :
    List FileInfo × CallGraph × MetricsReport × List SkippedFile :=
  (r.files, r.graph, r.metrics, r.errors)

theorem findings_analyze (makeTree : String → Option ParsedTree) (s : Settings)
    (now now' : Timestamp) (w : Workspace) (root : Path) :
    (analyze makeTree s now' w root).map AnalysisResult.findings =
      (analyze makeTree s now w root).map AnalysisResult.findings := by
  unfold analyze
  by_cases hne : discover s.discovery w root = []
  · rw [hne]
    rfl
  · rw [analyzeFiles_eq _ _ _ _ hne, analyzeFiles_eq _ _ _ _ hne]
    rfl

theorem exists_directory_of_analyze {makeTree : String → Option ParsedTree} {s : Settings}
    {now : Timestamp} {w : Workspace} {root : Path} {r : AnalysisResult}
    (h : analyze makeTree s now w root = .ok r) : ∃ es, w.find root = .ok (.directory es) := by
  rw [analyze, discover] at h
  split at h
  case h_1 es hfind => exact ⟨es, hfind⟩
  case h_2 => cases h

/-! ## One run -/

namespace Cli

section OneRun

variable {makeTree : String → Option ParsedTree} {w w' : Workspace} {t : Task} {s : Settings}
  {now : Timestamp} {r : AnalysisResult} {name : String}

theorem Task.run_eq {load : Workspace → Except SettingsError Settings}
    (hquiet : (t.verbose && t.quiet) = false) (hload : load w = .ok s)
    (makeTree : String → Option ParsedTree) (now : Timestamp) :
    t.run makeTree load now w = .ok (t.perform makeTree (t.inForce s) now w) := by
  rw [Task.run, if_neg (by simp [hquiet]), hload]

/-- What has been noted after one more line, unless the task is quiet. -/
def Task.noted (t : Task) (line text : String) : String :=
  if t.quiet then text else text ++ line ++ "\n"

theorem note_eq (t : Task) (w : Workspace) (line text : String) :
    (if t.quiet then ({ stderr := text, workspace := w } : Outcome)
      else ({ stderr := text, workspace := w } : Outcome).note line) =
      { stderr := t.noted line text, workspace := w } := by
  cases hquiet : t.quiet <;> simp [Task.noted, hquiet, Outcome.note]

theorem foldl_note_eq (t : Task) (w : Workspace) (files : List FileInfo) (line : FileInfo → String)
    (text : String) :
    files.foldl (fun o f => if t.quiet then o else o.note (line f))
        ({ stderr := text, workspace := w } : Outcome) =
      { stderr := files.foldl (fun text f => t.noted (line f) text) text, workspace := w } :=
  List.foldl_hom (fun text : String => ({ stderr := text, workspace := w } : Outcome))
    fun text f => note_eq t w (line f) text

/-- How a run ends, whether all was saved or not. -/
def ending : Except Outcome Outcome → Outcome
  | .ok o => o
  | .error o => o

/-- What is printed before anything is saved depends on the files through the result alone. -/
theorem exists_perform_eq (t : Task) (makeTree : String → Option ParsedTree) (s : Settings)
    (r : AnalysisResult) :
    ∃ stderr : String, ∀ now w, analyze makeTree s now w t.root = .ok r →
      let text := Report.text s.analysis r
      let o : Outcome := { stderr := stderr, workspace := w }
      t.perform makeTree s now w = ending (t.saveAll s text r (o.print text)) := by
  apply Exists.intro
  intro now w hr
  rw [Task.perform, hr]
  dsimp only
  rw [note_eq, note_eq]
  exact congrArg (fun o : Outcome => ending (t.saveAll s _ r (o.print _)))
    (foldl_note_eq t w r.files _ _)

/-- The task is to write no file but its report, which has one name in the directory to be
analysed. -/
structure Task.WritesOnly (t : Task) (s : Settings) (name : String) : Prop where
  output : t.output = none
  json : t.json = none
  reportName : Path.ofString s.reportName = ⟨0, [name]⟩

theorem Task.WritesOnly.isPart (h : t.WritesOnly s name) : Path.IsPart name := by
  have hparts := (Path.ofString_normal s.reportName).parts
  rw [h.reportName] at hparts
  exact hparts name (List.mem_singleton_self name)

theorem Task.WritesOnly.saveAll_eq (h : t.WritesOnly s name) (text : String) (r : AnalysisResult)
    (o : Outcome) : t.saveAll s text r o =
      if t.save then o.save "Report saved to: " (t.root.child name) text else .ok o := by
  rw [Task.saveAll, h.output, h.json, h.reportName]
  cases t.save with
  | false => rfl
  | true =>
    show (o.save _ (t.root.child name) text >>= fun o => .ok o) = _
    cases o.save "Report saved to: " (t.root.child name) text <;> rfl

/-- The bytes of the report. -/
def reportBytes (s : Settings) (r : AnalysisResult) : List UInt8 :=
  Text.Utf8.encode (Report.text s.analysis r).toList

/-- A report begins with the corner of its first box. -/
theorem head?_reportBytes (s : Settings) (r : AnalysisResult) :
    (reportBytes s r).head? = some 226 := by
  obtain ⟨corner, second, later, hlines⟩ : ∃ corner second later,
      Report.lines s.analysis r = ('╔' :: corner) :: second :: later := ⟨_, _, _, rfl⟩
  have htext : (Report.text s.analysis r).toList = '╔' :: (corner ++ "\n".toList ++
      "\n".toList.intercalate (second :: later)) := by
    rw [Report.text, String.toList_intercalate, List.map_map, String.toList_comp_ofList,
      List.map_id, hlines, List.intercalate_cons_cons]
    rfl
  have hcorner : String.utf8EncodeChar '╔' = [226, 149, 148] := by decide
  rw [reportBytes, htext, Text.Utf8.encode, List.flatMap_cons, hcorner]
  rfl

theorem ending_save (o : Outcome) (label : String) (path : Path) (text : String) :
    ending (o.save label path text) =
      match o.workspace.write path (Text.Utf8.encode text.toList) with
      | .ok w => ({ o with workspace := w } : Outcome).print (label ++ path.toString)
      | .error e => o.fail ("cannot write report: " ++ e.message path.toString) := by
  rw [Outcome.save]
  cases o.workspace.write path (Text.Utf8.encode text.toList) <;> rfl

/-- What a task does once it has a result: it prints what does not depend on the files, and writes
its report if it can. -/
theorem Task.WritesOnly.exists_perform_eq (h : t.WritesOnly s name)
    (makeTree : String → Option ParsedTree) (r : AnalysisResult) :
    ∃ printed : Workspace → Outcome, (∀ w, (printed w).workspace = w) ∧
      ∀ now w, analyze makeTree s now w t.root = .ok r → t.perform makeTree s now w =
        if t.save then
          match w.write (t.root.child name) (reportBytes s r) with
          | .ok w' => (printed w').print ("Report saved to: " ++ (t.root.child name).toString)
          | .error e =>
            (printed w).fail ("cannot write report: " ++ e.message (t.root.child name).toString)
        else printed w := by
  obtain ⟨stderr, hperform⟩ := Cli.exists_perform_eq t makeTree s r
  let text := Report.text s.analysis r
  refine ⟨fun w => ({ stderr := stderr, workspace := w } : Outcome).print text, fun w => rfl,
    fun now w hr => ?_⟩
  rw [hperform now w hr, h.saveAll_eq]
  cases t.save with
  | false => rfl
  | true =>
    rw [if_pos rfl, if_pos rfl, ending_save]
    rfl

theorem Task.WritesOnly.workspace_of_write (h : t.WritesOnly s name) (hsave : t.save = true)
    (hr : analyze makeTree s now w t.root = .ok r)
    (hwrite : w.write (t.root.child name) (reportBytes s r) = .ok w') :
    (t.perform makeTree s now w).workspace = w' := by
  obtain ⟨printed, hprinted, hperform⟩ := h.exists_perform_eq makeTree r
  rw [hperform now w hr, if_pos hsave, hwrite]
  exact hprinted w'

/-- Where the same report is written with the same result, the same is printed. -/
theorem Task.WritesOnly.perform_eq_of_write (h : t.WritesOnly s name) (hsave : t.save = true)
    (hr : analyze makeTree s now w t.root = .ok r)
    (hwrite : w.write (t.root.child name) (reportBytes s r) = .ok w')
    (hr' : analyze makeTree s now w' t.root = .ok r)
    (hwrite' : w'.write (t.root.child name) (reportBytes s r) = .ok w') :
    t.perform makeTree s now w' = t.perform makeTree s now w := by
  obtain ⟨printed, -, hperform⟩ := h.exists_perform_eq makeTree r
  rw [hperform now w hr, hperform now w' hr', if_pos hsave, if_pos hsave, hwrite, hwrite']

/-- A task leaves the files as they are, or puts its report into a directory that has room for
it. -/
theorem Task.WritesOnly.perform_cases (h : t.WritesOnly s name)
    (makeTree : String → Option ParsedTree) (now : Timestamp)
    (hlink : ∀ d target, w.find t.root = .ok d → d.child? name ≠ some (.link target)) :
    (t.perform makeTree s now w).workspace = w ∨ ∃ r place es,
      t.save = true ∧ analyze makeTree s now w t.root = .ok r ∧
        w.HasRoom t.root name place es ∧ (t.perform makeTree s now w).workspace =
          w.putFile (place.reverse ++ [name]) (reportBytes s r) := by
  cases hr : analyze makeTree s now w t.root with
  | error e =>
    refine .inl ?_
    rw [Task.perform, hr]
    cases t.quiet <;> rfl
  | ok r =>
    obtain ⟨es, hfind⟩ := exists_directory_of_analyze hr
    obtain ⟨printed, hprinted, hperform⟩ := h.exists_perform_eq makeTree r
    rw [hperform now w hr]
    cases hsave : t.save with
    | false => exact .inl (hprinted w)
    | true =>
      cases hwrite : w.write (t.root.child name) (reportBytes s r) with
      | error e => exact .inl (hprinted w)
      | ok w' =>
        obtain ⟨place, hroom, rfl⟩ := Workspace.exists_hasRoom_of_write h.isPart hfind
          (fun target => hlink _ target hfind) hwrite
        exact .inr ⟨r, place, es, rfl, rfl, hroom, hprinted _⟩

end OneRun

/-! ## The next run -/

/-- A file of another suffix is no source file. -/
theorem analyze_putFile {w : Workspace} {s : Settings} {root : Path} {name : String}
    {place : List String} {es : List (String × Entry)} (makeTree : String → Option ParsedTree)
    (hroom : w.HasRoom root name place es)
    (hw : w.top.WellFormed) (hroot : root.Normal)
    (hsuffix : Path.suffix ⟨0, [name]⟩ ∉ s.extensions) (content : List UInt8) :
    let w' := w.putFile (place.reverse ++ [name]) content
    discover s.discovery w' root = discover s.discovery w root ∧
      ∀ now, analyze makeTree s now w' root = analyze makeTree s now w root := by
  intro w'
  obtain ⟨es', hroom', -, hother⟩ := hroom.exists_putFile content
  have hw' := hroom.wellFormed hw content
  have hsame : SameSources s.discovery (.directory es) (.directory es') := by
    intro names hnames
    refine hother names ?_
    rintro rfl
    exact hsuffix hnames
  exact ⟨discover_of_sameSources hw hw' hroom.find hroom'.find hsame,
    fun now => analyze_of_sameSources now hw hw' hroot hroom.find hroom'.find hsame⟩

section NextRun

variable {makeTree : String → Option ParsedTree} {t : Task} {s : Settings} {name : String}
  {w : Workspace}

theorem Task.WritesOnly.find_report (h : t.WritesOnly s name) (hw : w.top.WellFormed)
    (hlink : ∀ d target, w.find t.root = .ok d → d.child? name ≠ some (.link target))
    {now : Timestamp} {r : AnalysisResult} (hr : analyze makeTree s now w t.root = .ok r)
    {d : Entry} (hfind : w.find t.root = .ok d) (hsave : t.save = true) (hup : name ≠ "..")
    (hdirectory : ∀ es, d.child? name ≠ some (.directory es)) :
    (t.perform makeTree s now w).workspace.find (t.root.child name) =
      .ok (.file (reportBytes s r)) := by
  obtain ⟨es, hfind'⟩ := exists_directory_of_analyze hr
  obtain rfl : d = .directory es := by simpa [hfind] using hfind'
  obtain ⟨place, hroom⟩ := Workspace.exists_hasRoom ⟨h.isPart, hup⟩ hfind
    (fun target => hlink _ target hfind) hdirectory
  rw [h.workspace_of_write hsave hr (hroom.write_eq _)]
  exact (hroom.find_putFile hw _).2

/-- A task changes no file but its report, and nothing that it would look at again. -/
theorem Task.WritesOnly.perform_again (h : t.WritesOnly s name)
    (makeTree : String → Option ParsedTree) (hsuffix : Path.suffix ⟨0, [name]⟩ ∉ s.extensions)
    (hroot : t.root.Normal) (hw : w.top.WellFormed)
    (hlink : ∀ d target, w.find t.root = .ok d → d.child? name ≠ some (.link target))
    (now : Timestamp) :
    let w' := (t.perform makeTree s now w).workspace
    (∀ p, (∀ place, w'.place (t.root.child name) = .ok place → w'.place p ≠ .ok place) →
      ∀ content, w'.find p = .ok (.file content) ↔ w.find p = .ok (.file content)) ∧
    discover s.discovery w' t.root = discover s.discovery w t.root ∧
    (∀ now', analyze makeTree s now' w' t.root = analyze makeTree s now' w t.root) ∧
    t.perform makeTree s now w' = t.perform makeTree s now w := by
  dsimp only
  rcases h.perform_cases makeTree now hlink with hsame | ⟨r, place, es, hsave, hr, hroom, hput⟩
  · rw [hsame]
    exact ⟨fun _ _ _ => Iff.rfl, rfl, fun _ => rfl, rfl⟩
  · obtain ⟨hfound, hanalyze⟩ := analyze_putFile makeTree hroom hw hroot hsuffix (reportBytes s r)
    rw [hput]
    refine ⟨fun p hother => ?_, hfound, hanalyze, ?_⟩
    · exact hroom.find_other _ (hother _ (hroom.find_putFile hw _).1)
    · exact h.perform_eq_of_write hsave hr (hroom.write_eq _) ((hanalyze now).trans hr)
        (hroom.write_putFile _)

end NextRun

/-- **A run does not feed on its own output.** Let a task write no file but its report, under one
name in the directory to be analysed. Let the suffix of that name be none that is analysed, and let
no link of that name stand in the directory. The settings are the same in both runs, and texts may
be parsed in any way. Then the first run comes to an end. It writes the report unless a directory is
in its way, and changes no other file. In the tree that it leaves behind, a run at whatever time
finds the same source files, the same graph, the same figures and the same skipped files. At the
same time it would print the same and change nothing. -/
theorem rerun_finds_the_same (makeTree : String → Option ParsedTree) {t : Task} {s : Settings}
    {name : String} {w : Workspace} (htask : t.WritesOnly s name)
    (hsuffix : Path.suffix ⟨0, [name]⟩ ∉ s.extensions) (hroot : t.root.Normal)
    (hw : w.top.WellFormed)
    (hlink : ∀ d target, w.find t.root = .ok d → d.child? name ≠ some (.link target))
    (now now' : Timestamp) :
    let command := t.run makeTree fun _ => .ok s
    let result := fun now w => analyze makeTree (t.inForce s) now w t.root
    ∃ o, command now w = .ok o ∧
      (∀ r d, result now w = .ok r → w.find t.root = .ok d → t.save = true →
        (t.verbose && t.quiet) = false → name ≠ ".." →
        (∀ es, d.child? name ≠ some (.directory es)) →
          o.workspace.find (t.root.child name) = .ok (.file (reportBytes s r))) ∧
      (∀ p, (∀ place, o.workspace.place (t.root.child name) = .ok place →
          o.workspace.place p ≠ .ok place) →
        ∀ content, o.workspace.find p = .ok (.file content) ↔ w.find p = .ok (.file content)) ∧
      discover s.discovery o.workspace t.root = discover s.discovery w t.root ∧
      (result now' o.workspace).map AnalysisResult.findings =
        (result now w).map AnalysisResult.findings ∧
      command now o.workspace = .ok o := by
  intro command result
  have hforce : t.WritesOnly (t.inForce s) name := ⟨htask.output, htask.json, htask.reportName⟩
  have hlater (w : Workspace) := findings_analyze makeTree (t.inForce s) now now' w t.root
  cases hquiet : t.verbose && t.quiet with
  | true =>
    have hcommand : command now w =
        .ok (({ workspace := w } : Outcome).fail "--verbose and --quiet are mutually exclusive") :=
      if_pos hquiet
    refine ⟨_, hcommand, ?_, fun _ _ _ => Iff.rfl, rfl, hlater w, hcommand⟩
    rintro r d - - - hloud
    cases hloud
  | false =>
    have hcommand (w : Workspace) : command now w =
        .ok (t.perform makeTree (t.inForce s) now w) :=
      Task.run_eq hquiet rfl makeTree now
    obtain ⟨hother, hfound, hanalyze, hagain⟩ :=
      hforce.perform_again makeTree hsuffix hroot hw hlink now
    refine ⟨_, hcommand w, ?_, hother, hfound, ?_, (hcommand _).trans (congrArg Except.ok hagain)⟩
    · intro r d hr hfind hsave _ hup hdirectory
      exact hforce.find_report hw hlink hr hfind hsave hup hdirectory
    · dsimp only [result]
      rw [hanalyze]
      exact hlater w

end Cli

namespace Mixed

/-- Analyse the directory, and save the report there. -/
def task : Cli.Task :=
  { root := ⟨0, ["p"]⟩, output := none, json := none, save := true, strict := false
    verbose := false, quiet := false }

theorem task_writesOnly : task.WritesOnly {} "information-flow-metrics-report.txt" :=
  ⟨rfl, rfl, by decide⟩

end Mixed

theorem rerun_finds_the_same_mixed :
    let w := Mixed.project Mixed.entries
    let t := Mixed.task
    let name := "information-flow-metrics-report.txt"
    let command := t.run Mixed.makeTree fun _ => .ok {}
    t.WritesOnly {} name ∧ Path.suffix ⟨0, [name]⟩ ∉ ({} : Settings).extensions ∧
      t.root.Normal ∧ w.top.WellFormed ∧
      (∀ d target, w.find t.root = .ok d → d.child? name ≠ some (.link target)) ∧
      ∃ o r, command default w = .ok o ∧ analyze Mixed.makeTree {} default w t.root = .ok r ∧
        o.workspace.find (t.root.child name) = .ok (.file (Cli.reportBytes {} r)) ∧
        discover ({} : Settings).discovery o.workspace t.root =
          discover ({} : Settings).discovery w t.root ∧
        command default o.workspace = .ok o := by
  intro w t name command
  have hw : w.top.WellFormed := by
    simp only [w, Mixed.project, Mixed.entries, Mixed.inner, Entry.WellFormed, Entry.WellFormedAll]
    decide
  have hfind : w.find t.root = .ok (.directory Mixed.entries) := rfl
  have hchild : (Entry.directory Mixed.entries).child? name = none := rfl
  have hlink : ∀ d target, w.find t.root = .ok d → d.child? name ≠ some (.link target) := by
    intro d target hd
    obtain rfl : .directory Mixed.entries = d := by simpa [hfind] using hd
    rw [hchild]
    exact (Option.some_ne_none _).symm
  have hsuffix : Path.suffix ⟨0, [name]⟩ ∉ ({} : Settings).extensions := by decide
  have hroot : t.root.Normal := Path.ofString_normal "p"
  have hne : discover ({} : Settings).discovery w t.root ≠ [] := by
    have hsource : FoundFile.IsRight {} (.directory Mixed.entries) ⟨["a", "z.js"], 0⟩ :=
      ⟨⟨[], rfl, rfl⟩, by decide, by decide⟩
    rw [discover_eq hfind]
    exact List.ne_nil_of_mem (List.mem_map_of_mem
      ((mem_inNameOrder_foundIn_iff (wellFormed_of_find hw hfind) _).2 hsource))
  obtain ⟨r, hr⟩ : ∃ r, analyze Mixed.makeTree {} default w t.root = .ok r :=
    ⟨_, analyzeFiles_eq _ _ _ _ hne⟩
  obtain ⟨o, ho, hwritten, -, hfound, -, hagain⟩ := Cli.rerun_finds_the_same Mixed.makeTree
    Mixed.task_writesOnly hsuffix hroot hw hlink default default
  refine ⟨Mixed.task_writesOnly, hsuffix, hroot, hw, hlink, o, r, ho, hr, ?_, hfound, hagain⟩
  refine hwritten r _ hr hfind rfl rfl (by decide) fun es hes => ?_
  rw [hchild] at hes
  cases hes

/-! ### A report in the place of the settings -/

namespace Reassigned

/-- Assignments that ask for sources of another suffix, and for a report in their own place. -/
def assignments : List UInt8 :=
  Text.Utf8.encode
    "FLOWMETRICS_EXTENSIONS=[\".mjs\"]\nFLOWMETRICS_REPORT_FILENAME=.env\n".toList

/-- What they give. -/
def settings : Settings := { extensions := [".mjs"], reportName := ".env" }

/-- What loading makes of these assignments, and of a file without any. -/
def load (w : Workspace) : Except SettingsError Settings :=
  match w.find ⟨0, [".env"]⟩ with
  | .ok (.file content) => .ok (if content = assignments then settings else {})
  | _ => .ok {}

def entries (content : List UInt8) : List (String × Entry) :=
  [(".env", .file content), ("a.mjs", .file []), ("b.js", .file [])]

def project (content : List UInt8) : Workspace := ⟨.directory (entries content), []⟩

def task : Cli.Task := { Mixed.task with root := ⟨0, []⟩ }

theorem task_writesOnly : task.WritesOnly settings ".env" := ⟨rfl, rfl, by decide⟩

theorem hasRoom (content : List UInt8) :
    (project content).HasRoom ⟨0, []⟩ ".env" [] (entries content) :=
  ⟨by decide, rfl, rfl, Entry.atMostFile_file content⟩

theorem discover_project {c : DiscoveryConfig} {content : List UInt8} {f g : List FoundFile}
    (h : foundIn c (entries content) = [(".env", []), ("a.mjs", f), ("b.js", g)]) :
    discover c (project content) ⟨0, []⟩ = (f ++ g).map (FileInfo.of ⟨0, []⟩) := by
  have hnames : [".env", "a.mjs", "b.js"].Pairwise fun a b => decide (a ≤ b) = true := by decide
  have hsorted : (foundIn c (entries content)).Pairwise fun a b => decide (a.1 ≤ b.1) = true := by
    have hmap : ((foundIn c (entries content)).map Prod.fst).Pairwise
        fun a b => decide (a ≤ b) = true := by
      rw [h]
      exact hnames
    exact List.pairwise_map.1 hmap
  rw [discover_eq (hasRoom content).find, inNameOrder, List.mergeSort_of_pairwise hsorted, h]
  simp

end Reassigned

open Reassigned in
/-- **Settings that are loaded again may be others.** Here the report takes the place of the file
that the settings come from. All else is as `Cli.rerun_finds_the_same` asks for, and the first run
analyses the one source file, the next run the other. -/
theorem rerun_differs_reassigned (makeTree : String → Option ParsedTree) (now : Timestamp) :
    let w := project assignments
    task.WritesOnly settings ".env" ∧ Path.suffix ⟨0, [".env"]⟩ ∉ settings.extensions ∧
      task.root.Normal ∧ w.top.WellFormed ∧
      (∀ d target, w.find task.root = .ok d → d.child? ".env" ≠ some (.link target)) ∧
      load w = .ok settings ∧
      (discover settings.discovery w task.root).map (·.path) = ["a.mjs"] ∧
      ∃ o, task.run makeTree load now w = .ok o ∧ load o.workspace = .ok {} ∧
        (discover ({} : Settings).discovery o.workspace task.root).map (·.path) = ["b.js"] := by
  intro w
  have hw : w.top.WellFormed := by
    simp only [w, project, entries, Entry.WellFormed, Entry.WellFormedAll]
    decide
  have hlink : ∀ d target, w.find task.root = .ok d → d.child? ".env" ≠ some (.link target) := by
    intro d target hd
    obtain rfl : .directory (entries assignments) = d := by
      simpa [task, (hasRoom assignments).find, w] using hd
    intro hchild
    cases hchild
  have hload : load w = .ok settings := by
    show Except.ok (if assignments = assignments then settings else {}) = _
    rw [if_pos rfl]
  have hfound : discover settings.discovery w task.root = [FileInfo.of ⟨0, []⟩ ⟨["a.mjs"], 0⟩] :=
    discover_project (f := [⟨["a.mjs"], 0⟩]) (g := []) rfl
  obtain ⟨r, hr⟩ : ∃ r, analyze makeTree settings now w task.root = .ok r :=
    ⟨_, analyzeFiles_eq _ _ _ _ (by rw [hfound]; exact List.cons_ne_nil _ _)⟩
  have hrun : task.run makeTree load now w = .ok (task.perform makeTree settings now w) :=
    Cli.Task.run_eq rfl hload makeTree now
  have hworkspace : (task.perform makeTree settings now w).workspace =
      project (Cli.reportBytes settings r) :=
    task_writesOnly.workspace_of_write rfl hr ((hasRoom assignments).write_eq _)
  have hother : Cli.reportBytes settings r ≠ assignments := by
    intro heq
    have hhead := Cli.head?_reportBytes settings r
    rw [heq] at hhead
    exact absurd hhead (by decide)
  refine ⟨task_writesOnly, by decide, Path.ofString_normal ".", hw, hlink, hload,
    by rw [hfound]; decide, _, hrun, ?_, ?_⟩
  · rw [hworkspace]
    show Except.ok (if Cli.reportBytes settings r = assignments then settings else {}) = _
    rw [if_neg hother]
  · rw [hworkspace, task, discover_project (f := []) (g := [⟨["b.js"], 0⟩]) rfl]
    decide

end CallFlow
