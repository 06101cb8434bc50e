import Mathlib.Data.String.Basic
import CallFlow.Project.Discovery
import CallFlow.Proofs.FileTree

/-!
# Which files are found, and in which order

`IsSource` says which files below a directory are source files, in terms of the names that lead to
them. The walk finds just these (`mem_inNameOrder_foundIn_iff`), in the order in which lists of
names are compared name by name (`pairwise_inNameOrder_foundIn`). A list that is strictly increasing
is determined by what it holds, so the order in which a directory lists its entries cannot matter.
-/

namespace CallFlow

/-- Is there a file at the end of these names that is to be found: none of the names is excluded,
and the last one has a wanted suffix? -/
def IsSource (c : DiscoveryConfig) (d : Entry) (names : List String) : Prop :=
  (∃ content, d.at? names = some (.file content)) ∧
    (∀ name ∈ names, c.isExcluded name = false) ∧ Path.suffix ⟨0, names⟩ ∈ c.extensions

/-- A file that was found is a source file with its size. -/
def FoundFile.IsRight (c : DiscoveryConfig) (d : Entry) (f : FoundFile) : Prop :=
  (∃ content, d.at? f.names = some (.file content) ∧ f.size = content.length) ∧
    (∀ name ∈ f.names, c.isExcluded name = false) ∧ Path.suffix ⟨0, f.names⟩ ∈ c.extensions

theorem Path.suffix_cons {slashes : Nat} (name : String) {names : List String} (h : names ≠ []) :
    Path.suffix ⟨slashes, name :: names⟩ = Path.suffix ⟨slashes, names⟩ := by
  obtain ⟨first, rest, rfl⟩ := List.exists_cons_of_ne_nil h
  rfl

theorem DiscoveryConfig.wants_iff {c : DiscoveryConfig} {name : String} :
    c.wants name = true ↔ Path.suffix ⟨0, [name]⟩ ∈ c.extensions := by
  rw [wants, List.contains_iff_mem]
  rfl

/-! ## What is found -/

theorem foundIn_eq_map (c : DiscoveryConfig) (es : List (String × Entry)) :
    foundIn c es =
      es.map fun p => (p.1, if c.isExcluded p.1 then [] else foundAt c p.1 p.2) := by
  induction es with
  | nil => rw [foundIn, List.map_nil]
  | cons p es ih => rw [foundIn, ih, List.map_cons]

theorem mem_inNameOrder_iff {found : List (String × List FoundFile)} {f : FoundFile} :
    f ∈ inNameOrder found ↔ ∃ b ∈ found, f ∈ b.2 := by
  simp only [inNameOrder, List.mem_flatMap, List.mem_mergeSort]

theorem mem_foundIn_iff {c : DiscoveryConfig} {es : List (String × Entry)} {f : FoundFile} :
    f ∈ inNameOrder (foundIn c es) ↔
      ∃ p ∈ es, c.isExcluded p.1 = false ∧ f ∈ foundAt c p.1 p.2 := by
  rw [mem_inNameOrder_iff, foundIn_eq_map]
  constructor
  · rintro ⟨b, hb, hf⟩
    obtain ⟨p, hp, rfl⟩ := List.mem_map.1 hb
    cases hx : c.isExcluded p.1 with
    | true => simp [hx] at hf
    | false => exact ⟨p, hp, hx, by simpa [hx] using hf⟩
  · rintro ⟨p, hp, hx, hf⟩
    exact ⟨_, List.mem_map_of_mem hp, by simpa [hx] using hf⟩

/-- The files found at an entry, by the names that follow the entry's own. -/
def FoundAt (c : DiscoveryConfig) (name : String) (e : Entry) (f : FoundFile) : Prop :=
  ∃ rest, f.names = name :: rest ∧
    (∃ content, e.at? rest = some (.file content) ∧ f.size = content.length) ∧
      (∀ n ∈ rest, c.isExcluded n = false) ∧ Path.suffix ⟨0, name :: rest⟩ ∈ c.extensions

/-- If the right files are found at each entry of a directory, they are found in the directory. -/
theorem isRight_iff_of_entries {c : DiscoveryConfig} {es : List (String × Entry)}
    (h : (es.map (·.1)).Nodup)
    (hentries : ∀ p ∈ es, ∀ f, f ∈ foundAt c p.1 p.2 ↔ FoundAt c p.1 p.2 f) (f : FoundFile) :
    f ∈ inNameOrder (foundIn c es) ↔ f.IsRight c (.directory es) := by
  rw [mem_foundIn_iff]
  constructor
  · rintro ⟨⟨name, e⟩, hp, hx, hf⟩
    obtain ⟨rest, hnames, ⟨content, hat, hsize⟩, hrest, hsuffix⟩ := (hentries _ hp f).1 hf
    have hlookup : es.lookup name = some e := (lookup_eq_some_iff_mem h).2 hp
    refine ⟨⟨content, ?_, hsize⟩, ?_, ?_⟩
    · rw [hnames, Entry.at?_directory_cons, hlookup]
      exact hat
    · rw [hnames]
      exact List.forall_mem_cons.2 ⟨hx, hrest⟩
    · rw [hnames]
      exact hsuffix
  · rintro ⟨⟨content, hat, hsize⟩, hexcluded, hsuffix⟩
    cases hnames : f.names with
    | nil =>
      -- no name at all leads to the directory itself, which is no file
      rw [hnames, Entry.at?] at hat
      cases hat
    | cons name rest =>
      rw [hnames] at hat hexcluded hsuffix
      rw [Entry.at?_directory_cons] at hat
      obtain ⟨e, hlookup, hat⟩ := Option.bind_eq_some_iff.1 hat
      obtain ⟨hx, hrest⟩ := List.forall_mem_cons.1 hexcluded
      have hp := (lookup_eq_some_iff_mem h).1 hlookup
      exact ⟨(name, e), hp, hx,
        (hentries _ hp f).2 ⟨rest, hnames, ⟨content, hat, hsize⟩, hrest, hsuffix⟩⟩

/-- The right files are found at every entry of a well-formed tree. -/
theorem mem_foundAt_iff (c : DiscoveryConfig) (e : Entry) :
    e.WellFormed → ∀ name f, f ∈ foundAt c name e ↔ FoundAt c name e f := by
  induction e using Entry.induction with
  | file content =>
    intro _ name f
    rw [foundAt]
    constructor
    · intro hf
      cases hw : c.wants name with
      | false => simp [hw] at hf
      | true =>
        obtain rfl : f = ⟨[name], content.length⟩ := by simpa [hw] using hf
        exact ⟨[], rfl, ⟨content, rfl, rfl⟩, by simp, DiscoveryConfig.wants_iff.1 hw⟩
    · rintro ⟨rest, hnames, ⟨content', hat, hsize⟩, -, hsuffix⟩
      cases rest with
      | cons n rest => simp [Entry.at?, Entry.child?] at hat
      | nil =>
        obtain rfl : content = content' := by simpa [Entry.at?] using hat
        obtain ⟨names, size⟩ := f
        obtain rfl : names = [name] := hnames
        obtain rfl : size = content.length := hsize
        simp [DiscoveryConfig.wants_iff.2 hsuffix]
  | link target =>
    intro _ name f
    rw [foundAt]
    constructor
    · intro hf
      exact absurd hf List.not_mem_nil
    · rintro ⟨rest, -, ⟨content, hat, -⟩, -, -⟩
      cases rest <;> simp [Entry.at?, Entry.child?] at hat
  | directory es ih =>
    intro h name f
    obtain ⟨hnames, hes⟩ := Entry.wellFormed_directory_iff.1 h
    have hright := isRight_iff_of_entries hnames fun p hp => ih p hp (hes p hp).2 p.1
    rw [foundAt, List.mem_map]
    constructor
    · rintro ⟨g, hg, rfl⟩
      obtain ⟨⟨content, hat, hsize⟩, hexcluded, hsuffix⟩ := (hright g).1 hg
      have hne : g.names ≠ [] := by
        intro hnil
        rw [hnil, Entry.at?] at hat
        cases hat
      refine ⟨g.names, rfl, ⟨content, hat, hsize⟩, hexcluded, ?_⟩
      rw [Path.suffix_cons name hne]
      exact hsuffix
    · rintro ⟨rest, hnames', ⟨content, hat, hsize⟩, hexcluded, hsuffix⟩
      have hne : rest ≠ [] := by
        rintro rfl
        rw [Entry.at?] at hat
        cases hat
      rw [Path.suffix_cons name hne] at hsuffix
      obtain ⟨names, size⟩ := f
      obtain rfl : names = name :: rest := hnames'
      exact ⟨⟨rest, size⟩, (hright _).2 ⟨⟨content, hat, hsize⟩, hexcluded, hsuffix⟩, rfl⟩

/-- The files found in a well-formed directory are the right ones. -/
theorem mem_inNameOrder_foundIn_iff {c : DiscoveryConfig} {es : List (String × Entry)}
    (h : (Entry.directory es).WellFormed) (f : FoundFile) :
    f ∈ inNameOrder (foundIn c es) ↔ f.IsRight c (.directory es) := by
  obtain ⟨hnames, hes⟩ := Entry.wellFormed_directory_iff.1 h
  exact isRight_iff_of_entries hnames (fun p hp => mem_foundAt_iff c p.2 (hes p hp).2 p.1) f

/-! ## Order -/

/-- Does a file come before another one, name by name? -/
def FoundFile.precedes (f g : FoundFile) : Prop := f.names < g.names

theorem string_lt_of_le_of_ne {a b : String} (hle : a ≤ b) (hne : a ≠ b) : a < b := by
  by_contra hlt
  exact hne (String.le_antisymm hle (String.not_lt.1 hlt))

/-- The names of a sorted directory increase strictly. -/
theorem pairwise_mergeSort_lt {found : List (String × List FoundFile)}
    (h : (found.map (·.1)).Nodup) :
    (found.mergeSort fun a b => decide (a.1 ≤ b.1)).Pairwise fun a b => a.1 < b.1 := by
  have hsorted := @List.pairwise_mergeSort (String × List FoundFile)
    (fun a b => decide (a.1 ≤ b.1))
    (fun a b c hab hbc => by
      simp only [decide_eq_true_eq] at hab hbc ⊢
      exact String.le_trans hab hbc)
    (fun a b => by simpa using String.le_total a.1 b.1) found
  have hdistinct : ((found.mergeSort fun a b => decide (a.1 ≤ b.1)).map (·.1)).Nodup :=
    ((List.mergeSort_perm _ _).map _).nodup_iff.2 h
  refine (hsorted.and (List.pairwise_map.1 hdistinct)).imp fun {a b} hab => ?_
  exact string_lt_of_le_of_ne (by simpa using hab.1) hab.2

/-- What is found below a smaller name comes before what is found below a greater one. -/
theorem pairwise_inNameOrder {found : List (String × List FoundFile)}
    (hnames : (found.map (·.1)).Nodup)
    (hsorted : ∀ b ∈ found, b.2.Pairwise FoundFile.precedes)
    (hbelow : ∀ b ∈ found, ∀ f ∈ b.2, ∃ rest, f.names = b.1 :: rest) :
    (inNameOrder found).Pairwise FoundFile.precedes := by
  rw [inNameOrder, List.pairwise_flatMap]
  refine ⟨fun b hb => hsorted b (List.mem_mergeSort.1 hb), ?_⟩
  refine (pairwise_mergeSort_lt hnames).imp_of_mem fun {a b} ha hb hlt f hf g hg => ?_
  obtain ⟨rest, hf⟩ := hbelow a (List.mem_mergeSort.1 ha) f hf
  obtain ⟨rest', hg⟩ := hbelow b (List.mem_mergeSort.1 hb) g hg
  rw [FoundFile.precedes, hf, hg, List.cons_lt_cons_iff]
  exact Or.inl hlt

theorem names_of_mem_foundAt {c : DiscoveryConfig} {name : String} {e : Entry} {f : FoundFile}
    (h : f ∈ foundAt c name e) : ∃ rest, f.names = name :: rest := by
  cases e with
  | file content =>
    rw [foundAt] at h
    split at h
    · exact ⟨[], by rw [List.mem_singleton.1 h]⟩
    · exact absurd h List.not_mem_nil
  | link target =>
    rw [foundAt] at h
    exact absurd h List.not_mem_nil
  | directory es =>
    rw [foundAt] at h
    obtain ⟨g, -, rfl⟩ := List.mem_map.1 h
    exact ⟨g.names, rfl⟩

/-- If what is found at each entry of a directory is in order, so is what is found in it. -/
theorem pairwise_foundIn_of_entries {c : DiscoveryConfig} {es : List (String × Entry)}
    (h : (es.map (·.1)).Nodup)
    (hentries : ∀ p ∈ es, (foundAt c p.1 p.2).Pairwise FoundFile.precedes) :
    (inNameOrder (foundIn c es)).Pairwise FoundFile.precedes := by
  rw [foundIn_eq_map]
  refine pairwise_inNameOrder ?_ ?_ ?_
  · rw [List.map_map]
    exact h
  · intro b hb
    obtain ⟨p, hp, rfl⟩ := List.mem_map.1 hb
    dsimp only
    split
    · exact List.Pairwise.nil
    · exact hentries p hp
  · intro b hb f hf
    obtain ⟨p, -, rfl⟩ := List.mem_map.1 hb
    dsimp only at hf
    split at hf
    · exact absurd hf List.not_mem_nil
    · exact names_of_mem_foundAt hf

theorem pairwise_foundAt (c : DiscoveryConfig) (e : Entry) :
    e.WellFormed → ∀ name, (foundAt c name e).Pairwise FoundFile.precedes := by
  induction e using Entry.induction with
  | file content =>
    intro _ name
    rw [foundAt]
    split
    · exact List.pairwise_singleton ..
    · exact List.Pairwise.nil
  | link target =>
    intro _ name
    rw [foundAt]
    exact List.Pairwise.nil
  | directory es ih =>
    intro h name
    obtain ⟨hnames, hes⟩ := Entry.wellFormed_directory_iff.1 h
    have hsorted := pairwise_foundIn_of_entries (c := c) hnames
      fun p hp => ih p hp (hes p hp).2 p.1
    rw [foundAt, List.pairwise_map]
    refine hsorted.imp fun {f g} hfg => ?_
    exact List.cons_lt_cons_iff.2 (Or.inr ⟨rfl, hfg⟩)

/-- The files found in a well-formed directory are in strictly increasing order. -/
theorem pairwise_inNameOrder_foundIn (c : DiscoveryConfig) {es : List (String × Entry)}
    (h : (Entry.directory es).WellFormed) :
    (inNameOrder (foundIn c es)).Pairwise FoundFile.precedes := by
  obtain ⟨hnames, hes⟩ := Entry.wellFormed_directory_iff.1 h
  exact pairwise_foundIn_of_entries hnames fun p hp => pairwise_foundAt c p.2 (hes p hp).2 p.1

/-! ## The answer -/

/-- The names that the relative path of a file consists of. -/
def FileInfo.names (f : FileInfo) : List String :=
  (Path.ofString f.relativePath).parts

section Answer

variable {c : DiscoveryConfig} {w : Workspace} {root : Path} {es : List (String × Entry)}

theorem discover_eq (hroot : w.find root = .ok (.directory es)) :
    discover c w root = (inNameOrder (foundIn c es)).map (FileInfo.of root) := by
  rw [discover, hroot]

theorem wellFormed_of_find {e : Entry} (hw : w.top.WellFormed) (hroot : w.find root = .ok e) :
    e.WellFormed := by
  obtain ⟨names, hat⟩ := Workspace.exists_at?_of_find hroot
  exact (hw.at? hat).1

/-- The names of a file that was found can stand in a path. -/
theorem isPart_of_mem_foundIn (h : (Entry.directory es).WellFormed) {f : FoundFile}
    (hf : f ∈ inNameOrder (foundIn c es)) : ∀ name ∈ f.names, Path.IsPart name := by
  obtain ⟨⟨content, hat, -⟩, -⟩ := (mem_inNameOrder_foundIn_iff h f).1 hf
  exact fun name hname => ((h.at? hat).2 name hname).1

/-- The names of a file are read back from its relative path. -/
theorem FileInfo.names_of (root : Path) {f : FoundFile} (h : ∀ name ∈ f.names, Path.IsPart name) :
    (FileInfo.of root f).names = f.names := by
  have hread := Path.ofString_intercalate h
  rw [FileInfo.names, FileInfo.of]
  dsimp only
  rw [hread]

theorem map_names_discover (hw : w.top.WellFormed) (hroot : w.find root = .ok (.directory es)) :
    (discover c w root).map FileInfo.names = (inNameOrder (foundIn c es)).map (·.names) := by
  rw [discover_eq hroot, List.map_map]
  refine List.map_congr_left fun f hf => ?_
  exact FileInfo.names_of root (isPart_of_mem_foundIn (wellFormed_of_find hw hroot) hf)

/-- The relative paths in the answer are those of the source files. -/
theorem mem_names_discover_iff (hw : w.top.WellFormed) (hroot : w.find root = .ok (.directory es))
    (names : List String) :
    names ∈ (discover c w root).map FileInfo.names ↔ IsSource c (.directory es) names := by
  have hes := wellFormed_of_find hw hroot
  rw [map_names_discover hw hroot, List.mem_map]
  constructor
  · rintro ⟨f, hf, rfl⟩
    obtain ⟨⟨content, hat, -⟩, hrest⟩ := (mem_inNameOrder_foundIn_iff hes f).1 hf
    exact ⟨⟨content, hat⟩, hrest⟩
  · rintro ⟨⟨content, hat⟩, hrest⟩
    exact ⟨⟨names, content.length⟩,
      (mem_inNameOrder_foundIn_iff hes _).2 ⟨⟨content, hat, rfl⟩, hrest⟩, rfl⟩

theorem pairwise_names_discover (hw : w.top.WellFormed)
    (hroot : w.find root = .ok (.directory es)) :
    ((discover c w root).map FileInfo.names).Pairwise (· < ·) := by
  rw [map_names_discover hw hroot, List.pairwise_map]
  exact pairwise_inNameOrder_foundIn c (wellFormed_of_find hw hroot)

end Answer

/-! ## The order of directory entries -/

theorem FoundFile.IsRight.of_rearranged {c : DiscoveryConfig} {d d' : Entry} (h : d.WellFormed)
    (hr : d.Rearranged d') {f : FoundFile} : f.IsRight c d ↔ f.IsRight c d' := by
  have hat := hr.at? h f.names
  rw [IsRight, IsRight]
  generalize d.at? f.names = found at hat
  generalize d'.at? f.names = found' at hat
  cases hat with
  | none => rfl
  | some hd => cases hd <;> simp

theorem nodup_of_pairwise_precedes {found : List FoundFile}
    (h : found.Pairwise FoundFile.precedes) : found.Nodup := by
  refine List.Pairwise.imp ?_ h
  rintro f _ hlt rfl
  exact List.lt_irrefl _ hlt

/-- A list of files in strictly increasing order is determined by what it holds. -/
theorem eq_of_pairwise_precedes {found found' : List FoundFile}
    (h : found.Pairwise FoundFile.precedes) (h' : found'.Pairwise FoundFile.precedes)
    (hmem : ∀ f, f ∈ found ↔ f ∈ found') : found = found' := by
  have hperm : found.Perm found' :=
    (List.perm_ext_iff_of_nodup (nodup_of_pairwise_precedes h) (nodup_of_pairwise_precedes h')).2
      hmem
  exact hperm.eq_of_pairwise (fun f g _ _ hfg hgf => absurd hgf (List.lt_asymm hfg)) h h'

/-- The same is found in two directories, if the same files are the right ones. -/
theorem inNameOrder_foundIn_congr {c : DiscoveryConfig} {es es' : List (String × Entry)}
    (h : (Entry.directory es).WellFormed) (h' : (Entry.directory es').WellFormed)
    (hright : ∀ f : FoundFile, f.IsRight c (.directory es) ↔ f.IsRight c (.directory es')) :
    inNameOrder (foundIn c es) = inNameOrder (foundIn c es') := by
  refine eq_of_pairwise_precedes (pairwise_inNameOrder_foundIn c h)
    (pairwise_inNameOrder_foundIn c h') fun f => ?_
  rw [mem_inNameOrder_foundIn_iff h, mem_inNameOrder_foundIn_iff h', hright]

/-- What is found in a directory does not depend on the order of its entries. -/
theorem inNameOrder_foundIn_rearranged {c : DiscoveryConfig} {es es' : List (String × Entry)}
    (h : (Entry.directory es).WellFormed)
    (hr : (Entry.directory es).Rearranged (.directory es')) :
    inNameOrder (foundIn c es) = inNameOrder (foundIn c es') :=
  inNameOrder_foundIn_congr h (Entry.Rearranged.wellFormed _ h _ hr)
    fun _ => FoundFile.IsRight.of_rearranged h hr

theorem discover_rearranged (c : DiscoveryConfig) {w w' : Workspace} (hw : w.top.WellFormed)
    (hr : w.Rearranged w') (root : Path) : discover c w' root = discover c w root := by
  rw [discover, discover]
  rcases Workspace.find_rearranged hw hr root with ⟨e, e', he, he', hd⟩ | ⟨err, he, he'⟩
  · have hwf := wellFormed_of_find hw he
    rw [he, he']
    cases hd with
    | file content => rfl
    | link target => rfl
    | directory hperm heach =>
      dsimp only
      rw [inNameOrder_foundIn_rearranged hwf (.directory hperm heach)]
  · rw [he, he']

/-- **Discovery finds the source files, in one order.** Below a directory of a well-formed tree, the
relative paths in the answer are made of the names of the source files, each once and in strictly
increasing order, name by name; and the answer is the same however the directories list their
entries. -/
theorem discover_exact (c : DiscoveryConfig) {w : Workspace} (hw : w.top.WellFormed) {root : Path}
    {es : List (String × Entry)} (hroot : w.find root = .ok (.directory es)) :
    let files := discover c w root
    (∀ f ∈ files, f.relativePath = "/".intercalate f.names) ∧
    (∀ names, names ∈ files.map FileInfo.names ↔ IsSource c (.directory es) names) ∧
    (files.map FileInfo.names).Pairwise (· < ·) ∧
    (files.map (·.relativePath)).Nodup ∧
    ∀ w', w.Rearranged w' → discover c w' root = files := by
  intro files
  have hsorted := pairwise_names_discover (c := c) hw hroot
  refine ⟨?text, mem_names_discover_iff hw hroot, hsorted, ?once,
    fun w' hr => discover_rearranged c hw hr root⟩
  case text =>
    intro f hf
    rw [show files = _ from discover_eq hroot] at hf
    obtain ⟨g, hg, rfl⟩ := List.mem_map.1 hf
    rw [FileInfo.names_of root (isPart_of_mem_foundIn (wellFormed_of_find hw hroot) hg)]
    rfl
  case once =>
    -- two files with the same relative path would have the same names
    refine List.pairwise_map.2 ((List.pairwise_map.1 hsorted).imp fun {f g} hlt heq => ?_)
    rw [FileInfo.names, FileInfo.names, heq] at hlt
    exact List.lt_irrefl _ hlt

/-! ### A directory with all kinds of entries -/

namespace Mixed

def inner : List (String × Entry) := [("z.js", .file []), ("m.txt", .file [])]

/-- Of these, `a-b.js` and the file `z.js` in `a` are source files. -/
def entries : List (String × Entry) :=
  [("l.js", .link "a-b.js"), ("a-b.js", .file [10]), ("a", .directory inner),
    (".h.js", .file []), ("build", .directory [("x.js", .file [])])]

def project (entries : List (String × Entry)) : Workspace :=
  ⟨.directory [("p", .directory entries)], []⟩

/-- The same entries listed backwards, also those of `a`. -/
def backwards : List (String × Entry) :=
  [("build", .directory [("x.js", .file [])]), (".h.js", .file []),
    ("a", .directory inner.reverse), ("a-b.js", .file [10]), ("l.js", .link "a-b.js")]

end Mixed

theorem discover_exact_mixed :
    let w := Mixed.project Mixed.entries
    let files := discover {} w ⟨0, ["p"]⟩
    w.top.WellFormed ∧ w.find ⟨0, ["p"]⟩ = .ok (.directory Mixed.entries) ∧
      IsSource {} (.directory Mixed.entries) ["a", "z.js"] ∧
      ["a", "z.js"] ∈ files.map FileInfo.names ∧ ["l.js"] ∉ files.map FileInfo.names ∧
      (files.map FileInfo.names).Pairwise (· < ·) ∧
      w.Rearranged (Mixed.project Mixed.backwards) ∧
      discover {} (Mixed.project Mixed.backwards) ⟨0, ["p"]⟩ = files := by
  intro w files
  have hw : w.top.WellFormed := by
    simp only [w, Mixed.project, Mixed.entries, Mixed.inner, Entry.WellFormed, Entry.WellFormedAll]
    decide
  have hroot : w.find ⟨0, ["p"]⟩ = .ok (.directory Mixed.entries) := rfl
  obtain ⟨-, hmem, hsorted, -, horder⟩ := discover_exact {} hw hroot
  have hsource : IsSource {} (.directory Mixed.entries) ["a", "z.js"] :=
    ⟨⟨[], rfl⟩, by decide, by decide⟩
  have hlink : ¬IsSource {} (.directory Mixed.entries) ["l.js"] := by
    rintro ⟨⟨content, hat⟩, -⟩
    cases hat
  have hinner : (Entry.directory Mixed.inner).Rearranged (.directory Mixed.inner.reverse) :=
    .directory (List.reverse_perm _).symm (.cons _ (.file _) (.cons _ (.file _) .nil))
  have hbuild : (Entry.directory [("x.js", .file [])]).Rearranged
      (.directory [("x.js", .file [])]) :=
    .directory (List.Perm.refl _) (.cons _ (.file _) .nil)
  have hentries : (Entry.directory Mixed.entries).Rearranged (.directory Mixed.backwards) :=
    .directory (List.reverse_perm _).symm (.cons _ hbuild (.cons _ (.file _) (.cons _ hinner
      (.cons _ (.file _) (.cons _ (.link _) .nil)))))
  have hr : w.Rearranged (Mixed.project Mixed.backwards) :=
    ⟨.directory (List.Perm.refl _) (.cons _ hentries .nil), rfl⟩
  exact ⟨hw, hroot, hsource, (hmem _).2 hsource, fun h => hlink ((hmem _).1 h), hsorted, hr,
    horder _ hr⟩

end CallFlow
