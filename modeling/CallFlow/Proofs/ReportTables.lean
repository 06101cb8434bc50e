import Mathlib.Algebra.GroupWithZero.Nat
import Mathlib.Data.List.Forall2
import CallFlow.Report.Text

/-!
# Tables of the text report

A row of a table is a list of cells with bars between them. Every cell but the last has the width of
its column, whatever it shows: names are cut and filled up, numbers that are small enough are filled
up. So the bars of all rows stand at the same offsets (`Aligned`), and every line has the width of
the box.

A name may itself hold the character of a bar. The offsets of all bars of a row are therefore
compared, and those that are not separators are found inside the names.
-/

namespace CallFlow.Report

/-! ## Widths -/

@[simp] theorem length_repeated (n : ℕ) (c : Char) : (repeated n c).length = n :=
  List.length_replicate

theorem length_padRight {n : ℕ} {s : List Char} (h : s.length ≤ n) :
    (padRight n s).length = n := by
  simp only [padRight, List.length_append, length_repeated]
  omega

theorem length_padLeft {n : ℕ} {s : List Char} (h : s.length ≤ n) : (padLeft n s).length = n := by
  simp only [padLeft, List.length_append, length_repeated]
  omega

theorem length_center {n : ℕ} {s : List Char} (h : s.length ≤ n) : (center n s).length = n := by
  simp only [center, List.length_append, length_repeated]
  split <;> omega

/-- A text that is too long is cut to the width exactly. -/
theorem length_truncate {n : ℕ} (hn : 3 ≤ n) (s : List Char) :
    (truncate s n).length = min s.length n := by
  unfold truncate before
  by_cases h : (s.length : Int) ≤ n
  · rw [if_pos h]
    omega
  · rw [if_neg h, if_neg (by omega)]
    simp only [List.length_append, List.length_take, List.length_cons, List.length_nil]
    omega

theorem length_column {n : ℕ} (hn : 3 ≤ n) (s : String) : (column n s).length = n := by
  refine length_padRight ?_
  rw [length_truncate hn]
  exact Nat.min_le_right _ _

theorem length_figure {n k : ℕ} (hn : 0 < n) (hk : k < 10 ^ n) : (figure n k).length = n := by
  refine length_padLeft ?_
  rw [Nat.toString_eq_repr, String.length_toList]
  exact (Nat.length_repr_le_iff hn).2 hk

theorem length_rule (left right : Char) : (rule left right).length = 80 := by
  simp [rule, width]

theorem length_row {s : List Char} (h : s.length ≤ 76) : (row s).length = 80 := by
  have hpadded : (padRight (width - 2) s).length = 76 := length_padRight h
  simp [row, hpadded]

/-! ## Bars -/

/-- The offsets of the bars in a text that starts at the offset `start` of its line. -/
def barsFrom (start : ℕ) (s : List Char) : List ℕ :=
  s.findIdxs (· == '│') start

theorem barsFrom_append (start : ℕ) (s t : List Char) :
    barsFrom start (s ++ t) = barsFrom start s ++ barsFrom (start + s.length) t :=
  List.findIdxs_append

theorem barsFrom_eq_nil {s : List Char} (h : '│' ∉ s) (start : ℕ) : barsFrom start s = [] := by
  rw [barsFrom, List.findIdxs_eq_nil_iff]
  intro c hc
  rw [beq_eq_false_iff_ne]
  rintro rfl
  exact h hc

theorem bar_not_mem_repeated (n : ℕ) : '│' ∉ repeated n ' ' := by
  simp [repeated]

theorem barsFrom_padRight (start n : ℕ) (s : List Char) :
    barsFrom start (padRight n s) = barsFrom start s := by
  rw [padRight, barsFrom_append, barsFrom_eq_nil (bar_not_mem_repeated _), List.append_nil]

theorem bar_not_mem_figure (n k : ℕ) : '│' ∉ figure n k := by
  rw [figure, padLeft, Nat.toString_eq_repr, Nat.toList_repr, List.mem_append]
  rintro (h | h)
  · exact bar_not_mem_repeated _ h
  · exact absurd (Nat.isDigit_of_mem_toDigits (by decide) (by decide) h) (by decide)

/-- The sides of a box and what fills a line up are no bars. -/
theorem barsFrom_row (s : List Char) : barsFrom 0 (row s) = barsFrom 3 s := by
  rw [row, barsFrom_append, barsFrom_append, barsFrom_padRight,
    barsFrom_eq_nil (s := ['║', ' ', ' ']) (by decide), barsFrom_eq_nil (s := ['║']) (by decide)]
  simp

/-! ## Cells -/

/-- What a cell of a row shows. -/
inductive Cell where
  /-- A name in a column, cut if it is too long. -/
  | name (width : ℕ) (s : String)
  /-- A number in a column. -/
  | number (width : ℕ) (k : ℕ)
  /-- A word that takes the room it needs. -/
  | word (s : String)

namespace Cell

/-- The characters of a cell. -/
def text : Cell → List Char
  | name n s => column n s
  | number n k => figure n k
  | word s => s.toList

/-- The width of a cell if it fits. -/
def width : Cell → ℕ
  | name n _ => n
  | number n _ => n
  | word s => s.toList.length

/-- The name that a cell shows. -/
def shown? : Cell → Option (List Char)
  | name n s => some (truncate s.toList n)
  | number _ _ => none
  | word _ => none

/-- Every name fits into a column that has room for the mark of a cut; a number has to be small
enough. -/
def Fits : Cell → Prop
  | name n _ => 3 ≤ n
  | number n k => 0 < n ∧ k < 10 ^ n
  | word s => '│' ∉ s.toList

theorem Fits.length_text {cell : Cell} (h : cell.Fits) : cell.text.length = cell.width := by
  cases cell with
  | name n s => exact length_column h s
  | number n k => exact length_figure h.1 h.2
  | word s => rfl

theorem Fits.length_text_append_bar {cell : Cell} (h : cell.Fits) :
    (cell.text ++ bar).length = cell.width + 3 := by
  simp [bar, h.length_text]

/-- The bars in a cell are those of the name that it shows. -/
theorem Fits.mem_barsFrom_text {cell : Cell} (h : cell.Fits) {start i : ℕ} :
    i ∈ barsFrom start cell.text ↔ ∃ s ∈ cell.shown?, i ∈ barsFrom start s := by
  cases cell with
  | name n s =>
    have hbars : barsFrom start (column n s) = barsFrom start (truncate s.toList n) :=
      barsFrom_padRight start n _
    simp [text, shown?, hbars]
  | number n k => simp [text, shown?, barsFrom_eq_nil (bar_not_mem_figure n k)]
  | word s => simp [text, shown?, barsFrom_eq_nil h]

end Cell

/-- A row of cells with bars between them. -/
def joined (cells : List Cell) : List Char :=
  bar.intercalate (cells.map Cell.text)

/-- The width of a row: its cells, and a bar between each two of them. -/
def rowWidth : List Cell → ℕ
  | [] => 0
  | [cell] => cell.width
  | cell :: next :: cells => cell.width + 3 + rowWidth (next :: cells)

/-- The offsets of the bars between cells, if the first cell starts at `start`. -/
def separators (start : ℕ) : List Cell → List ℕ
  | [] => []
  | [_] => []
  | cell :: next :: cells =>
    (start + cell.width + 1) :: separators (start + cell.width + 3) (next :: cells)

/-- The names that cells show, with the offsets at which they start. -/
def names (start : ℕ) : List Cell → List (ℕ × List Char)
  | [] => []
  | cell :: cells => cell.shown?.toList.map (start, ·) ++ names (start + cell.width + 3) cells

theorem joined_cons (cell next : Cell) (cells : List Cell) :
    joined (cell :: next :: cells) = cell.text ++ bar ++ joined (next :: cells) :=
  List.intercalate_cons_cons

/-- A bar of a row separates two cells or belongs to a name. -/
theorem mem_barsFrom_joined {i : ℕ} {cells : List Cell} (h : ∀ cell ∈ cells, cell.Fits) :
    ∀ start, i ∈ barsFrom start (joined cells) ↔
      i ∈ separators start cells ∨ ∃ p ∈ names start cells, i ∈ barsFrom p.1 p.2 := by
  -- `start` stays general: the rest of the row begins after the first cell and its bar
  induction cells with
  | nil => intro start; simp [joined, names, separators, barsFrom]
  | cons cell cells ih =>
    intro start
    obtain ⟨hcell, hcells⟩ := List.forall_mem_cons.1 h
    have hnames : (∃ p ∈ cell.shown?.toList.map (start, ·), i ∈ barsFrom p.1 p.2) ↔
        i ∈ barsFrom start cell.text := by
      rw [hcell.mem_barsFrom_text]
      simp
    simp only [names, List.mem_append, or_and_right, exists_or, hnames]
    cases cells with
    | nil => simp [joined, separators, names]
    | cons next cells =>
      have hbar : barsFrom (start + cell.width) bar = [start + cell.width + 1] := by
        simp [barsFrom, bar]
      rw [joined_cons, barsFrom_append, barsFrom_append, hcell.length_text, hbar,
        hcell.length_text_append_bar, ← Nat.add_assoc, separators]
      simp only [List.mem_append, List.mem_cons, List.not_mem_nil, or_false, ih hcells]
      tauto

theorem length_joined {cells : List Cell} (h : ∀ cell ∈ cells, cell.Fits) :
    (joined cells).length = rowWidth cells := by
  induction cells with
  | nil => rfl
  | cons cell cells ih =>
    obtain ⟨hcell, hcells⟩ := List.forall_mem_cons.1 h
    cases cells with
    | nil => simp [joined, rowWidth, hcell.length_text]
    | cons next cells =>
      rw [joined_cons, List.length_append, hcell.length_text_append_bar, ih hcells, rowWidth]

/-! ## Tables -/

/-- The line has bars at the offsets of the separators, and any other bar is a character of one of
the names, which are given with the offsets at which they start. -/
structure Aligned (separators : List ℕ) (line : List Char) (names : List (ℕ × List Char)) :
    Prop where
  separated : ∀ i ∈ separators, i ∈ barsFrom 0 line
  others : ∀ i ∈ barsFrom 0 line, i ∈ separators ∨ ∃ p ∈ names, i ∈ barsFrom p.1 p.2

/-- A table as it is drawn: three lines with the title, the header, a row for each list of names,
the bottom of the box and an empty line. All lines but the last have 80 characters, the bars of the
header are the separators, and the rows are aligned with it. -/
def AlignedTable (table : List (List Char)) (separators : List ℕ)
    (names : List (List (ℕ × List Char))) : Prop :=
  ∃ top header rows bottom, table = top ++ (header :: rows) ++ [bottom, []] ∧ top.length = 3 ∧
    (∀ line ∈ top ++ (header :: rows) ++ [bottom], line.length = 80) ∧
    barsFrom 0 header = separators ∧ List.Forall₂ (Aligned separators) rows names

theorem aligned_joined {cells : List Cell} (h : ∀ cell ∈ cells, cell.Fits) :
    Aligned (separators 3 cells) (row (joined cells)) (names 3 cells) := by
  constructor
  · intro i hi
    rw [barsFrom_row, mem_barsFrom_joined h]
    exact Or.inl hi
  · intro i hi
    rw [barsFrom_row, mem_barsFrom_joined h] at hi
    exact hi

/-- A box is a table if its rows fit into it and are aligned with its header. -/
theorem box_alignedTable {α : Type} {title : String} {header : List Char} {offsets : List ℕ}
    {entries : List α} (cells : α → List Cell) (htitle : title.toList.length ≤ width - 4)
    (hheader : header.length ≤ 76) (hbars : barsFrom 0 (row header) = offsets)
    (hfits : ∀ x ∈ entries, ∀ cell ∈ cells x, cell.Fits)
    (hwidth : ∀ x ∈ entries, rowWidth (cells x) ≤ 76)
    (hoffsets : ∀ x ∈ entries, separators 3 (cells x) = offsets) :
    AlignedTable (box title (header :: entries.map fun x => joined (cells x))) offsets
      (entries.map fun x => names 3 (cells x)) := by
  refine ⟨[rule '╔' '╗', row (center (width - 4) title.toList), rule '╠' '╣'], row header,
    entries.map fun x => row (joined (cells x)), rule '╚' '╝', ?_, rfl, ?_, hbars, ?_⟩
  · simp [box]
  · have hcentred : (row (center (width - 4) title.toList)).length = 80 :=
      length_row (by rw [length_center htitle]; decide)
    simp only [List.mem_append, List.mem_cons, List.mem_map, List.not_mem_nil, or_false]
    rintro line (((rfl | rfl | rfl) | rfl | ⟨x, hx, rfl⟩) | rfl)
    · exact length_rule _ _
    · exact hcentred
    · exact length_rule _ _
    · exact length_row hheader
    · exact length_row (by rw [length_joined (hfits x hx)]; exact hwidth x hx)
    · exact length_rule _ _
  · rw [List.forall₂_map_left_iff, List.forall₂_map_right_iff, List.forall₂_same]
    intro x hx
    rw [← hoffsets x hx]
    exact aligned_joined (hfits x hx)

/-! ## The tables of a report -/

def functionCells (f : FunctionFlow) : List Cell :=
  [.name nameWidth f.name, .name moduleWidth f.moduleName, .number 6 f.fanIn, .number 7 f.fanOut]

def moduleCells (m : ModuleFlow) : List Cell :=
  [.name nameWidth m.name, .number 9 m.functionCount, .number 6 m.fanIn, .number 7 m.fanOut]

def flowCells (e : FlowEntry) : List Cell :=
  [.name nameWidth e.function, .number 4 e.fanIn, .number 4 e.fanOut, .number 8 e.complexity,
    .word e.rating.name]

theorem functionRow_eq_joined : functionRow = fun f => joined (functionCells f) := by
  funext f
  simp [functionRow, functionCells, joined, Cell.text]

theorem moduleRow_eq_joined : moduleRow = fun m => joined (moduleCells m) := by
  funext m
  simp [moduleRow, moduleCells, joined, Cell.text]

theorem flowRow_eq_joined : flowRow = fun e => joined (flowCells e) := by
  funext e
  simp [flowRow, flowCells, joined, Cell.text]

/-- The counts of a report have no more digits than their columns have room for. -/
structure FitsColumns (m : MetricsReport) : Prop where
  functions : ∀ f ∈ m.functions, f.fanIn < 10 ^ 6 ∧ f.fanOut < 10 ^ 7
  modules : ∀ g ∈ m.modules, g.functionCount < 10 ^ 9 ∧ g.fanIn < 10 ^ 6 ∧ g.fanOut < 10 ^ 7
  informationFlow : ∀ e ∈ m.informationFlow,
    e.fanIn < 10 ^ 4 ∧ e.fanOut < 10 ^ 4 ∧ e.complexity < 10 ^ 8
  pairs : ∀ p ∈ m.coupling.pairs, p.calls < 10 ^ 5

section Fitting

variable {m : MetricsReport} (h : FitsColumns m)

include h

theorem functions_alignedTable :
    AlignedTable (box "FUNCTION-LEVEL METRICS" (functionRows m.functions)) [32, 47, 56]
      (m.functions.map fun f => [(3, truncate f.name.toList nameWidth),
        (34, truncate f.moduleName.toList moduleWidth)]) := by
  rw [functionRows, functionRow_eq_joined]
  refine box_alignedTable functionCells (by decide) (by decide +kernel)
    (by decide +kernel) ?_ ?_ (fun f _ => rfl)
  · intro f hf
    obtain ⟨hin, hout⟩ := h.functions f hf
    simp only [functionCells, List.forall_mem_cons]
    exact ⟨(by decide : 3 ≤ nameWidth), (by decide : 3 ≤ moduleWidth), ⟨by decide, hin⟩,
      ⟨by decide, hout⟩, List.forall_mem_nil _⟩
  · intro f _
    show 62 ≤ 76
    decide

theorem modules_alignedTable :
    AlignedTable (box "MODULE-LEVEL METRICS" (moduleRows m.modules)) [32, 44, 53]
      (m.modules.map fun g => [(3, truncate g.name.toList nameWidth)]) := by
  rw [moduleRows, moduleRow_eq_joined]
  refine box_alignedTable moduleCells (by decide) (by decide +kernel)
    (by decide +kernel) ?_ ?_ (fun g _ => rfl)
  · intro g hg
    obtain ⟨hcount, hin, hout⟩ := h.modules g hg
    simp only [moduleCells, List.forall_mem_cons]
    exact ⟨(by decide : 3 ≤ nameWidth), ⟨by decide, hcount⟩, ⟨by decide, hin⟩, ⟨by decide, hout⟩,
      List.forall_mem_nil _⟩
  · intro g _
    show 59 ≤ 76
    decide

theorem informationFlow_alignedTable :
    AlignedTable (box "INFORMATION FLOW COMPLEXITY" (flowRows m.informationFlow)) [32, 39, 46, 57]
      ((byComplexity m.informationFlow).map fun e =>
        [(3, truncate e.function.toList nameWidth)]) := by
  rw [flowRows, flowRow_eq_joined]
  refine box_alignedTable flowCells (by decide) (by decide +kernel)
    (by decide +kernel) ?_ ?_ (fun e _ => rfl)
  · intro e he
    obtain ⟨hin, hout, hcomplexity⟩ := h.informationFlow e (List.mem_mergeSort.1 he)
    have hrating : '│' ∉ e.rating.name.toList := by
      cases e.rating <;> decide +kernel
    simp only [flowCells, List.forall_mem_cons]
    exact ⟨(by decide : 3 ≤ nameWidth), ⟨by decide, hin⟩, ⟨by decide, hout⟩,
      ⟨by decide, hcomplexity⟩, hrating, List.forall_mem_nil _⟩
  · intro e _
    have hrating : e.rating.name.toList.length ≤ 9 := by
      cases e.rating <;> decide +kernel
    show 28 + 3 + (4 + 3 + (4 + 3 + (8 + 3 + e.rating.name.toList.length))) ≤ 76
    omega

theorem length_row_pairRow {p : CouplingPair} (hp : p ∈ m.coupling.pairs) :
    (row (pairRow p)).length = 80 := by
  have hkind : p.kind.name.toList.length = 5 := by
    cases p.kind <;> decide +kernel
  have hfirst : (column 24 p.first).length = 24 := length_column (by decide) _
  have hsecond : (column 24 p.second).length = 24 := length_column (by decide) _
  have hcalls : (figure 5 p.calls).length = 5 := length_figure (by decide) (h.pairs p hp)
  refine length_row ?_
  simp [pairRow, hfirst, hsecond, hcalls, hkind]

end Fitting

theorem row_pairRow_mem (c : AnalysisConfig) {r : CouplingReport} {p : CouplingPair}
    (hp : p ∈ r.pairs) : row (pairRow p) ∈ box "COUPLING" (couplingRows c r) := by
  have hpairs : ¬r.pairs.isEmpty = true := by
    simpa using List.ne_nil_of_mem hp
  have hmem : pairRow p ∈ couplingRows c r := by
    rw [couplingRows, if_neg hpairs]
    exact List.mem_append_right _ (List.mem_cons_of_mem _ (List.mem_map_of_mem hp))
  exact List.mem_append_left _ (List.mem_append_right _ (List.mem_map_of_mem hmem))

/-- **The tables stay aligned for every name.** If the counts of a report fit into their columns,
then every line of its tables of functions, modules and complexities but the empty one has 80
characters, and in each table the bars between the columns of every row stand where they stand in
its header. A row has no other bars but those that are characters of the names in it. The rows for
coupled pairs have 80 characters too. -/
theorem tables_stay_aligned (c : AnalysisConfig) {m : MetricsReport} (h : FitsColumns m) :
    AlignedTable (box "FUNCTION-LEVEL METRICS" (functionRows m.functions)) [32, 47, 56]
      (m.functions.map fun f => [(3, truncate f.name.toList nameWidth),
        (34, truncate f.moduleName.toList moduleWidth)]) ∧
    AlignedTable (box "MODULE-LEVEL METRICS" (moduleRows m.modules)) [32, 44, 53]
      (m.modules.map fun g => [(3, truncate g.name.toList nameWidth)]) ∧
    AlignedTable (box "INFORMATION FLOW COMPLEXITY" (flowRows m.informationFlow)) [32, 39, 46, 57]
      ((byComplexity m.informationFlow).map fun e =>
        [(3, truncate e.function.toList nameWidth)]) ∧
    ∀ p ∈ m.coupling.pairs, row (pairRow p) ∈ box "COUPLING" (couplingRows c m.coupling) ∧
      (row (pairRow p)).length = 80 :=
  ⟨functions_alignedTable h, modules_alignedTable h, informationFlow_alignedTable h,
    fun _ hp => ⟨row_pairRow_mem c hp, length_row_pairRow h hp⟩⟩

namespace Crowded

/-- A function whose name is one character too long for its column and starts with a bar, with the
largest counts that fit. -/
def function : FunctionFlow :=
  { name := "│abcdefghijklmnopqrstuvwxyz01", moduleName := "module│of│bars", file := "a.js"
    line := 1, kind := .declaration, fanIn := 999999, fanOut := 9999999 }

def report : MetricsReport :=
  { summary := {}
    functions := [function]
    modules := [{ name := "a", path := "a.js", functionCount := 999999999 }]
    coupling := { tight := 1, pairs := [⟨"login", "draw", 99999, .tight⟩] }
    informationFlow := [⟨"", "a", "a.js", 1, 9999, 9999, 99999999, .veryHigh⟩] }

end Crowded

/-- The bars of the long name and of the module show among the separators of the row, and do not
move them. -/
theorem tables_stay_aligned_crowded :
    FitsColumns Crowded.report ∧
      barsFrom 0 (row (functionRow Crowded.function)) = [3, 32, 40, 47, 56] ∧
      AlignedTable (box "FUNCTION-LEVEL METRICS" (functionRows [Crowded.function])) [32, 47, 56]
        [[(3, "│abcdefghijklmnopqrstuvwx...".toList), (34, "module│of...".toList)]] := by
  have hfits : FitsColumns Crowded.report := by
    constructor <;> simp [Crowded.report, Crowded.function]
  have hnames : truncate Crowded.function.name.toList nameWidth =
        "│abcdefghijklmnopqrstuvwx...".toList ∧
      truncate Crowded.function.moduleName.toList moduleWidth = "module│of...".toList := by
    decide +kernel
  have haligned := (tables_stay_aligned {} hfits).1
  simp only [Crowded.report, List.map_cons, List.map_nil, hnames] at haligned
  exact ⟨hfits, by decide +kernel, haligned⟩

end CallFlow.Report
