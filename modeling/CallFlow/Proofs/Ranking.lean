import Mathlib.Data.Prod.Lex
import CallFlow.Proofs.ReportTables

/-!
# Rankings

The functions of a report and the rows of its table of complexities are put into order by the same
rule: what ranks higher comes first, and what ranks the same stays as it was (`ByFallingRank`). The
rule leaves one order only (`ByFallingRank.unique`), and a stable sort gives this one whatever the
rank is (`mergeSort_byFallingRank`). So each ranking only has to say what it ranks by: a function by
fan-in and then by fan-out, an entry of the table by its complexity.

What the row of an entry looks like is said apart from how it is put together (`ShowsEntry`).
-/

namespace CallFlow

/-- The elements of `xs` by falling rank: none is lost or added, and those of one rank stand as they
stood in `xs`. -/
structure ByFallingRank {α ρ : Type} [LinearOrder ρ] (rank : α → ρ) (xs ys : List α) : Prop where
  perm : ys.Perm xs
  falling : ys.Pairwise fun a b => rank b ≤ rank a
  stable : ∀ r, (ys.filter fun a => rank a = r) = xs.filter fun a => rank a = r

/-! ## One order only -/

namespace ByFallingRank

variable {α ρ : Type} [LinearOrder ρ] {rank : α → ρ}

/-- What is in order already stays as it is. -/
theorem eq_of_falling : ∀ {xs ys : List α}, (xs.Pairwise fun a b => rank b ≤ rank a) →
    ByFallingRank rank xs ys → ys = xs := by
  intro xs
  induction xs with
  | nil =>
    intro ys _ h
    exact h.perm.eq_nil
  | cons a xs ih =>
    intro ys hfalling h
    cases ys with
    | nil => exact absurd h.perm.symm.eq_nil (List.cons_ne_nil a xs)
    | cons b ys =>
      -- both lists begin with an element of the highest rank, so with the first one of that rank
      have hle : rank b ≤ rank a := by
        rcases List.mem_cons.1 (h.perm.mem_iff.1 List.mem_cons_self) with rfl | hb
        · exact le_rfl
        · exact List.rel_of_pairwise_cons hfalling hb
      have hge : rank a ≤ rank b := by
        rcases List.mem_cons.1 (h.perm.mem_iff.2 List.mem_cons_self) with rfl | ha
        · exact le_rfl
        · exact List.rel_of_pairwise_cons h.falling ha
      have hrank : rank b = rank a := le_antisymm hle hge
      obtain rfl : b = a := by
        have hfirst := h.stable (rank a)
        rw [List.filter_cons_of_pos (by simpa using hrank),
          List.filter_cons_of_pos (by simp)] at hfirst
        exact (List.cons.inj hfirst).1
      refine congrArg (b :: ·) (ih hfalling.of_cons ⟨h.perm.cons_inv, h.falling.of_cons, ?_⟩)
      intro r
      have hstable := h.stable r
      by_cases hb : rank b = r
      · rw [List.filter_cons_of_pos (by simpa using hb),
          List.filter_cons_of_pos (by simpa using hb)] at hstable
        exact (List.cons.inj hstable).2
      · rwa [List.filter_cons_of_neg (by simpa using hb),
          List.filter_cons_of_neg (by simpa using hb)] at hstable

/-- The rule leaves no choice. -/
theorem unique {xs ys zs : List α} (hys : ByFallingRank rank xs ys)
    (hzs : ByFallingRank rank xs zs) : ys = zs := by
  refine eq_of_falling hzs.falling ⟨hys.perm.trans hzs.perm.symm, hys.falling, fun r => ?_⟩
  rw [hys.stable, hzs.stable]

/-- Only ranks that occur have to be looked at. -/
theorem of_forall_mem {xs ys : List α} (hperm : ys.Perm xs)
    (hfalling : ys.Pairwise fun a b => rank b ≤ rank a)
    (hstable : ∀ x ∈ xs,
      (ys.filter fun a => rank a = rank x) = xs.filter fun a => rank a = rank x) :
    ByFallingRank rank xs ys := by
  refine ⟨hperm, hfalling, fun r => ?_⟩
  by_cases hr : ∃ x ∈ xs, rank x = r
  · obtain ⟨x, hx, rfl⟩ := hr
    exact hstable x hx
  · have hnone : ∀ x ∈ xs, ¬decide (rank x = r) = true := by simpa using hr
    rw [List.filter_eq_nil_iff.2 hnone,
      List.filter_eq_nil_iff.2 fun y hy => hnone y (hperm.mem_iff.1 hy)]

end ByFallingRank

/-! ## Stable sorts -/

section Sorting

variable {α ρ : Type} [LinearOrder ρ] {rank : α → ρ} {before : α → α → Bool}

theorem before_trans (h : ∀ a b, before a b = true ↔ rank b ≤ rank a) (a b c : α)
    (hab : before a b = true) (hbc : before b c = true) : before a c = true := by
  rw [h] at hab hbc ⊢
  exact le_trans hbc hab

theorem before_total (h : ∀ a b, before a b = true ↔ rank b ≤ rank a) (a b : α) :
    (before a b || before b a) = true := by
  rw [Bool.or_eq_true, h, h]
  exact le_total (rank b) (rank a)

/-- Elements of one rank stay as they were. -/
theorem filter_mergeSort (h : ∀ a b, before a b = true ↔ rank b ≤ rank a) (xs : List α) (r : ρ) :
    ((xs.mergeSort before).filter fun a => rank a = r) = xs.filter fun a => rank a = r := by
  have htied : (xs.filter fun a => rank a = r).Pairwise fun a b => before a b = true := by
    refine List.pairwise_of_forall_mem_list ?_
    intro a ha b hb
    have hranks : rank a = r ∧ rank b = r := by simp_all
    rw [h, hranks.1, hranks.2]
  -- what is in order already is kept in this order by the sort
  have hkept : (xs.filter fun a => rank a = r).Sublist (xs.mergeSort before) :=
    List.sublist_mergeSort (before_trans h) (before_total h) htied List.filter_sublist
  have hsublist := hkept.filter fun a => rank a = r
  rw [List.filter_filter] at hsublist
  simp only [Bool.and_self] at hsublist
  have hlength := ((List.mergeSort_perm xs before).filter fun a => rank a = r).length_eq
  exact (hsublist.eq_of_length hlength.symm).symm

/-- A stable sort that puts what ranks higher first. -/
theorem mergeSort_byFallingRank (h : ∀ a b, before a b = true ↔ rank b ≤ rank a) (xs : List α) :
    ByFallingRank rank xs (xs.mergeSort before) where
  perm := List.mergeSort_perm xs before
  falling := by
    refine (List.pairwise_mergeSort (before_trans h) (before_total h) xs).imp ?_
    intro a b hab
    exact (h a b).1 hab
  stable := filter_mergeSort h xs

end Sorting

/-! ## What is ranked -/

/-- What functions rank by: fan-in first, fan-out second. -/
def FunctionFlow.rank (f : FunctionFlow) : ℕ ×ₗ ℕ :=
  toLex (f.fanIn, f.fanOut)

theorem FunctionFlow.rank_le_iff {f g : FunctionFlow} :
    g.rank ≤ f.rank ↔ g.fanIn ≤ f.fanIn ∧ (g.fanIn = f.fanIn → g.fanOut ≤ f.fanOut) := by
  unfold rank
  rw [Prod.Lex.toLex_le_toLex]
  omega

theorem FunctionFlow.rank_eq_iff {f : FunctionFlow} {fanIn fanOut : ℕ} :
    f.rank = toLex (fanIn, fanOut) ↔ f.fanIn = fanIn ∧ f.fanOut = fanOut := by
  unfold rank
  rw [toLex_inj, Prod.mk.injEq]

theorem FunctionFlow.ranksBefore_iff (f g : FunctionFlow) :
    f.ranksBefore g = true ↔ g.rank ≤ f.rank := by
  rw [rank_le_iff]
  unfold ranksBefore
  simp only [Bool.or_eq_true, Bool.and_eq_true, decide_eq_true_eq, beq_iff_eq]
  omega

theorem CallGraph.ranked_byFallingRank (g : CallGraph) :
    ByFallingRank FunctionFlow.rank g.functions g.ranked :=
  mergeSort_byFallingRank FunctionFlow.ranksBefore_iff g.functions

theorem Report.byComplexity_byFallingRank (es : List FlowEntry) :
    ByFallingRank FlowEntry.complexity es (Report.byComplexity es) :=
  mergeSort_byFallingRank (fun _ _ => decide_eq_true_iff) es

/-! ## What a row shows -/

namespace Report

/-- The text `t` is `s` with blanks behind it up to the width `n`. A longer text has none. -/
def FilledRight (n : ℕ) (s t : List Char) : Prop :=
  ∃ blanks, t = s ++ blanks ∧ (∀ c ∈ blanks, c = ' ') ∧ t.length = max n s.length

/-- The text `t` is `s` with blanks in front of it up to the width `n`. A longer text has none. -/
def FilledLeft (n : ℕ) (s t : List Char) : Prop :=
  ∃ blanks, t = blanks ++ s ∧ (∀ c ∈ blanks, c = ' ') ∧ t.length = max n s.length

/-- What is left of a name in `n` characters: the whole name, or its beginning and three points. -/
def ShownIn (n : ℕ) (name shown : List Char) : Prop :=
  name.length ≤ n ∧ shown = name ∨
    n < name.length ∧ shown.length = n ∧ ∃ kept, kept <+: name ∧ shown = kept ++ "...".toList

/-- The line shows the name of a function at its left, its figures in decimal digits, each at the
right of its column, and its rating, with a bar between each two of them. -/
def ShowsEntry (e : FlowEntry) (line : List Char) : Prop :=
  ∃ shown name fanIn fanOut complexity,
    line = name ++ " │ ".toList ++ fanIn ++ " │ ".toList ++ fanOut ++ " │ ".toList ++ complexity ++
      " │ ".toList ++ e.rating.name.toList ∧
    ShownIn 28 e.function.toList shown ∧ FilledRight 28 shown name ∧
    FilledLeft 4 (Nat.toDigits 10 e.fanIn) fanIn ∧
    FilledLeft 4 (Nat.toDigits 10 e.fanOut) fanOut ∧
    FilledLeft 8 (Nat.toDigits 10 e.complexity) complexity

theorem filledRight_padRight (n : ℕ) (s : List Char) : FilledRight n s (padRight n s) := by
  refine ⟨_, rfl, fun c hc => List.eq_of_mem_replicate hc, ?_⟩
  simp only [padRight, List.length_append, length_repeated]
  omega

theorem filledLeft_figure (n k : ℕ) : FilledLeft n (Nat.toDigits 10 k) (figure n k) := by
  rw [figure, Nat.toString_eq_repr, Nat.toList_repr]
  refine ⟨_, rfl, fun c hc => List.eq_of_mem_replicate hc, ?_⟩
  simp only [padLeft, List.length_append, length_repeated]
  omega

theorem shownIn_truncate {n : ℕ} (hn : 3 ≤ n) (s : List Char) : ShownIn n s (truncate s n) := by
  by_cases hlong : s.length ≤ n
  · exact .inl ⟨hlong, if_pos (by omega)⟩
  · refine .inr ⟨by omega, by rw [length_truncate hn]; omega, before (n - 3) s,
      List.take_prefix _ _, ?_⟩
    exact if_neg (by omega)

theorem flowRow_showsEntry (e : FlowEntry) : ShowsEntry e (flowRow e) :=
  ⟨_, _, _, _, _, rfl, shownIn_truncate (by decide) _, filledRight_padRight _ _,
    filledLeft_figure _ _, filledLeft_figure _ _, filledLeft_figure _ _⟩

end Report

/-- **Both rankings are stable.** The functions of any graph are ranked by falling fan-in and, where
that is the same, by falling fan-out; none is lost or added, and those with the same figures keep
their order. The table of complexities of any report has one row for each entry below its header,
which shows that entry, by falling complexity, and entries of the same complexity keep their
order. -/
theorem rankings_keep_ties :
    (∀ g : CallGraph, g.ranked.Perm g.functions ∧
      (g.ranked.Pairwise fun f f' =>
        f'.fanIn ≤ f.fanIn ∧ (f'.fanIn = f.fanIn → f'.fanOut ≤ f.fanOut)) ∧
      ∀ fanIn fanOut : ℕ, (g.ranked.filter fun f => f.fanIn = fanIn ∧ f.fanOut = fanOut) =
        g.functions.filter fun f => f.fanIn = fanIn ∧ f.fanOut = fanOut) ∧
    ∀ m : MetricsReport, ∃ entries : List FlowEntry,
      Report.flowRows m.informationFlow = Report.flowHeader :: entries.map Report.flowRow ∧
      (∀ e ∈ entries, Report.ShowsEntry e (Report.flowRow e)) ∧
      entries.Perm m.informationFlow ∧
      (entries.Pairwise fun e e' => e'.complexity ≤ e.complexity) ∧
      ∀ n : ℕ, (entries.filter fun e => e.complexity = n) =
        m.informationFlow.filter fun e => e.complexity = n := by
  refine ⟨fun g => ?functions, fun m => ?entries⟩
  case functions =>
    have hranked := g.ranked_byFallingRank
    refine ⟨hranked.perm, hranked.falling.imp FunctionFlow.rank_le_iff.1, fun fanIn fanOut => ?_⟩
    have hstable := hranked.stable (toLex (fanIn, fanOut))
    simpa only [FunctionFlow.rank_eq_iff] using hstable
  case entries =>
    have hentries := Report.byComplexity_byFallingRank m.informationFlow
    exact ⟨Report.byComplexity m.informationFlow, rfl, fun e _ => Report.flowRow_showsEntry e,
      hentries.perm, hentries.falling, hentries.stable⟩

namespace Tied

def function (name : String) (fanIn fanOut : ℕ) : FunctionFlow :=
  { name := name, moduleName := "a", file := "a.js", line := 1, kind := .declaration
    fanIn := fanIn, fanOut := fanOut }

def zip : FunctionFlow := function "zip" 1 2
def alone : FunctionFlow := function "alone" 0 0
def map : FunctionFlow := function "map" 2 1
def zap : FunctionFlow := function "zap" 1 2
def long : FunctionFlow := function "aNameThatIsTooLongForItsColumn" 3 4

/-- Two functions have the same figures, and a third one the same complexity as these. -/
def graph : CallGraph := { functions := [zip, alone, map, zap, long] }

theorem ranked_graph : graph.ranked = [long, map, zip, zap, alone] :=
  graph.ranked_byFallingRank.unique (.of_forall_mem (by decide) (by decide) (by decide))

theorem byComplexity_graph : Report.byComplexity (graph.functions.map FlowEntry.of) =
    [long, zip, map, zap, alone].map FlowEntry.of :=
  (Report.byComplexity_byFallingRank _).unique
    (.of_forall_mem (by decide) (by decide) (by decide))

end Tied

/-- The functions with the same figures keep their order, and so do the three rows of the same
complexity. -/
theorem rankings_keep_ties_tied :
    (Tied.graph.ranked.filter fun f => f.fanIn = 1 ∧ f.fanOut = 2) = [Tied.zip, Tied.zap] ∧
    Tied.graph.ranked = [Tied.long, Tied.map, Tied.zip, Tied.zap, Tied.alone] ∧
    (Report.flowRows (Tied.graph.functions.map FlowEntry.of)).map String.ofList =
      ["Function                     │   In │  Out │      IFC │ Rating",
        "aNameThatIsTooLongForItsC... │    3 │    4 │      144 │ Very High",
        "zip                          │    1 │    2 │        4 │ Low",
        "map                          │    2 │    1 │        4 │ Low",
        "zap                          │    1 │    2 │        4 │ Low",
        "alone                        │    0 │    0 │        0 │ None"] := by
  refine ⟨?_, Tied.ranked_graph, ?_⟩
  · rw [(rankings_keep_ties.1 Tied.graph).2.2 1 2]
    decide
  · rw [Report.flowRows, Tied.byComplexity_graph]
    decide

end CallFlow
