import Mathlib.Data.Sym.Sym2
import CallFlow.Metrics.Report
import CallFlow.Proofs.FileOrder
import CallFlow.Proofs.Mentions

/-!
# Calls between modules are counted once

Coupling is counted for units taken in pairs, the one with the smaller path first, and the calls in
both directions are added up. So a call counts once for each other unit whose module name its target
contains:

* `pairs_of_modules` — the entries of a report belong to the pairs of units with calls between them;
* `nodup_sym2_orderedPairs` — two units make one pair, in whatever order they stand;
* `sum_callsBetween` — the counts of all pairs add up to the incidences of a call with the module of
  another unit.

Module names need not differ. Two units of one name are told apart by their paths, and a call whose
target contains the name counts for both.
-/

namespace CallFlow

/-! ## Pairs of units -/

/-- Number of calls of a unit whose targets contain another's module name. -/
def callsFrom (u v : SourceUnit) : Nat :=
  u.calls.countP (v.moduleName.toList <:+: ·.target.toList)

/-- Number of calls between two units, in both directions. -/
def callsBetween (u v : SourceUnit) : Nat :=
  callsFrom u v + callsFrom v u

/-- The entry of a report for two units. -/
def CouplingPair.between (c : AnalysisConfig) (u v : SourceUnit) : CouplingPair :=
  { first := u.moduleName, second := v.moduleName, calls := callsBetween u v
    kind := CouplingKind.of c (callsBetween u v) }

/-- The pairs of units, the one with the smaller path first. -/
def orderedPairs (units : List SourceUnit) : List (SourceUnit × SourceUnit) :=
  (units ×ˢ units).filter fun p => p.1.path < p.2.path

theorem callsInto_eq_callsFrom (u v : SourceUnit) : callsInto u v.moduleName = callsFrom u v := by
  refine List.countP_congr fun call _ => ?_
  simp [Text.contains, Text.occursIn_iff]

theorem CouplingKind.of_eq_tight_iff {c : AnalysisConfig} {calls : Nat} :
    CouplingKind.of c calls = .tight ↔ c.tightThreshold < calls := by
  unfold CouplingKind.of
  split <;> simp_all

section Pairs

variable {units : List SourceUnit}

theorem mem_orderedPairs_iff {u v : SourceUnit} :
    (u, v) ∈ orderedPairs units ↔ u ∈ units ∧ v ∈ units ∧ u.path < v.path := by
  simp [orderedPairs, and_assoc]

/-- What is counted for modules is counted for the pairs of units. -/
theorem moduleCounts_eq (units : List SourceUnit) :
    moduleCounts units =
      (orderedPairs units).map fun p => (p.1.moduleName, p.2.moduleName, callsBetween p.1 p.2) := by
  rw [orderedPairs, map_filter_product]
  simp only [moduleCounts, callsInto_eq_callsFrom, callsBetween]

/-- The pairs of units with calls between them. -/
def coupledPairs (units : List SourceUnit) : List (SourceUnit × SourceUnit) :=
  (orderedPairs units).filter fun p => 0 < callsBetween p.1 p.2

theorem mem_coupledPairs_iff {u v : SourceUnit} :
    (u, v) ∈ coupledPairs units ↔
      u ∈ units ∧ v ∈ units ∧ u.path < v.path ∧ 0 < callsBetween u v := by
  simp [coupledPairs, mem_orderedPairs_iff, and_assoc]

/-- The entries are those of the pairs of units with calls between them. -/
theorem pairs_of_modules (c : AnalysisConfig) (hmany : units.length ≠ 1) :
    (CouplingReport.of c units).byGroup = false ∧
      (CouplingReport.of c units).pairs =
        (coupledPairs units).map fun p => CouplingPair.between c p.1 p.2 := by
  have hparts : couplingCounts c units = (false, moduleCounts units) := by
    refine couplingCounts_of_ne_singleton c fun u hu => hmany ?_
    rw [hu, List.length_singleton]
  simp only [CouplingReport.of, hparts, moduleCounts_eq, List.filter_map, List.map_map, true_and]
  rfl

/-- Two units make one pair, in whatever order they stand. -/
theorem nodup_sym2_orderedPairs (hpaths : (units.map (·.path)).Nodup) :
    ((orderedPairs units).map fun p => s(p.1.path, p.2.path)).Nodup := by
  have hunits : units.Nodup := List.Nodup.of_map _ hpaths
  refine List.Nodup.map_on ?_ ((hunits.product hunits).filter _)
  rintro ⟨u, v⟩ hp ⟨u', v'⟩ hp' hsame
  obtain ⟨hu, hv, hlt⟩ := mem_orderedPairs_iff.1 hp
  obtain ⟨hu', hv', hlt'⟩ := mem_orderedPairs_iff.1 hp'
  have hunit {a b : SourceUnit} (ha : a ∈ units) (hb : b ∈ units) (hab : a.path = b.path) : a = b :=
    List.inj_on_of_nodup_map hpaths ha hb hab
  rcases Sym2.eq_iff.1 hsame with ⟨hfirst, hsecond⟩ | ⟨hfirst, hsecond⟩
  · rw [hunit hu hu' hfirst, hunit hv hv' hsecond]
  · -- taken the other way round, the smaller path would be the greater one
    simp only at hfirst hsecond
    rw [hfirst, hsecond] at hlt
    exact absurd hlt' (String.lt_asymm hlt)

end Pairs

/-! ## Calls and modules -/

/-- The calls of all units, each with its unit. -/
def allCalls (units : List SourceUnit) : List (SourceUnit × CallRecord) :=
  units.flatMap fun u => u.calls.map (u, ·)

/-- The call of one unit has a target that contains the module name of another. -/
def IsIncidence (call : SourceUnit × CallRecord) (v : SourceUnit) : Prop :=
  v.path ≠ call.1.path ∧ v.moduleName.toList <:+: call.2.target.toList

instance (call : SourceUnit × CallRecord) (v : SourceUnit) : Decidable (IsIncidence call v) :=
  inferInstanceAs (Decidable (_ ∧ _))

/-- The incidences of a call with the module of another unit. -/
def incidences (units : List SourceUnit) : List ((SourceUnit × CallRecord) × SourceUnit) :=
  (allCalls units ×ˢ units).filter fun i => IsIncidence i.1 i.2

section Incidences

variable (units : List SourceUnit)

/-- Incidences counted by the units of module and call. -/
theorem length_incidences :
    (incidences units).length = (units.map fun v => (units.map fun u =>
      if v.path ≠ u.path then callsFrom u v else 0).sum).sum := by
  have hcell (u v : SourceUnit) : u.calls.countP (fun call => IsIncidence (u, call) v) =
      if v.path ≠ u.path then callsFrom u v else 0 := by
    by_cases hpath : v.path = u.path <;> simp [IsIncidence, callsFrom, hpath]
  rw [incidences, ← List.countP_eq_length_filter, countP_product,
    sum_countP_comm fun call v => decide (IsIncidence call v)]
  simp only [allCalls, List.countP_flatMap, List.countP_map, Function.comp_def, hcell]

/-- The counts of the pairs add up to the incidences. -/
theorem sum_callsBetween :
    ((orderedPairs units).map fun p => callsBetween p.1 p.2).sum = (incidences units).length := by
  -- the calls into `v` from a unit with a smaller path, and from one with a greater path
  let below (v u : SourceUnit) : Nat := if u.path < v.path then callsFrom u v else 0
  let above (v u : SourceUnit) : Nat := if v.path < u.path then callsFrom u v else 0
  have hboth (u v : SourceUnit) :
      (if u.path < v.path then callsBetween u v else 0) = below v u + above u v := by
    by_cases hlt : u.path < v.path
    · simp only [below, above, if_pos hlt, callsBetween]
    · simp only [below, above, if_neg hlt]
  have hother (v u : SourceUnit) :
      below v u + above v u = if v.path ≠ u.path then callsFrom u v else 0 := by
    rcases Std.lt_trichotomy u.path v.path with hlt | heq | hgt
    · simp only [below, above, if_pos hlt, if_neg (String.lt_asymm hlt),
        if_pos (Std.ne_of_lt hlt).symm, Nat.add_zero]
    · simp only [below, above, heq, if_neg (String.lt_irrefl v.path), if_neg (not_not_intro rfl)]
    · simp only [below, above, if_pos hgt, if_neg (String.lt_asymm hgt),
        if_pos (Std.ne_of_lt hgt), Nat.zero_add]
  calc ((orderedPairs units).map fun p => callsBetween p.1 p.2).sum
      = (units.map fun u => (units.map fun v =>
          if u.path < v.path then callsBetween u v else 0).sum).sum := by
        rw [orderedPairs, sum_map_filter, sum_map_product]
        simp only [decide_eq_true_eq]
    _ = (units.map fun u => (units.map fun v => below v u).sum).sum +
          (units.map fun u => (units.map fun v => above u v).sum).sum := by
        simp only [hboth, List.sum_map_add]
    _ = (units.map fun v => (units.map fun u => below v u).sum).sum +
          (units.map fun v => (units.map fun u => above v u).sum).sum := by
        rw [sum_map_sum_comm fun u v => below v u]
    _ = (incidences units).length := by
        simp only [length_incidences, ← hother, List.sum_map_add]

/-- Pairs without calls add nothing. -/
theorem sum_coupledPairs :
    ((coupledPairs units).map fun p => callsBetween p.1 p.2).sum = (incidences units).length := by
  have hzero (n : Nat) : (if 0 < n then n else 0) = n := by
    split <;> omega
  rw [coupledPairs, sum_map_filter]
  simp only [decide_eq_true_eq, hzero, sum_callsBetween]

end Incidences

/-! ## The report -/

/-- A report on the coupling of modules that has each call once for each other module it leads
to. -/
structure CouplingReport.CountsOnce (r : CouplingReport) (c : AnalysisConfig)
    (units : List SourceUnit) : Prop where
  byModule : r.byGroup = false
  /-- No call is lost, and none is counted twice. -/
  total : (r.pairs.map (·.calls)).sum = (incidences units).length
  /-- Two units have one entry if there are calls between them, and none otherwise. -/
  entries : ∃ ps : List (SourceUnit × SourceUnit),
    r.pairs = ps.map (fun p => CouplingPair.between c p.1 p.2) ∧
      (ps.map fun p => s(p.1.path, p.2.path)).Nodup ∧
      ∀ u v, (u, v) ∈ ps ↔ u ∈ units ∧ v ∈ units ∧ u.path < v.path ∧ 0 < callsBetween u v
  kinds : ∀ p ∈ r.pairs, p.kind = .tight ↔ c.tightThreshold < p.calls
  tight : r.tight = r.pairs.countP (·.kind = .tight)
  counts : r.tight + r.loose = r.pairs.length

/-- **Coupling counts every call between modules once.** In a graph of any number of units but one,
with distinct paths, the counts of the reported pairs add up to the incidences of a call with the
module of another unit, and every two units have one entry just if there are calls between them. -/
theorem coupling_countsOnce (c : AnalysisConfig) (g : CallGraph) (hmany : g.units.length ≠ 1)
    (hpaths : (g.units.map (·.path)).Nodup) :
    (MetricsReport.of c g).coupling.CountsOnce c g.units := by
  change (CouplingReport.of c g.units).CountsOnce c g.units
  obtain ⟨hmodules, hpairs⟩ := pairs_of_modules c hmany
  refine { byModule := hmodules, total := ?total, entries := ?entries, kinds := ?kinds,
           tight := ?tight, counts := ?counts }
  case total =>
    rw [hpairs, List.map_map]
    exact sum_coupledPairs g.units
  case entries =>
    refine ⟨_, hpairs, ?_, fun u v => mem_coupledPairs_iff⟩
    exact (nodup_sym2_orderedPairs hpaths).sublist (List.filter_sublist.map _)
  case kinds =>
    intro p hp
    rw [hpairs] at hp
    obtain ⟨⟨u, v⟩, -, rfl⟩ := List.mem_map.1 hp
    exact CouplingKind.of_eq_tight_iff
  case tight =>
    exact List.countP_congr fun p _ => by simp
  case counts =>
    exact Nat.add_sub_cancel' List.countP_le_length

/-! ### Two modules of one name -/

namespace TwoDirectories

def call (file target : String) : CallRecord :=
  { file := file, target := target, line := 1, kind := .member }

/-- Two modules of the name `util`, and one that calls into both. -/
def units : List SourceUnit :=
  [{ path := "b/util.js", moduleName := "util", calls := [call "b/util.js" "main.start"] },
    { path := "main.js", moduleName := "main"
      calls := [call "main.js" "util.load", call "main.js" "util.main", call "main.js" "log"] },
    { path := "a/util.js", moduleName := "util", calls := [call "a/util.js" "utils"] }]

end TwoDirectories

/-- The calls of `main` into `util` count for both modules of that name, and the third call between
two modules makes their coupling tight. -/
theorem coupling_countsOnce_twoDirectories :
    let g := CallGraph.of TwoDirectories.units
    let report := (MetricsReport.of { tightThreshold := 2 } g).coupling
    g.units.length = 3 ∧ (g.units.map (·.path)).Nodup ∧
      report.pairs.map (fun p => (p.first, p.second, p.calls, p.kind)) =
        [("util", "main", 3, .tight), ("util", "util", 1, .loose), ("util", "main", 2, .loose)] ∧
      (incidences g.units).length = 6 ∧
      report.CountsOnce { tightThreshold := 2 } g.units := by
  intro g report
  have hpaths : (g.units.map (·.path)).Nodup := by decide
  have honce := coupling_countsOnce { tightThreshold := 2 } g (by decide) hpaths
  have hentries : report.pairs.map (fun p => (p.first, p.second, p.calls, p.kind)) =
      [("util", "main", 3, .tight), ("util", "util", 1, .loose), ("util", "main", 2, .loose)] := by
    decide +kernel
  refine ⟨rfl, hpaths, hentries, ?_, honce⟩
  decide +kernel

end CallFlow
