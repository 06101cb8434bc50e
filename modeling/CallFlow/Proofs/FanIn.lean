import Mathlib.Data.Set.Card
import CallFlow.Proofs.CallerTable

/-!
# Fan-in counts distinct callers

Who calls a function is said by `Calls`, from the records alone: another function of a unit that
also holds the function, or another file. `callers_exact` shows that the callers of a function in
the graph are these, each once, for every list of units: paths may repeat, functions may repeat, and
records may name other files than that of their unit.
-/

namespace CallFlow

/-- A unit counts if it is the first one given for its path. -/
def IsKept (units : List SourceUnit) (u : SourceUnit) : Prop :=
  units.find? (·.path == u.path) = some u

/-- What calls the function `callee`. -/
def Calls (units : List SourceUnit) (callee : FunctionKey) : CallerKey → Prop
  | .function caller =>
    caller ≠ callee ∧ ∃ u, IsKept units u ∧ (∃ f ∈ u.functions, f.key = callee) ∧
      ∃ g ∈ u.functions, g.key = caller ∧ callee.name ∈ g.calls
  | .file path =>
    path ≠ callee.file ∧ ∃ u, IsKept units u ∧ ∃ c ∈ u.calls, c.file = path ∧ c.target = callee.name

theorem mem_keptUnits_iff {units : List SourceUnit} {u : SourceUnit} :
    u ∈ keptUnits units ↔ IsKept units u := by
  rw [keptUnits_eq_firstOfEach, mem_firstOfEach_iff, IsKept]

/-! ## Callers by their records -/

theorem mem_unitCallers_iff {f : FunctionRecord} {u : SourceUnit} {r : CallerRef} :
    r ∈ unitCallers f u ↔ (∃ h ∈ u.functions, h.key = f.key) ∧
      ∃ g ∈ u.functions, g.key ≠ f.key ∧ f.name ∈ g.calls ∧ r = (CallerKey.function g.key).ref := by
  rw [unitCallers]
  by_cases hany : u.functions.any (·.key == f.key) = true
  · have hhere : ∃ h ∈ u.functions, h.key = f.key := by simpa using hany
    rw [if_pos hany, List.mem_map]
    constructor
    · rintro ⟨g, hg, rfl⟩
      obtain ⟨hmem, hcond⟩ := List.mem_filter.1 hg
      obtain ⟨hkey, hcalls⟩ := Bool.and_eq_true_iff.1 hcond
      exact ⟨hhere, g, hmem, by simpa using hkey, by simpa using hcalls, rfl⟩
    · rintro ⟨-, g, hmem, hkey, hcalls, rfl⟩
      exact ⟨g, List.mem_filter.2 ⟨hmem, by simp [hkey, hcalls]⟩, rfl⟩
  · have hnot : ¬∃ h ∈ u.functions, h.key = f.key := by simpa using hany
    rw [if_neg hany]
    simp [hnot]

theorem mem_fileCallers_iff {f : FunctionRecord} {u : SourceUnit} {r : CallerRef} :
    r ∈ fileCallers f u ↔
      ∃ c ∈ u.calls, c.file ≠ f.file ∧ c.target = f.name ∧ r = (CallerKey.file c.file).ref := by
  rw [fileCallers, List.mem_map]
  constructor
  · rintro ⟨c, hc, rfl⟩
    obtain ⟨hmem, hcond⟩ := List.mem_filter.1 hc
    obtain ⟨htarget, hfile⟩ := Bool.and_eq_true_iff.1 hcond
    exact ⟨c, hmem, by simpa using hfile, by simpa using htarget, rfl⟩
  · rintro ⟨c, hmem, hfile, htarget, rfl⟩
    exact ⟨c, List.mem_filter.2 ⟨hmem, by simp [hfile, htarget]⟩, rfl⟩

/-- The callers of a function are references to all that calls it. -/
theorem mem_callersOf_iff (units : List SourceUnit) (f : FunctionRecord) (r : CallerRef) :
    r ∈ callersOf (keptUnits units) f ↔ ∃ c, Calls units f.key c ∧ r = c.ref := by
  rw [callersOf, List.mem_eraseDups, List.mem_append, List.mem_flatMap, List.mem_flatMap]
  constructor
  · rintro (⟨u, hu, hr⟩ | ⟨u, hu, hr⟩)
    · obtain ⟨hhere, g, hg, hkey, hcalls, rfl⟩ := mem_unitCallers_iff.1 hr
      exact ⟨.function g.key, ⟨hkey, u, mem_keptUnits_iff.1 hu, hhere, g, hg, rfl, hcalls⟩, rfl⟩
    · obtain ⟨c, hc, hfile, htarget, rfl⟩ := mem_fileCallers_iff.1 hr
      exact ⟨.file c.file, ⟨hfile, u, mem_keptUnits_iff.1 hu, c, hc, rfl, htarget⟩, rfl⟩
  · rintro ⟨caller | path, hcalls, rfl⟩
    · obtain ⟨hne, u, hu, hhere, g, hg, rfl, hcalls⟩ := hcalls
      exact Or.inl ⟨u, mem_keptUnits_iff.2 hu,
        mem_unitCallers_iff.2 ⟨hhere, g, hg, hne, hcalls, rfl⟩⟩
    · obtain ⟨hne, u, hu, c, hc, rfl, htarget⟩ := hcalls
      exact Or.inr ⟨u, mem_keptUnits_iff.2 hu, mem_fileCallers_iff.2 ⟨c, hc, hne, htarget, rfl⟩⟩

/-! ## The count -/

/-- A list without repetition that holds the references to a set of callers is as long as the set is
large. -/
theorem length_eq_ncard {callers : List CallerRef} (hnodup : callers.Nodup) {p : CallerKey → Prop}
    (hmem : ∀ r, r ∈ callers ↔ ∃ c, p c ∧ r = c.ref) : callers.length = {c | p c}.ncard := by
  have himage : CallerKey.ref '' {c | p c} = (callers.toFinset : Set CallerRef) := by
    ext r
    rw [Finset.mem_coe, List.mem_toFinset, hmem, Set.mem_image]
    exact ⟨fun ⟨c, hc, h⟩ => ⟨c, hc, h.symm⟩, fun ⟨c, hc, h⟩ => ⟨c, hc, h.symm⟩⟩
  rw [← Set.ncard_image_of_injective _ CallerKey.ref_injective, himage, Set.ncard_coe_finset,
    List.toFinset_card_of_nodup hnodup]

/-- **Fan-in is the number of distinct callers.** For every list of units the graph is built without
a missing row, and the callers of each of its functions are what calls it, each once. -/
theorem callers_exact (units : List SourceUnit) :
    GraphBuilder.fromUnits units = .ok (CallGraph.ofUnits units) ∧
    ∀ f ∈ (CallGraph.ofUnits units).functions,
      f.callers.Nodup ∧ f.fanIn = f.callers.length ∧
      (∀ r, r ∈ f.callers ↔ ∃ c, Calls units f.key c ∧ r = c.ref) ∧
      f.fanIn = {c | Calls units f.key c}.ncard := by
  refine ⟨GraphBuilder.fromUnits_eq units, fun f hf => ?_⟩
  obtain ⟨g, -, rfl⟩ := List.mem_map.1 hf
  have hnodup : (callersOf (keptUnits units) g).Nodup := nodup_eraseDups _
  have hmem := mem_callersOf_iff units g
  exact ⟨hnodup, rfl, hmem, length_eq_ncard hnodup hmem⟩

/-! ### Repeated units, functions and calls -/

namespace Repeated

def function (name : String) (line : Nat) (calls : List String) : FunctionRecord :=
  { name := name, file := "a.js", moduleName := "a", calls := calls, line := line, endLine := line
    kind := .declaration }

def callFrom (file : String) : CallRecord :=
  { file := file, target := "f", line := 1, kind := .direct }

/-- The function `f` calls itself and is called by `g`, which is there twice; the file `b.js` calls
it twice and holds a call from `a.js`; the last unit comes too late for its path. -/
def units : List SourceUnit :=
  [{ path := "a.js", moduleName := "a"
     functions := [function "f" 1 ["f"], function "g" 2 ["f"], function "g" 2 []] },
    { path := "b.js", moduleName := "b"
      calls := [callFrom "b.js", callFrom "b.js", callFrom "a.js"] },
    { path := "a.js", moduleName := "a", functions := [function "f" 1 [], function "h" 3 ["f"]] }]

end Repeated

theorem callers_exact_repeated :
    ∃ f ∈ (CallGraph.ofUnits Repeated.units).functions, f.name = "f" ∧ f.callers.Nodup ∧
      f.fanIn = 2 ∧ {c | Calls Repeated.units f.key c}.ncard = 2 := by
  have hf : FunctionFlow.of (keptUnits Repeated.units) (Repeated.function "f" 1 ["f"]) ∈
      (CallGraph.ofUnits Repeated.units).functions := by
    decide +kernel
  obtain ⟨hnodup, -, -, hcount⟩ := (callers_exact Repeated.units).2 _ hf
  have htwo : (FunctionFlow.of (keptUnits Repeated.units)
      (Repeated.function "f" 1 ["f"])).fanIn = 2 := by
    decide +kernel
  exact ⟨_, hf, rfl, hnodup, htwo, hcount.symm.trans htwo⟩

end CallFlow
