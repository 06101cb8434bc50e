import Mathlib.Algebra.Order.BigOperators.Group.List
import Mathlib.Algebra.Order.Ring.Int
import Mathlib.Data.List.Forall2
import CallFlow.Proofs.FanIn
import CallFlow.Proofs.FileOrder
import CallFlow.Proofs.Mentions
import CallFlow.Proofs.Related

/-!
# Fewer calls give no larger figures

Every figure counts something that calls give rise to: callers, names of callees, mentions, objects
outside a module, pairs of related functions. So if calls are left out of the records of a project,
and nothing else is changed, no figure can grow.

* `SourceUnit.FewerCalls` — what it means that calls are left out of a unit. The names of a
  function's callees need not keep their order.
* `CallGraph.ofUnits_noLarger` — no function or module has a larger fan-in or fan-out.
* `MetricsReport.of_noLarger` — no complexity, no coupling count and no number of related pairs is
  larger.

Functions, modules and units are compared in the order in which they stand, which is the same on
both sides. Of the coupled pairs some may be gone.
-/

namespace CallFlow

/-! ## Lists in step -/

section InStep

variable {α β : Type} {R : α → β → Prop} {xs : List α} {ys : List β}

theorem exists_right_of_mem (h : List.Forall₂ R xs ys) {x : α} (hx : x ∈ xs) :
    ∃ y ∈ ys, R x y := by
  induction h with
  | nil => exact absurd hx List.not_mem_nil
  | @cons a b as bs hab _ ih =>
    rcases List.mem_cons.1 hx with rfl | hx
    · exact ⟨b, List.mem_cons_self .., hab⟩
    · obtain ⟨y, hy, hxy⟩ := ih hx
      exact ⟨y, List.mem_cons_of_mem _ hy, hxy⟩

variable {p : α → Bool} {q : β → Bool}

theorem countP_le_of_inStep (h : List.Forall₂ R xs ys)
    (hpq : ∀ x y, R x y → p x = true → q y = true) : xs.countP p ≤ ys.countP q := by
  induction h with
  | nil => exact Nat.le_refl _
  | @cons x y _ _ hxy _ ih =>
    by_cases hp : p x = true
    · rw [List.countP_cons_of_pos hp, List.countP_cons_of_pos (hpq x y hxy hp)]
      exact Nat.succ_le_succ ih
    · rw [List.countP_cons_of_neg hp]
      exact ih.trans ((List.sublist_cons_self _ _).countP_le)

/-- What is selected on the left has its counterpart among what is selected on the right. -/
theorem filter_sublistForall₂ (h : List.Forall₂ R xs ys)
    (hpq : ∀ x y, R x y → p x = true → q y = true) :
    List.SublistForall₂ R (xs.filter p) (ys.filter q) := by
  induction h with
  | nil => exact .nil
  | @cons x y _ _ hxy _ ih =>
    by_cases hp : p x = true
    · rw [List.filter_cons_of_pos hp, List.filter_cons_of_pos (hpq x y hxy hp)]
      exact .cons hxy ih
    · rw [List.filter_cons_of_neg hp, List.filter_cons]
      split
      · exact .cons_right ih
      · exact ih

theorem total_le_of_inStep {f : α → Nat} {g : β → Nat} (h : List.Forall₂ R xs ys)
    (hfg : ∀ x y, R x y → f x ≤ g y) : total (xs.map f) ≤ total (ys.map g) := by
  rw [total_eq_sum, total_eq_sum]
  refine List.Forall₂.sum_le_sum ?_
  rw [List.forall₂_map_left_iff, List.forall₂_map_right_iff]
  exact h.imp hfg

theorem pairsOf_inStep (h : List.Forall₂ R xs ys) :
    List.Forall₂ (fun p q => R p.1 q.1 ∧ R p.2 q.2) (pairsOf xs) (pairsOf ys) := by
  induction h with
  | nil => exact .nil
  | @cons x y _ _ hxy htail ih =>
    refine List.rel_append ?_ ih
    rw [List.forall₂_map_left_iff, List.forall₂_map_right_iff]
    exact htail.imp fun a b hab => ⟨hxy, hab⟩

end InStep

section Collecting

variable {α κ : Type} [BEq κ] {R : α → α → Prop} (key : α → κ)

/-- Lists that are in step, with the same keys, are collected in step. -/
theorem foldl_insertNew_inStep (hkey : ∀ x y, R x y → key x = key y) {xs ys : List α}
    (h : List.Forall₂ R xs ys) :
    List.Forall₂ R (xs.foldl (insertNew key) []) (ys.foldl (insertNew key) []) := by
  refine List.rel_foldl ?_ .nil h
  intro kept kept' hkept x y hxy
  have hkeys : kept.map key = kept'.map key := by
    induction hkept with
    | nil => rfl
    | cons hab _ ih => rw [List.map_cons, List.map_cons, hkey _ _ hab, ih]
  have hany : kept.any (key · == key x) = kept'.any (key · == key y) := by
    have := congrArg (List.any · (· == key x)) hkeys
    simpa only [List.any_map, Function.comp_def, hkey x y hxy] using this
  rw [insertNew, insertNew, hany]
  split
  · exact hkept
  · exact List.rel_append hkept (.cons hxy .nil)

end Collecting

theorem length_eraseDups_le {α : Type} [BEq α] [LawfulBEq α] {xs ys : List α} (h : xs ⊆ ys) :
    xs.eraseDups.length ≤ ys.eraseDups.length := by
  refine (List.subperm_of_subset (nodup_eraseDups xs) fun x hx => ?_).length_le
  rw [List.mem_eraseDups] at hx ⊢
  exact h hx

/-! ## Records with fewer calls -/

/-- The function `f` with some of its callees left out. -/
structure FunctionRecord.FewerCalls (f' f : FunctionRecord) : Prop where
  same : { f' with calls := f.calls, directCalls := f.directCalls } = f
  calls : f'.calls.Subperm f.calls
  directCalls : f'.directCalls.Sublist f.directCalls

/-- The unit `u` with some of its calls left out. -/
structure SourceUnit.FewerCalls (u' u : SourceUnit) : Prop where
  path : u'.path = u.path
  moduleName : u'.moduleName = u.moduleName
  functions : List.Forall₂ FunctionRecord.FewerCalls u'.functions u.functions
  calls : u'.calls.Sublist u.calls

namespace FunctionRecord.FewerCalls

variable {f' f : FunctionRecord}

theorem name (h : f'.FewerCalls f) : f'.name = f.name := by rw [← h.same]

theorem file (h : f'.FewerCalls f) : f'.file = f.file := by rw [← h.same]

theorem key (h : f'.FewerCalls f) : f'.key = f.key := by
  rw [← h.same]
  rfl

theorem parameters (h : f'.FewerCalls f) : f'.parameters = f.parameters := by rw [← h.same]

end FunctionRecord.FewerCalls

namespace SourceUnit.FewerCalls

variable {u' u : SourceUnit}

theorem map_name (h : u'.FewerCalls u) : u'.functions.map (·.name) = u.functions.map (·.name) := by
  rw [← List.forall₂_eq_eq_eq, List.forall₂_map_left_iff, List.forall₂_map_right_iff]
  exact h.functions.imp fun _ _ hf => hf.name

theorem definesName (h : u'.FewerCalls u) : u'.definesName = u.definesName := by
  funext name
  have hany := congrArg (List.any · (· == name)) h.map_name
  simp only [List.any_map, Function.comp_def] at hany
  exact hany

theorem mentionCount (h : u'.FewerCalls u) (target : String) :
    u'.mentionCount target = u.mentionCount target := by
  have hcount := congrArg (List.countP (Target.mentions target)) h.map_name
  simp only [List.countP_map, Function.comp_def] at hcount
  exact hcount

end SourceUnit.FewerCalls

/-! ## Functions -/

/-- The same function, with figures that are no larger. -/
structure FunctionFlow.NoLarger (f' f : FunctionFlow) : Prop where
  key : f'.key = f.key
  fanIn : f'.fanIn ≤ f.fanIn
  fanOut : f'.fanOut ≤ f.fanOut

section Functions

variable {u' u : SourceUnit} {units' units : List SourceUnit} {f' f : FunctionRecord}

theorem unitCallers_subset (hf : f'.FewerCalls f) (hu : u'.FewerCalls u) :
    unitCallers f' u' ⊆ unitCallers f u := by
  intro r hr
  obtain ⟨⟨h', hh', hhere⟩, g', hg', hne, hcalls, rfl⟩ := mem_unitCallers_iff.1 hr
  obtain ⟨h, hh, hfewer⟩ := exists_right_of_mem hu.functions hh'
  obtain ⟨g, hg, hgfewer⟩ := exists_right_of_mem hu.functions hg'
  rw [hfewer.key, hf.key] at hhere
  rw [hgfewer.key, hf.key] at hne
  rw [hf.name] at hcalls
  refine mem_unitCallers_iff.2 ⟨⟨h, hh, hhere⟩, g, hg, hne, hgfewer.calls.subset hcalls, ?_⟩
  rw [hgfewer.key]

theorem fileCallers_subset (hf : f'.FewerCalls f) (hu : u'.FewerCalls u) :
    fileCallers f' u' ⊆ fileCallers f u := by
  intro r hr
  obtain ⟨c, hc, hfile, htarget, rfl⟩ := mem_fileCallers_iff.1 hr
  rw [hf.file] at hfile
  rw [hf.name] at htarget
  exact mem_fileCallers_iff.2 ⟨c, hu.calls.subset hc, hfile, htarget, rfl⟩

theorem callersOf_length_le (hf : f'.FewerCalls f)
    (hunits : List.Forall₂ SourceUnit.FewerCalls units' units) :
    (callersOf units' f').length ≤ (callersOf units f).length := by
  refine length_eraseDups_le fun r hr => ?_
  rw [List.mem_append, List.mem_flatMap, List.mem_flatMap] at hr ⊢
  rcases hr with ⟨u', hu', hr⟩ | ⟨u', hu', hr⟩
  · obtain ⟨u, hu, hfewer⟩ := exists_right_of_mem hunits hu'
    exact Or.inl ⟨u, hu, unitCallers_subset hf hfewer hr⟩
  · obtain ⟨u, hu, hfewer⟩ := exists_right_of_mem hunits hu'
    exact Or.inr ⟨u, hu, fileCallers_subset hf hfewer hr⟩

theorem FunctionFlow.of_noLarger (hf : f'.FewerCalls f)
    (hunits : List.Forall₂ SourceUnit.FewerCalls units' units) :
    (FunctionFlow.of units' f').NoLarger (FunctionFlow.of units f) where
  key := hf.key
  fanIn := callersOf_length_le hf hunits
  fanOut := hf.directCalls.length_le

end Functions

/-! ## Modules -/

/-- The same module, with figures that are no larger. -/
structure ModuleFlow.NoLarger (m' m : ModuleFlow) : Prop where
  path : m'.path = m.path
  fanIn : m'.fanIn ≤ m.fanIn
  fanOut : m'.fanOut ≤ m.fanOut

section Modules

variable {u' u : SourceUnit} {units' units : List SourceUnit}

theorem externalTargets_length_le (h : u'.FewerCalls u) :
    u'.externalTargets.length ≤ u.externalTargets.length := by
  have howns : u'.owns = u.owns := by
    funext target
    rw [SourceUnit.owns, SourceUnit.owns, h.definesName]
  rw [SourceUnit.externalTargets, SourceUnit.externalTargets, howns]
  exact length_eraseDups_le ((h.calls.filter _).map _).subset

theorem internalPairs_length_le (h : u'.FewerCalls u) :
    u'.internalPairs.length ≤ u.internalPairs.length := by
  refine length_eraseDups_le fun names hnames => ?_
  obtain ⟨caller', hcaller', hnames⟩ := List.mem_flatMap.1 hnames
  obtain ⟨callee', hcallee', rfl⟩ := List.mem_map.1 hnames
  obtain ⟨hmem, hcond⟩ := List.mem_filter.1 hcallee'
  obtain ⟨hne, hcalls⟩ := Bool.and_eq_true_iff.1 hcond
  obtain ⟨target, htarget, hmentions⟩ := List.any_eq_true.1 hcalls
  obtain ⟨caller, hcaller, hfewer⟩ := exists_right_of_mem h.functions hcaller'
  obtain ⟨callee, hcallee, hfewer'⟩ := exists_right_of_mem h.functions hmem
  rw [hfewer.key, hfewer'.key] at hne
  rw [hfewer'.name] at hmentions
  rw [hfewer.name, hfewer'.name]
  refine List.mem_flatMap.2 ⟨caller, hcaller, List.mem_map.2 ⟨callee, List.mem_filter.2 ?_, rfl⟩⟩
  refine ⟨hcallee, Bool.and_eq_true_iff.2 ⟨hne, ?_⟩⟩
  exact List.any_eq_true.2 ⟨target, hfewer.calls.subset htarget, hmentions⟩

theorem incomingMentions_le (h : u'.FewerCalls u)
    (hunits : List.Forall₂ SourceUnit.FewerCalls units' units) :
    incomingMentions units' u' ≤ incomingMentions units u := by
  have hothers : List.Forall₂ SourceUnit.FewerCalls (units'.filter (·.path != u'.path))
      (units.filter (·.path != u.path)) := by
    refine List.rel_filter ?_ hunits
    intro v' v hv
    simp only [hv.path, h.path]
  refine total_le_of_inStep hothers fun v' v hv => ?_
  have hmentions : (v'.calls.map fun c => u'.mentionCount c.target).Sublist
      (v.calls.map fun c => u.mentionCount c.target) := by
    simp only [h.mentionCount]
    exact hv.calls.map _
  rw [total_eq_sum, total_eq_sum]
  exact hmentions.sum_le_sum fun _ _ => Nat.zero_le _

theorem ModuleFlow.of_noLarger (h : u'.FewerCalls u)
    (hunits : List.Forall₂ SourceUnit.FewerCalls units' units) :
    (ModuleFlow.of units' u').NoLarger (ModuleFlow.of units u) where
  path := h.path
  fanIn := Nat.add_le_add (incomingMentions_le h hunits) (internalPairs_length_le h)
  fanOut := externalTargets_length_le h

end Modules

/-! ## The graph -/

/-- The same functions and modules, with figures that are no larger. -/
structure CallGraph.NoLarger (g' g : CallGraph) : Prop where
  functions : List.Forall₂ FunctionFlow.NoLarger g'.functions g.functions
  modules : List.Forall₂ ModuleFlow.NoLarger g'.modules g.modules

section Graph

variable {units' units : List SourceUnit}

theorem keptUnits_fewerCalls (h : List.Forall₂ SourceUnit.FewerCalls units' units) :
    List.Forall₂ SourceUnit.FewerCalls (keptUnits units') (keptUnits units) :=
  foldl_insertNew_inStep SourceUnit.path (fun _ _ hu => hu.path) h

theorem distinctFunctions_fewerCalls (h : List.Forall₂ SourceUnit.FewerCalls units' units) :
    List.Forall₂ FunctionRecord.FewerCalls (distinctFunctions units')
      (distinctFunctions units) := by
  refine foldl_insertNew_inStep FunctionRecord.key (fun _ _ hf => hf.key) ?_
  exact List.rel_flatMap h fun _ _ hu => hu.functions

/-- Fewer calls give no larger figures of functions and modules. -/
theorem CallGraph.ofUnits_noLarger (h : List.Forall₂ SourceUnit.FewerCalls units' units) :
    (CallGraph.ofUnits units').NoLarger (CallGraph.ofUnits units) := by
  have hkept := keptUnits_fewerCalls h
  constructor
  · refine List.rel_map ?_ (distinctFunctions_fewerCalls hkept)
    exact fun _ _ hf => FunctionFlow.of_noLarger hf hkept
  · refine List.rel_map ?_ hkept
    exact fun _ _ hu => ModuleFlow.of_noLarger hu hkept

end Graph

/-! ## Complexity -/

theorem flowComplexity_nonneg (fanIn fanOut : Int) : 0 ≤ flowComplexity fanIn fanOut := by
  unfold flowComplexity
  split
  · exact mul_self_nonneg _
  · exact Int.le_refl _

theorem flowComplexity_mono {fanIn' fanIn fanOut' fanOut : Int} (hin : fanIn' ≤ fanIn)
    (hout : fanOut' ≤ fanOut) : flowComplexity fanIn' fanOut' ≤ flowComplexity fanIn fanOut := by
  by_cases hpos : 0 < fanIn' ∧ 0 < fanOut'
  · have hpos' : 0 < fanIn ∧ 0 < fanOut := by omega
    have hproduct : fanIn' * fanOut' ≤ fanIn * fanOut :=
      Int.mul_le_mul hin hout hpos.2.le hpos'.1.le
    have hnonneg : 0 ≤ fanIn' * fanOut' := Int.mul_nonneg hpos.1.le hpos.2.le
    rw [flowComplexity, flowComplexity, if_pos hpos, if_pos hpos']
    exact Int.mul_le_mul hproduct hproduct hnonneg (hnonneg.trans hproduct)
  · rw [flowComplexity, if_neg hpos]
    exact flowComplexity_nonneg fanIn fanOut

/-- The same function, with a complexity that is no larger. -/
structure FlowEntry.NoLarger (e' e : FlowEntry) : Prop where
  key : e'.key = e.key
  complexity : e'.complexity ≤ e.complexity

theorem FlowEntry.of_noLarger {f' f : FunctionFlow} (h : f'.NoLarger f) :
    (FlowEntry.of f').NoLarger (FlowEntry.of f) where
  key := h.key
  complexity := Int.toNat_le_toNat
    (flowComplexity_mono (Int.ofNat_le.2 h.fanIn) (Int.ofNat_le.2 h.fanOut))

/-! ## Coupling -/

/-- The same two parts, with no more calls between them. -/
structure CouplingPair.NoLarger (p' p : CouplingPair) : Prop where
  first : p'.first = p.first
  second : p'.second = p.second
  calls : p'.calls ≤ p.calls

section Coupling

variable {u' u : SourceUnit} {units' units : List SourceUnit}

/-- The same two parts, with no larger count. -/
def CountNoLarger (n' n : String × String × Nat) : Prop :=
  n'.1 = n.1 ∧ n'.2.1 = n.2.1 ∧ n'.2.2 ≤ n.2.2

theorem groupCalls_le (h : u'.FewerCalls u) (first second : List String) :
    groupCalls u' first second ≤ groupCalls u first second := by
  have hcallers : List.Forall₂ FunctionRecord.FewerCalls
      (u'.functions.filter (holdsAny first ·.name))
      (u.functions.filter (holdsAny first ·.name)) := by
    refine List.rel_filter ?_ h.functions
    intro f' f hf
    simp only [hf.name]
  exact total_le_of_inStep hcallers fun f' f hf => hf.calls.countP_le _

theorem callsInto_le (h : u'.FewerCalls u) (moduleName : String) :
    callsInto u' moduleName ≤ callsInto u moduleName :=
  h.calls.countP_le

theorem moduleCounts_noLarger (h : List.Forall₂ SourceUnit.FewerCalls units' units) :
    List.Forall₂ CountNoLarger (moduleCounts units') (moduleCounts units) := by
  refine List.rel_flatMap h fun u' u hu => ?_
  have hlater : List.Forall₂ SourceUnit.FewerCalls (units'.filter (decide <| u'.path < ·.path))
      (units.filter (decide <| u.path < ·.path)) := by
    refine List.rel_filter ?_ h
    intro v' v hv
    simp only [hu.path, hv.path]
  refine List.rel_map ?_ hlater
  intro v' v hv
  refine ⟨hu.moduleName, hv.moduleName, ?_⟩
  simp only [hu.moduleName, hv.moduleName]
  exact Nat.add_le_add (callsInto_le hu _) (callsInto_le hv _)

theorem couplingCounts_noLarger (c : AnalysisConfig)
    (h : List.Forall₂ SourceUnit.FewerCalls units' units) :
    (couplingCounts c units').1 = (couplingCounts c units).1 ∧
      List.Forall₂ CountNoLarger (couplingCounts c units').2 (couplingCounts c units).2 := by
  -- the parts are groups just when there is one unit
  match h with
  | .nil => exact ⟨rfl, moduleCounts_noLarger .nil⟩
  | .cons hu .nil =>
    refine ⟨rfl, ?_⟩
    rw [couplingCounts, couplingCounts, groupCounts, groupCounts, List.forall₂_map_left_iff,
      List.forall₂_map_right_iff, List.forall₂_same]
    exact fun ⟨a, b⟩ _ => ⟨rfl, rfl, groupCalls_le hu a.2 b.2⟩
  | .cons hu (.cons hv hrest) => exact ⟨rfl, moduleCounts_noLarger (.cons hu (.cons hv hrest))⟩

theorem CouplingReport.of_noLarger (c : AnalysisConfig)
    (h : List.Forall₂ SourceUnit.FewerCalls units' units) :
    (CouplingReport.of c units').byGroup = (CouplingReport.of c units).byGroup ∧
      List.SublistForall₂ CouplingPair.NoLarger (CouplingReport.of c units').pairs
        (CouplingReport.of c units).pairs := by
  obtain ⟨hgroup, hcounts⟩ := couplingCounts_noLarger c h
  refine ⟨hgroup, ?_⟩
  have hcounted : List.SublistForall₂ CountNoLarger
      ((couplingCounts c units').2.filter (0 < ·.2.2))
      ((couplingCounts c units).2.filter (0 < ·.2.2)) := by
    refine filter_sublistForall₂ hcounts fun n' n hn hpos => ?_
    simp only [decide_eq_true_eq] at hpos ⊢
    exact Nat.lt_of_lt_of_le hpos hn.2.2
  simp only [CouplingReport.of]
  rw [List.sublistForall₂_map_left_iff, List.sublistForall₂_map_right_iff]
  obtain ⟨counts, hstep, hsub⟩ := List.sublistForall₂_iff.1 hcounted
  refine List.sublistForall₂_iff.2 ⟨counts, hstep.imp ?_, hsub⟩
  rintro n' n ⟨hfirst, hsecond, hcalls⟩
  exact ⟨hfirst, hsecond, hcalls⟩

end Coupling

/-! ## Cohesion -/

/-- The same module with as many pairs, of which no more are related. -/
structure CohesionScore.NoLarger (s' s : CohesionScore) : Prop where
  path : s'.path = s.path
  totalPairs : s'.totalPairs = s.totalPairs
  relatedPairs : s'.relatedPairs ≤ s.relatedPairs

section Cohesion

variable {f' f g' g : FunctionRecord} {u' u : SourceUnit}

/-- The figures of a module's pairs, also where there are none. -/
theorem CohesionScore.pairs_of (c : AnalysisConfig) (u : SourceUnit) :
    (CohesionScore.of c u).relatedPairs = relatedCount c.keywords u.functions ∧
      (CohesionScore.of c u).totalPairs = (pairsOf u.functions).length := by
  unfold CohesionScore.of
  split
  · rename_i hnone
    rw [hnone]
    exact ⟨rfl, rfl⟩
  · rename_i hone
    rw [hone]
    exact ⟨rfl, rfl⟩
  · exact ⟨rfl, rfl⟩

theorem FunctionRecord.FewerCalls.moreEvidence (h : f'.FewerCalls f) : f'.MoreEvidence f where
  name := h.name.symm
  calls := h.calls.subset
  parameters := by
    rw [h.parameters]
    exact List.Subset.refl _

/-- Functions that are related with fewer calls are related. -/
theorem related_of_fewerCalls (keywords : List String) (hf : f'.FewerCalls f)
    (hg : g'.FewerCalls g) (h : related keywords f' g' = true) : related keywords f g = true :=
  related_iff.2 ((related_iff.1 h).mono (List.Subset.refl _) hf.moreEvidence hg.moreEvidence)

theorem CohesionScore.of_noLarger (c : AnalysisConfig) (h : u'.FewerCalls u) :
    (CohesionScore.of c u').NoLarger (CohesionScore.of c u) := by
  have hpairs := pairsOf_inStep h.functions
  constructor
  · rw [CohesionScore.path_of, CohesionScore.path_of, h.path]
  · rw [(CohesionScore.pairs_of c u').2, (CohesionScore.pairs_of c u).2]
    exact hpairs.length_eq
  · rw [(CohesionScore.pairs_of c u').1, (CohesionScore.pairs_of c u).1]
    exact countP_le_of_inStep hpairs fun _ _ hp => related_of_fewerCalls c.keywords hp.1 hp.2

end Cohesion

/-! ## The report -/

/-- No complexity, coupling count or number of related pairs is larger. -/
structure MetricsReport.NoLarger (r' r : MetricsReport) : Prop where
  informationFlow : List.Forall₂ FlowEntry.NoLarger r'.informationFlow r.informationFlow
  byGroup : r'.coupling.byGroup = r.coupling.byGroup
  coupling : List.SublistForall₂ CouplingPair.NoLarger r'.coupling.pairs r.coupling.pairs
  cohesion : List.Forall₂ CohesionScore.NoLarger r'.cohesion r.cohesion

/-- Fewer calls give no larger metrics. -/
theorem MetricsReport.of_noLarger (c : AnalysisConfig) {units' units : List SourceUnit}
    (h : List.Forall₂ SourceUnit.FewerCalls units' units) :
    (MetricsReport.of c (CallGraph.ofUnits units')).NoLarger
      (MetricsReport.of c (CallGraph.ofUnits units)) := by
  have hkept := keptUnits_fewerCalls h
  obtain ⟨hgroup, hpairs⟩ := CouplingReport.of_noLarger c hkept
  refine ⟨?_, hgroup, hpairs, ?_⟩
  · refine List.rel_map ?_ (CallGraph.ofUnits_noLarger h).functions
    exact fun _ _ hf => FlowEntry.of_noLarger hf
  · refine List.rel_map ?_ hkept
    exact fun _ _ hu => CohesionScore.of_noLarger c hu

end CallFlow
