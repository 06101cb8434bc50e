import Mathlib.Data.List.Forall2
import Mathlib.Data.List.TakeWhile
import CallFlow.Proofs.CallerTable
import CallFlow.Proofs.Splitting

/-!
# Calls that leave their module

A call stays in its module if its target, or a text between two dots of it, is the name of a
function there, and else it leads out. Which of the two is told from all parts of the target, while
an outside object is recorded by the text before the first dot alone, so the two cuts have to
agree.

* `Target.StartsFrom`, `Target.HasPart` — the text before the first dot and the texts between dots,
  said of the target as a whole;
* `Target.StartsFrom.hasPart` — the first of these texts is one of them, whatever the target;
* `SourceUnit.pairwise_externalTargets` — objects are recorded in the order of their first calls;
* `modules_tell_calls_apart` — so the modules of every graph tell the two kinds of calls apart.
-/

namespace CallFlow

/-! ## The parts of a target -/

namespace Target

/-- Is `b` the text of the target before its first dot? -/
def StartsFrom (target b : String) : Prop :=
  '.' ∉ b.toList ∧ (target = b ∨ ∃ rest, target = b ++ "." ++ rest)

/-- Is `part` one of the texts of which the target consists, with dots between them and none in
them? -/
def HasPart (target part : String) : Prop :=
  ∃ parts : List String, (∀ p ∈ parts, '.' ∉ p.toList) ∧ ".".intercalate parts = target ∧
    part ∈ parts

theorem dot_not_mem_of_mem_parts {target part : String} (h : part ∈ parts target) :
    '.' ∉ part.toList := by
  obtain ⟨p, hp, rfl⟩ := List.mem_map.1 h
  rw [String.toList_ofList]
  exact Text.not_mem_of_mem_splitAt hp

theorem intercalate_parts (target : String) : ".".intercalate (parts target) = target := by
  apply String.toList_inj.1
  rw [String.toList_intercalate, parts, List.map_map, String.toList_comp_ofList, List.map_id]
  exact Text.intercalate_splitAt '.' target.toList

theorem parts_intercalate {ps : List String} (h : ∀ p ∈ ps, '.' ∉ p.toList) (hne : ps ≠ []) :
    parts (".".intercalate ps) = ps := by
  have hsplit : Text.splitAt '.' (".".intercalate ps).toList = ps.map String.toList := by
    rw [String.toList_intercalate]
    apply Text.splitAt_intercalate
    · simpa using h
    · simpa using hne
  rw [parts, hsplit, List.map_map, String.ofList_comp_toList, List.map_id]

theorem mem_parts_iff {target part : String} : part ∈ parts target ↔ HasPart target part := by
  constructor
  · intro h
    exact ⟨parts target, fun p hp => dot_not_mem_of_mem_parts hp, intercalate_parts target, h⟩
  · rintro ⟨ps, hdots, rfl, hpart⟩
    rwa [parts_intercalate hdots (List.ne_nil_of_mem hpart)]

theorem startsFrom_base (target : String) : StartsFrom target (base target) := by
  have hsplit : target.toList.takeWhile (· != '.') ++ target.toList.dropWhile (· != '.') =
      target.toList := List.takeWhile_append_dropWhile
  refine ⟨?_, ?_⟩
  · rw [base, String.toList_ofList]
    intro hdot
    simpa using List.mem_takeWhile_imp hdot
  · cases hrest : target.toList.dropWhile (· != '.') with
    | nil =>
      left
      apply String.toList_inj.1
      rw [hrest, List.append_nil] at hsplit
      rw [base, String.toList_ofList, hsplit]
    | cons c rest =>
      -- what is left over begins with the dot at which the taking stopped
      have hc : c = '.' := by
        have hhead := List.head_dropWhile_not (· != '.') (l := target.toList) (by simp [hrest])
        simpa [hrest] using hhead
      subst hc
      right
      refine ⟨String.ofList rest, String.toList_inj.1 ?_⟩
      rw [hrest] at hsplit
      simp [base, hsplit]

theorem base_eq_iff {target b : String} : base target = b ↔ StartsFrom target b := by
  constructor
  · rintro rfl
    exact startsFrom_base target
  · rintro ⟨hdot, htarget⟩
    have hall : ∀ c ∈ b.toList, (c != '.') = true := by
      intro c hc
      simpa using fun h : c = '.' => hdot (h ▸ hc)
    rcases htarget with rfl | ⟨rest, rfl⟩
    · simp [base, List.takeWhile_eq_self_iff.2 hall]
    · simp [base, List.takeWhile_append_of_pos hall]

/-- The text before the first dot is one of the texts between dots. -/
theorem StartsFrom.hasPart {target b : String} (h : StartsFrom target b) : HasPart target b := by
  obtain ⟨hdot, rfl | ⟨rest, rfl⟩⟩ := h
  · exact ⟨[target], by simpa using hdot, by simp, by simp⟩
  · refine ⟨b :: parts rest, ?_, ?_, by simp⟩
    · simpa [hdot] using fun p hp => dot_not_mem_of_mem_parts hp
    · have hne : parts rest ≠ [] := by simp [parts, Text.splitAt_ne_nil]
      rw [String.intercalate_cons_of_ne_nil hne, intercalate_parts]

end Target

/-! ## Calls that lead out of a unit -/

namespace SourceUnit

/-- Does no function of the unit have this name? -/
def Lacks (u : SourceUnit) (name : String) : Prop :=
  ∀ f ∈ u.functions, f.name ≠ name

/-- Is the call one to the outside object `b`: neither its whole target nor a part of it names a
function of the unit, and it starts from `b`? -/
def CallsOut (u : SourceUnit) (c : CallRecord) (b : String) : Prop :=
  u.Lacks c.target ∧ (∀ part, Target.HasPart c.target part → u.Lacks part) ∧
    Target.StartsFrom c.target b

/-- Does a call to the outside object `b` stand before all calls to `b'`? -/
def CallsOutFirst (u : SourceUnit) (b b' : String) : Prop :=
  ∃ before c after, u.calls = before ++ c :: after ∧ u.CallsOut c b ∧
    ∀ d ∈ before, ¬u.CallsOut d b'

variable {u : SourceUnit} {c : CallRecord} {b : String}

theorem definesName_eq_false_iff {name : String} : u.definesName name = false ↔ u.Lacks name := by
  simp [definesName, Lacks]

theorem callsOut_iff : u.CallsOut c b ↔ u.owns c.target = false ∧ Target.base c.target = b := by
  unfold CallsOut owns
  rw [Bool.or_eq_false_iff, List.any_eq_false, definesName_eq_false_iff, Target.base_eq_iff,
    and_assoc]
  simp only [Target.mem_parts_iff, Bool.not_eq_true, definesName_eq_false_iff]

theorem mem_externalTargets_iff : b ∈ u.externalTargets ↔ ∃ c ∈ u.calls, u.CallsOut c b := by
  unfold externalTargets
  simp only [List.mem_eraseDups, List.mem_map, List.mem_filter, callsOut_iff, Bool.not_eq_true',
    and_assoc]

/-- An outside object does not bear the name of a function of the unit. -/
theorem CallsOut.lacks (h : u.CallsOut c b) : u.Lacks b :=
  h.2.1 b h.2.2.hasPart

/-- The outside objects stand in the order of the first calls to them. -/
theorem pairwise_externalTargets (u : SourceUnit) :
    u.externalTargets.Pairwise u.CallsOutFirst := by
  unfold externalTargets
  refine (pairwise_eraseDups _).imp ?_
  rintro b b' ⟨before, after, hsplit, hnot⟩
  -- the place among the calls to the outside is found again among all calls
  obtain ⟨front, back, hfilter, rfl, hback⟩ := List.map_eq_append_iff.1 hsplit
  obtain ⟨c, rest, rfl, rfl, -⟩ := List.map_eq_cons_iff.1 hback
  obtain ⟨front', back', hcalls, rfl, hback'⟩ := List.filter_eq_append_iff.1 hfilter
  obtain ⟨own, rest', rfl, hown, hc, -⟩ := List.filter_eq_cons_iff.1 hback'
  refine ⟨front' ++ own, c, rest', by simp [hcalls], callsOut_iff.2 ⟨by simpa using hc, rfl⟩, ?_⟩
  intro d hd hout
  obtain ⟨hleads, hbase⟩ := callsOut_iff.1 hout
  rcases List.mem_append.1 hd with hd | hd
  · exact hnot (List.mem_map.2 ⟨d, List.mem_filter.2 ⟨hd, by simp [hleads]⟩, hbase⟩)
  · exact hown d hd (by simp [hleads])

end SourceUnit

/-! ## The figures of a module -/

/-- The figures of a module tell the calls that lead out of its unit from those that do not. -/
structure ModuleFlow.TellsCallsApart (m : ModuleFlow) (u : SourceUnit) : Prop where
  path : m.path = u.path
  distinct : m.externalTargets.Nodup
  fanOut : m.fanOut = m.externalTargets.length
  foreign : ∀ b ∈ m.externalTargets, u.Lacks b
  mem_iff : ∀ b, b ∈ m.externalTargets ↔ ∃ c ∈ u.calls, u.CallsOut c b
  ordered : m.externalTargets.Pairwise u.CallsOutFirst

theorem ModuleFlow.of_tellsCallsApart (units : List SourceUnit) (u : SourceUnit) :
    (ModuleFlow.of units u).TellsCallsApart u where
  path := rfl
  distinct := nodup_eraseDups _
  fanOut := rfl
  foreign := by
    intro b hb
    obtain ⟨c, -, hc⟩ := SourceUnit.mem_externalTargets_iff.1 hb
    exact hc.lacks
  mem_iff := fun _ => SourceUnit.mem_externalTargets_iff
  ordered := u.pairwise_externalTargets

/-- **Calls are told apart.** Whatever units a builder holds, it builds a graph of them, and the
figures of each unit's module hold each object once to which calls lead out of the unit, in the
order of the first such calls, and count these objects as fan-out. None of them bears the name of a
function of the unit. -/
theorem modules_tell_calls_apart (units : List SourceUnit) (paths : List String) :
    ∃ g, GraphBuilder.build.run ⟨units, paths, false⟩ = .ok g ⟨units, paths, true⟩ ∧
      g.units = units ∧ List.Forall₂ ModuleFlow.TellsCallsApart g.modules units := by
  have hbuild : GraphBuilder.build.run ⟨units, paths, false⟩ =
      .ok (CallGraph.of units) ⟨units, paths, true⟩ := by
    rw [GraphBuilder.run_build]
    exact if_neg Bool.false_ne_true
  refine ⟨CallGraph.of units, hbuild, rfl, ?_⟩
  unfold CallGraph.of
  rw [List.forall₂_map_left_iff, List.forall₂_same]
  exact fun u _ => ModuleFlow.of_tellsCallsApart units u

/-- A function may have a dot in its name, and a target may begin with one or have two in a row. -/
example :
    let call (target : String) : CallRecord :=
      { file := "a.js", target := target, line := 1, kind := .member }
    SourceUnit.externalTargets
      { path := "a.js", moduleName := "a"
        functions := [{ name := "socket.on_draw", file := "a.js", moduleName := "a", line := 1
                        endLine := 1, kind := .arrow },
          { name := "draw", file := "a.js", moduleName := "a", line := 2, endLine := 2
            kind := .declaration }]
        calls := ["socket.on_draw", "socket.emit", "ctx.draw", "a..b", ".x", "socket.on"].map
          call } = ["socket", "a", ""] := by
  decide +kernel

end CallFlow
