import CallFlow.Proofs.Definitions
import CallFlow.Proofs.DenyList
import CallFlow.Proofs.DirectCalls
import CallFlow.Proofs.Related

/-!
# Calls without a name

Where a text is faulty, its tree can hold a callee that has the form of a name and no text. The
records of a file leave such a call out (`target_ne_empty`), but the names of a function do not: the
empty name is collected from it like any other (`CallNames.mem_calls_iff`). It counts toward fan-out
if it stands alone, and two functions that have it are related, as both call the same object.

So the empty name is nowhere in a unit just if no recorded function makes a call that lacks its name
(`nameless_calls_iff`). Two functions that leave out the name of a member show that this can fail
(`nameless_calls_missingProperties`).
-/

namespace CallFlow

open CallFlow.Tree (Node Source Visit)

/-! ## Names of calls -/

/-- The callee of the call has a form that gives it a name, but there is no text for the name: a
plain name that is not denied, or a member of an object that is not a plain name. -/
def LacksName (src : Source) (denied : List String) (call : Node) : Prop :=
  ∃ callee, call.child? "function" = some callee ∧
    (callee.kind = "identifier" ∧ callee.text src = "" ∧ "" ∉ denied ∨
      callee.kind = "member_expression" ∧
        (∃ property, callee.child? "property" = some property ∧ property.text src = "") ∧
        ∀ object, callee.child? "object" = some object → object.kind ≠ "identifier")

theorem lacksName_iff {src : Source} {denied : List String} {call : Node} :
    LacksName src denied call ↔
      CallsDirectly src call "" ∧ "" ∉ denied ∨ CallsMember src call "" := by
  constructor
  · rintro ⟨callee, hcallee,
      ⟨hkind, htext, hdenied⟩ | ⟨hkind, ⟨property, hproperty, htext⟩, hobject⟩⟩
    · exact .inl ⟨⟨callee, hcallee, hkind, htext⟩, hdenied⟩
    · exact .inr ⟨callee, property, hcallee, hkind, hproperty, .inr ⟨hobject, htext⟩⟩
  · rintro (⟨⟨callee, hcallee, hkind, htext⟩, hdenied⟩ |
      ⟨callee, property, hcallee, hkind, hproperty, ⟨object, -, -, htext⟩ | ⟨hobject, htext⟩⟩)
    · exact ⟨callee, hcallee, .inl ⟨hkind, htext, hdenied⟩⟩
    · -- a name with a dot in it is not empty
      simp at htext
    · exact ⟨callee, hcallee, .inr ⟨hkind, ⟨property, hproperty, htext⟩, hobject⟩⟩

namespace CallNames

/-- A name is collected just if some call counts under it. -/
theorem mem_calls_iff {src : Source} {denied : List String} {calls : List Node} {n : String} :
    n ∈ (ofCalls src denied calls).calls ↔
      ∃ call ∈ calls, CallsDirectly src call n ∧ n ∉ denied ∨ CallsMember src call n := by
  rw [ofCalls_eq, ofCallees, map_key_firstOfEach, List.mem_eraseDups, List.mem_map]
  constructor
  · rintro ⟨⟨name, kind⟩, hc, rfl⟩
    obtain ⟨hfound, hnot⟩ := List.mem_filter.1 hc
    obtain ⟨call, hcall, hcallee⟩ := List.mem_filterMap.1 hfound
    refine ⟨call, hcall, ?_⟩
    cases kind with
    | direct =>
      have hn : name ∉ denied := by simpa [Callee.isDenied] using hnot
      exact .inl ⟨Callee.of_eq_direct_iff.1 hcallee, hn⟩
    | member => exact .inr (Callee.of_eq_member_iff.1 hcallee)
  · rintro ⟨call, hcall, ⟨hdirect, hn⟩ | hmember⟩
    · have hfound := List.mem_filterMap.2 ⟨call, hcall, Callee.of_eq_direct_iff.2 hdirect⟩
      exact ⟨_, List.mem_filter.2 ⟨hfound, by simp [Callee.isDenied, hn]⟩, rfl⟩
    · have hfound := List.mem_filterMap.2 ⟨call, hcall, Callee.of_eq_member_iff.2 hmember⟩
      exact ⟨_, List.mem_filter.2 ⟨hfound, by simp [Callee.isDenied]⟩, rfl⟩

theorem directCalls_subset_calls (src : Source) (denied : List String) (calls : List Node) :
    (ofCalls src denied calls).directCalls ⊆ (ofCalls src denied calls).calls := by
  rw [ofCalls_eq, ofCallees]
  exact (List.filter_sublist.map _).subset

end CallNames

/-! ## The empty name in a function -/

/-- Names without repetition, the empty one counted apart. -/
theorem length_eq_named_add {names : List String} (h : names.Nodup) :
    names.length = (names.filter (· != "")).length + if "" ∈ names then 1 else 0 := by
  have hempty : names.countP (fun n => decide ¬(n != "") = true) = names.count "" :=
    List.countP_congr fun n _ => by simp
  rw [List.length_eq_countP_add_countP (· != ""), List.countP_eq_length_filter, hempty, h.count]

/-- How the empty name counts for a function that is defined at the node. -/
structure FunctionRecord.CountsNameless (src : Source) (denied : List String) (definition : Node)
    (f : FunctionRecord) : Prop where
  calls : "" ∈ f.calls ↔ ∃ call ∈ definition.ownCalls, LacksName src denied call
  /-- It is one of the direct names if a plain name lacks its text before a member does. -/
  directCalls : "" ∈ f.directCalls ↔ "" ∉ denied ∧ DirectFirst src definition.ownCalls ""
  subset : f.directCalls ⊆ f.calls
  fanOut : ∀ units, (FunctionFlow.of units f).fanOut =
    (f.directCalls.filter (· != "")).length + if "" ∈ f.directCalls then 1 else 0

theorem FunctionRecord.ofNode_countsNameless (src : Source) (denied : List String)
    (file moduleName name : String) (n : Node) :
    (FunctionRecord.ofNode src denied file moduleName name n).CountsNameless src denied n := by
  have hnames := CallNames.ofFunction_eq_ofCalls src denied n
  have hcalls : (FunctionRecord.ofNode src denied file moduleName name n).calls =
      (CallNames.ofCalls src denied n.ownCalls).calls := congrArg CallNames.calls hnames
  have hdirect : (FunctionRecord.ofNode src denied file moduleName name n).directCalls =
      (CallNames.ofCalls src denied n.ownCalls).directCalls := congrArg CallNames.directCalls hnames
  refine { calls := ?calls, directCalls := ?directCalls, subset := ?subset, fanOut := ?fanOut }
  case calls =>
    rw [hcalls, CallNames.mem_calls_iff]
    simp only [lacksName_iff]
  case directCalls =>
    rw [hdirect, CallNames.mem_directCalls_iff]
  case subset =>
    rw [hdirect, hcalls]
    exact CallNames.directCalls_subset_calls src denied n.ownCalls
  case fanOut =>
    intro units
    refine length_eq_named_add ?_
    rw [hdirect]
    exact CallNames.nodup_directCalls src denied n.ownCalls

/-! ## The empty name in a unit -/

/-- The functions of a tree that are recorded, with their names: of those with the same name and
line, the first. -/
def recordedFunctions (src : Source) (root : Node) : List (Visit × String) :=
  firstOfEach (fun d => (d.2, d.1.node.line src)) (nameFunctions src 0 (Tree.walk root))

theorem functions_eq_map_record (src : Source) (denied : List String) (file : String)
    (root : Node) :
    (SourceUnit.ofTree src denied file root).functions =
      (recordedFunctions src root).map
        (ScanTarget.record ⟨src, file, moduleNameOf file, denied⟩) := by
  let keyOf : String × Nat → FunctionKey := fun k => ⟨file, k.1, k.2⟩
  have hinj : Function.Injective keyOf := by
    rintro ⟨name, line⟩ ⟨name', line'⟩ h
    obtain ⟨-, rfl, rfl⟩ := FunctionKey.mk.inj h
    rfl
  have hkey : ∀ d : Visit × String,
      (ScanTarget.record ⟨src, file, moduleNameOf file, denied⟩ d).key =
        keyOf (d.2, d.1.node.line src) := fun _ => rfl
  rw [functions_eq_firstOfEach]
  exact firstOfEach_map _ hinj hkey _

theorem Site.target_ne_empty {t : ScanTarget} {s : Site} {c : CallRecord}
    (h : s.call? t = some c) : c.target ≠ "" := by
  unfold call? at h
  split at h
  · split at h
    · split at h
      · next hkept =>
        obtain rfl := Option.some.inj h
        exact hkept.1
      · cases h
    · cases h
  · cases h

/-- The target of a recorded call is not empty. -/
theorem target_ne_empty {src : Source} {denied : List String} {file : String} {root : Node}
    {c : CallRecord} (hc : c ∈ (SourceUnit.ofTree src denied file root).calls) :
    c.target ≠ "" := by
  have hcalls : (SourceUnit.ofTree src denied file root).calls =
      (sites src [] 0 root).1.filterMap (·.call? ⟨src, file, moduleNameOf file, denied⟩) :=
    (Scan.extends_walk _ root).calls
  rw [hcalls] at hc
  obtain ⟨site, -, hsite⟩ := List.mem_filterMap.1 hc
  exact Site.target_ne_empty hsite

/-- Two functions that have a call without a name are related. -/
theorem related_of_nameless {f g : FunctionRecord} (hf : "" ∈ f.calls) (hg : "" ∈ g.calls)
    (keywords : List String) : related keywords f g = true :=
  related_iff.2 (.object hf hg rfl)

/-- **Where the empty name is recorded.** The target of a recorded call is never empty. The names of
a recorded function hold the empty one just if it makes a call that lacks its name; then two such
functions are related, and fan-out counts the empty name if it is one of the direct ones. So the
empty name is nowhere in the unit just if no recorded function makes a call that lacks its name. -/
theorem nameless_calls_iff (src : Source) (denied : List String) (file : String) (root : Node) :
    let unit := SourceUnit.ofTree src denied file root
    let recorded := recordedFunctions src root
    let record := ScanTarget.record ⟨src, file, moduleNameOf file, denied⟩
    unit.functions = recorded.map record ∧
    (∀ c ∈ unit.calls, c.target ≠ "") ∧
    (∀ d ∈ recorded, (record d).CountsNameless src denied d.1.node) ∧
    (∀ keywords, ∀ f ∈ unit.functions, ∀ g ∈ unit.functions, "" ∈ f.calls → "" ∈ g.calls →
      related keywords f g = true) ∧
    ((∀ f ∈ unit.functions, "" ∉ f.calls ∧ "" ∉ f.directCalls) ↔
      ∀ d ∈ recorded, ∀ call ∈ d.1.node.ownCalls, ¬LacksName src denied call) := by
  intro unit recorded record
  have hfunctions : unit.functions = recorded.map record :=
    functions_eq_map_record src denied file root
  have hcounts : ∀ d ∈ recorded, (record d).CountsNameless src denied d.1.node :=
    fun d _ => FunctionRecord.ofNode_countsNameless src denied file _ d.2 d.1.node
  refine ⟨hfunctions, fun c hc => target_ne_empty hc, hcounts,
    fun keywords f _ g _ hf hg => related_of_nameless hf hg keywords, ?_⟩
  rw [hfunctions, List.forall_mem_map]
  refine forall₂_congr fun d hd => ?_
  have hcalls := (hcounts d hd).calls
  constructor
  · intro hfree call hcall hlacks
    exact hfree.1 (hcalls.2 ⟨call, hcall, hlacks⟩)
  · intro hnamed
    have hnot : "" ∉ (record d).calls := by
      rw [hcalls]
      rintro ⟨call, hcall, hlacks⟩
      exact hnamed call hcall hlacks
    exact ⟨hnot, fun hdirect => hnot ((hcounts d hd).subset hdirect)⟩

/-! ### Two missing properties -/

namespace MissingProperties

/-- The text whose tree follows, punctuation left out. -/
def source : Source := .ofString "function f() { this.(); }\nfunction g() { this.(); }"

/-- A function on its own line, whose text starts at `start`. Behind the point stands no name, so
one is made up there. -/
def function (start : Nat) : Node :=
  .mk { kind := "function_declaration", start := start, stop := start + 25 }
    [.mk { kind := "identifier", start := start + 9, stop := start + 10, field := some "name" } [],
      .mk { kind := "formal_parameters", start := start + 10, stop := start + 12
            field := some "parameters" } [],
      .mk { kind := "statement_block", start := start + 13, stop := start + 25
            field := some "body" }
        [.mk { kind := "expression_statement", start := start + 15, stop := start + 23 }
          [.mk { kind := "call_expression", start := start + 15, stop := start + 22 }
            [.mk { kind := "member_expression", start := start + 15, stop := start + 20
                   field := some "function" }
              [.mk { kind := "this", start := start + 15, stop := start + 19
                     field := some "object" } [],
                .mk { kind := "property_identifier", start := start + 20, stop := start + 20
                      field := some "property", missing := true } []],
              .mk { kind := "arguments", start := start + 20, stop := start + 22
                    field := some "arguments" } []]]]]

def root : Node := .mk { kind := "program", start := 0, stop := 51 } [function 0, function 26]

end MissingProperties

/-- Neither call is recorded for the file, but the empty name is among the calls of each function,
and it relates the two. -/
theorem nameless_calls_missingProperties :
    let unit :=
      SourceUnit.ofTree MissingProperties.source defaultDenied "a.js" MissingProperties.root
    unit.calls = [] ∧
      unit.functions.map (fun f => (f.name, f.calls, f.directCalls)) =
        [("f", [""], []), ("g", [""], [])] ∧
      relatedCount [] unit.functions = 1 := by
  decide +kernel

end CallFlow
