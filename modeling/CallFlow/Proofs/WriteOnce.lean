import Mathlib.Data.List.Infix
import CallFlow.Proofs.FanIn
import CallFlow.Proofs.SeparateFiles

/-!
# A builder is written once

A builder takes units until its graph is built, and nothing after that. The operations on one
builder may come in any order and any number, so this is said of whole sequences of operations: what
each of them answers, and what the builder is after it.

* `GraphBuilder.Consistent.history` — the paths of a builder are those of its units at any time,
  no two of which share one;
* `GraphBuilder.history_add` — as long as nothing is built, each unit is accepted, and the builder
  holds the first unit of each path so far;
* `GraphBuilder.history_closed` — once the graph is built, each operation is refused, and the
  builder stays as it is;
* `CallGraph.ofUnits_withRepeats` — units whose path was there before leave no trace in the graph;
* `builder_write_once` — all of this together, for every sequence of operations.
-/

namespace CallFlow

/-! ## Sequences of operations -/

/-- An operation on a builder. -/
inductive BuilderOp where
  | add (u : SourceUnit)
  | build
  deriving DecidableEq

/-- What an operation on a builder answers. -/
inductive BuilderAnswer where
  | added
  | built (g : CallGraph)
  | refused (e : BuilderError)
  deriving DecidableEq

/-- The refusal of an operation that comes after the graph is built. -/
def BuilderOp.refusal : BuilderOp → BuilderError
  | add _ => .addAfterBuild
  | build => .builtTwice

/-- What an operation does to a builder. -/
def BuilderOp.action : BuilderOp → BuilderM BuilderAnswer
  | add u => do
    GraphBuilder.add u
    return .added
  | build => return .built (← GraphBuilder.build)

namespace GraphBuilder

/-- Performs an operation: its answer, and the builder as it leaves it, whether it fails or not. -/
def perform (b : GraphBuilder) (op : BuilderOp) : BuilderAnswer × GraphBuilder :=
  match op.action.run b with
  | .ok answer b' => (answer, b')
  | .error e b' => (.refused e, b')

/-- Performs operations in turn: the answer of each, and the builder after it. -/
def history (b : GraphBuilder) : List BuilderOp → List (BuilderAnswer × GraphBuilder)
  | [] => []
  | op :: ops => b.perform op :: history (b.perform op).2 ops

end GraphBuilder

/-- Every sequence of operations with a build in it begins with some units and the first build. -/
theorem exists_first_build {ops : List BuilderOp} (h : .build ∈ ops) :
    ∃ (units : List SourceUnit) (later : List BuilderOp),
      ops = units.map .add ++ .build :: later := by
  induction ops with
  | nil => exact absurd h List.not_mem_nil
  | cons op ops ih =>
    cases op with
    | build => exact ⟨[], ops, rfl⟩
    | add u =>
      have hlater : BuilderOp.build ∈ ops := by simpa using h
      obtain ⟨units, later, rfl⟩ := ih hlater
      exact ⟨u :: units, later, rfl⟩

/-! ## One operation -/

namespace GraphBuilder

section OneOperation

variable {b : GraphBuilder}

/-- An open builder takes a unit whose path is new, and ignores any other. -/
theorem perform_add_open (h : b.closed = false) (u : SourceUnit) :
    b.perform (.add u) = (.added,
      if b.paths.contains u.path then b
      else { b with paths := b.paths ++ [u.path], units := b.units ++ [u] }) := by
  rw [perform, BuilderOp.action, EStateM.run_bind, run_add, if_neg (by simp [h])]
  by_cases hpath : b.paths.contains u.path = true
  · rw [if_pos hpath, if_pos hpath]
    rfl
  · rw [if_neg hpath, if_neg hpath]
    rfl

theorem perform_build_open (h : b.closed = false) :
    b.perform .build = (.built (CallGraph.of b.units), { b with closed := true }) := by
  rw [perform, BuilderOp.action, EStateM.run_bind, run_build, if_neg (by simp [h])]
  rfl

/-- A closed builder refuses every operation, and stays as it is. -/
theorem perform_closed (h : b.closed = true) (op : BuilderOp) :
    b.perform op = (.refused op.refusal, b) := by
  cases op with
  | add u => rw [perform, BuilderOp.action, EStateM.run_bind, run_add, if_pos h]; rfl
  | build => rw [perform, BuilderOp.action, EStateM.run_bind, run_build, if_pos h]; rfl

/-- The paths of a builder are those of its units, and no two of its units share one. -/
structure Consistent (b : GraphBuilder) : Prop where
  paths : b.paths = b.units.map (·.path)
  distinct : b.paths.Nodup

/-- No operation makes a builder forget a path, or know one that it has no unit for. -/
theorem Consistent.perform (h : b.Consistent) (op : BuilderOp) :
    (b.perform op).2.Consistent := by
  cases hclosed : b.closed with
  | true =>
    rw [perform_closed hclosed]
    exact h
  | false =>
    cases op with
    | build =>
      rw [perform_build_open hclosed]
      exact ⟨h.paths, h.distinct⟩
    | add u =>
      rw [perform_add_open hclosed]
      dsimp only
      split
      · exact h
      · next hnew =>
        have hpath : u.path ∉ b.paths := by simpa using hnew
        refine ⟨?_, List.nodup_append.2 ⟨h.distinct, List.nodup_singleton _, ?_⟩⟩
        · simp [h.paths]
        · rintro p hp q hq rfl
          rw [List.mem_singleton.1 hq] at hp
          exact hpath hp

end OneOperation

/-- Whatever is done to a consistent builder, it stays consistent. -/
theorem Consistent.history {b : GraphBuilder} (h : b.Consistent) (ops : List BuilderOp) :
    ∀ step ∈ b.history ops, step.2.Consistent := by
  induction ops generalizing b with
  | nil => exact fun step hstep => absurd hstep List.not_mem_nil
  | cons op ops ih => exact List.forall_mem_cons.2 ⟨h.perform op, ih (h.perform op)⟩

/-! ## Before and after the build -/

/-- The builder that has taken the given units. -/
def holding (units : List SourceUnit) (closed : Bool) : GraphBuilder :=
  of (firstOfEach SourceUnit.path units) closed

theorem perform_add (units : List SourceUnit) (u : SourceUnit) :
    (holding units false).perform (.add u) = (.added, holding (units ++ [u]) false) := by
  rw [perform, BuilderOp.action, EStateM.run_bind, holding, add_eq, insertNew_firstOfEach]
  rfl

theorem perform_build (units : List SourceUnit) :
    (holding units false).perform .build =
      (.built (CallGraph.ofUnits units), holding units true) := by
  rw [perform_build_open rfl, CallGraph.ofUnits, keptUnits_eq_firstOfEach]
  rfl

/-- Units that are added one after the other are all accepted. -/
theorem history_add (units : List SourceUnit) (ops : List BuilderOp) (before : List SourceUnit) :
    (holding before false).history (units.map .add ++ ops) =
      (units.inits.tail.map fun us => (.added, holding (before ++ us) false)) ++
        (holding (before ++ units) false).history ops := by
  induction units generalizing before with
  | nil => rw [List.append_nil]; rfl
  | cons u units ih =>
    -- the beginnings of `u :: units` are `[u]` and those that go on from there
    have hinits : (u :: units).inits.tail = [u] :: units.inits.tail.map (u :: ·) := by
      cases units <;> simp
    rw [List.map_cons, List.cons_append, history, perform_add, ih, hinits, List.map_cons,
      List.map_map, List.append_assoc, List.singleton_append, List.cons_append]
    simp only [Function.comp_def, List.append_assoc, List.singleton_append]

theorem history_closed {b : GraphBuilder} (h : b.closed = true) (ops : List BuilderOp) :
    b.history ops = ops.map fun op => (.refused op.refusal, b) := by
  induction ops with
  | nil => rfl
  | cons op ops ih => rw [history, perform_closed h, ih, List.map_cons]

/-- The whole history of a builder from its first unit on. -/
theorem history_eq (units : List SourceUnit) (later : List BuilderOp) :
    history {} (units.map .add ++ .build :: later) =
      (units.inits.tail.map fun us => (.added, holding us false)) ++
        (.built (CallGraph.ofUnits units), holding units true) ::
          later.map fun op => (.refused op.refusal, holding units true) := by
  have hadd := history_add units (.build :: later) []
  have hclosed := history_closed (b := holding units true) rfl later
  rw [List.nil_append, history, perform_build, hclosed] at hadd
  exact hadd

end GraphBuilder

/-! ## Units that come too late for their path -/

/-- The list is `units` with further units put in, each somewhere after one of its path. -/
inductive WithRepeats (units : List SourceUnit) : List SourceUnit → Prop
  | same : WithRepeats units units
  | insert {before after : List SourceUnit} {u : SourceUnit}
      (h : WithRepeats units (before ++ after)) (hpath : ∃ v ∈ before, v.path = u.path) :
      WithRepeats units (before ++ u :: after)

theorem WithRepeats.firstOfEach_eq {units units' : List SourceUnit} (h : WithRepeats units units') :
    firstOfEach SourceUnit.path units' = firstOfEach SourceUnit.path units := by
  induction h with
  | same => rfl
  | insert _ hpath ih => rw [firstOfEach_append_cons SourceUnit.path hpath, ih]

/-- Units whose path was there before leave no trace in the graph. -/
theorem CallGraph.ofUnits_withRepeats {units units' : List SourceUnit}
    (h : WithRepeats units units') : CallGraph.ofUnits units' = CallGraph.ofUnits units := by
  rw [CallGraph.ofUnits, CallGraph.ofUnits, keptUnits_eq_firstOfEach, keptUnits_eq_firstOfEach,
    h.firstOfEach_eq]

/-! ## The graph that is built -/

/-- A graph of units that were added one after the other: it holds the first of each path and the
first function of each key, and everything in it is found under its key. -/
structure CallGraph.Keeps (g : CallGraph) (units : List SourceUnit) : Prop where
  units : g.units = firstOfEach SourceUnit.path units
  functions : g.functions.map (·.key) = ((g.units.flatMap (·.functions)).map (·.key)).eraseDups
  distinct : (g.functions.map (·.key)).Nodup
  function? : ∀ f ∈ g.functions, g.function? f.key = some f
  modules : g.modules.map (·.path) = g.units.map (·.path)
  module? : ∀ m ∈ g.modules, g.module? m.path = some m

theorem CallGraph.ofUnits_keeps (units : List SourceUnit) :
    (CallGraph.ofUnits units).Keeps units := by
  have hkeys := CallGraph.functions_pairwise (keptUnits units)
  have hpaths : (CallGraph.ofUnits units).modules.Pairwise fun m m' => m.path ≠ m'.path := by
    refine List.pairwise_map.2 ?_
    rw [keptUnits_eq_firstOfEach]
    exact firstOfEach_pairwise SourceUnit.path units
  refine ⟨keptUnits_eq_firstOfEach units, ?functions, List.pairwise_map.2 hkeys, ?function,
    ?modules, ?module⟩
  case functions =>
    rw [← map_key_firstOfEach, CallGraph.ofUnits, CallGraph.of, List.map_map,
      distinctFunctions_eq_firstOfEach]
    rfl
  case function =>
    intro f hf
    exact (find?_key_eq_some_iff FunctionFlow.key hkeys).2 ⟨hf, rfl⟩
  case modules =>
    rw [CallGraph.ofUnits, CallGraph.of, List.map_map]
    rfl
  case module =>
    intro m hm
    exact (find?_key_eq_some_iff ModuleFlow.path hpaths).2 ⟨hm, rfl⟩

/-- **A builder is written once.** Take any sequence of operations on a new builder with a build in
it. The units before the first build are accepted, that build gives a graph of them, and every later
operation is refused and leaves the builder as it was. At any time the builder knows the paths of
the units that it holds. Further units put in before the build, each after one of its path, change
nothing from the build on. -/
theorem builder_write_once {ops : List BuilderOp} (hbuild : .build ∈ ops) :
    ∃ (units : List SourceUnit) (later : List BuilderOp) (g : CallGraph),
      ops = units.map .add ++ .build :: later ∧
      GraphBuilder.history {} ops =
        (units.inits.tail.map fun us => (.added, GraphBuilder.holding us false)) ++
          (.built g, GraphBuilder.holding units true) ::
            later.map (fun op => (.refused op.refusal, GraphBuilder.holding units true)) ∧
      (∀ step ∈ GraphBuilder.history {} ops, step.2.Consistent) ∧
      g.Keeps units ∧
      ∀ units', WithRepeats units units' →
        (GraphBuilder.history {} (units'.map .add ++ .build :: later)).drop units'.length =
          (GraphBuilder.history {} ops).drop units.length := by
  obtain ⟨units, later, rfl⟩ := exists_first_build hbuild
  have hfrom (us : List SourceUnit) :
      (GraphBuilder.history {} (us.map .add ++ .build :: later)).drop us.length =
        (.built (CallGraph.ofUnits us), GraphBuilder.holding us true) ::
          later.map fun op => (.refused op.refusal, GraphBuilder.holding us true) := by
    rw [GraphBuilder.history_eq, List.drop_left' (by simp)]
  refine ⟨units, later, CallGraph.ofUnits units, rfl, GraphBuilder.history_eq units later,
    GraphBuilder.Consistent.history ⟨rfl, List.nodup_nil⟩ _, CallGraph.ofUnits_keeps units, ?_⟩
  intro units' h
  have hholding : GraphBuilder.holding units' true = GraphBuilder.holding units true := by
    rw [GraphBuilder.holding, GraphBuilder.holding, h.firstOfEach_eq]
  rw [hfrom, hfrom, CallGraph.ofUnits_withRepeats h, hholding]

/-! ### A path that is there twice -/

namespace Repeated

/-- A unit that comes too late for the graph. -/
def late : SourceUnit := { path := "c.js", moduleName := "c" }

def ops : List BuilderOp := units.map .add ++ [.build, .add late, .build]

end Repeated

/-- The third unit has the path of the first one, which repeats a function itself. -/
theorem builder_write_once_repeated :
    .build ∈ Repeated.ops ∧ ∃ g : CallGraph,
      (GraphBuilder.history {} Repeated.ops).map (·.1) =
        [.added, .added, .added, .built g, .refused .addAfterBuild, .refused .builtTwice] ∧
      g.units.map (·.path) = ["a.js", "b.js"] ∧
      g.functions.map (·.key) = [⟨"a.js", "f", 1⟩, ⟨"a.js", "g", 2⟩] := by
  have hbuild : .build ∈ Repeated.ops := by simp [Repeated.ops]
  obtain ⟨units, later, g, hops, hhistory, -, hkeeps, -⟩ := builder_write_once hbuild
  obtain ⟨rfl, rfl⟩ : units = Repeated.units ∧ later = [.add Repeated.late, .build] := by
    rcases units with _ | ⟨u, _ | ⟨v, _ | ⟨w, _ | ⟨x, rest⟩⟩⟩⟩ <;>
      simp_all [Repeated.ops, Repeated.units]
  refine ⟨hbuild, g, ?_, ?_, ?_⟩
  · rw [hhistory]
    rfl
  · rw [hkeeps.units]
    decide +kernel
  · rw [hkeeps.functions, hkeeps.units]
    decide +kernel

end CallFlow
