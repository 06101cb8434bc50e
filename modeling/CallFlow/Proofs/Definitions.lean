import CallFlow.Proofs.Attribution

/-!
# Which definitions are recorded

A walk gives every function a name, in order, and takes in its record under file, name and line; of
records with the same of all three only the first is kept. `nameFunctions` is that sequence of names
without the rest of the walk, and `functions_eq_firstOfEach` says which records come of it.

So a definition is recorded just if no earlier one of the file has its name and its line, and all of
them are if lines and names differ: `length_functions_eq_iff`. That is not so in every file. Two
functions of one array that is given to a variable both take the name of the variable, and if they
stand on one line, the second is lost with all its calls (`length_functions_ne_oneBinding`).
-/

namespace CallFlow

open CallFlow.Tree (Node Source Visit)

/-! ## Functions and their names -/

/-- The functions among visited nodes, in order, each with its name, when `counter` names have been
made up before. -/
def nameFunctions (src : Source) : (counter : Nat) → List Visit → List (Visit × String)
  | _, [] => []
  | counter, v :: vs =>
    if v.node.isFunction then
      let resolved := resolveName src NamingRule.all v counter
      (v, resolved.1) :: nameFunctions src resolved.2 vs
    else nameFunctions src counter vs

section Names

variable {src : Source} {counter : Nat} {v : Visit} {vs : List Visit}

@[simp] theorem nameFunctions_nil : nameFunctions src counter [] = [] := rfl

@[simp] theorem nameFunctions_cons_function (hf : v.node.isFunction = true) :
    nameFunctions src counter (v :: vs) =
      (v, (resolveName src NamingRule.all v counter).1) ::
        nameFunctions src (resolveName src NamingRule.all v counter).2 vs :=
  if_pos hf

@[simp] theorem nameFunctions_cons_other (hf : v.node.isFunction = false) :
    nameFunctions src counter (v :: vs) = nameFunctions src counter vs :=
  if_neg (by simp [hf])

end Names

/-- Every function has one name. -/
theorem map_fst_nameFunctions (src : Source) (vs : List Visit) (counter : Nat) :
    (nameFunctions src counter vs).map (·.1) = vs.filter (·.node.isFunction) := by
  induction vs generalizing counter with
  | nil => rfl
  | cons v vs ih => cases hf : v.node.isFunction <;> simp [hf, ih]

/-- Nodes that come later do not change the names given before. -/
theorem nameFunctions_prefix_append (src : Source) (before after : List Visit) (counter : Nat) :
    nameFunctions src counter before <+: nameFunctions src counter (before ++ after) := by
  induction before generalizing counter with
  | nil => exact List.nil_prefix
  | cons v before ih =>
    rw [List.cons_append]
    cases hf : v.node.isFunction with
    | true =>
      rw [nameFunctions_cons_function hf, nameFunctions_cons_function hf]
      exact (List.prefix_cons_inj _).2 (ih _)
    | false =>
      rw [nameFunctions_cons_other hf, nameFunctions_cons_other hf]
      exact ih counter

/-- The lines and names of all functions of a tree. -/
theorem resolveAll_eq (src : Source) (root : Node) :
    (resolveAll src NamingRule.all root).1 =
      (nameFunctions src 0 (Tree.walk root)).map fun d => (d.1.node.line src, d.2) := by
  have hfold (vs : List Visit) : ∀ (found : List (Nat × String)) (counter : Nat),
      ((vs.filter (·.node.isFunction)).foldl
        (fun s v =>
          let named := resolveName src NamingRule.all v s.2
          (s.1 ++ [(v.node.line src, named.1)], named.2)) (found, counter)).1 =
        found ++ (nameFunctions src counter vs).map fun d => (d.1.node.line src, d.2) := by
    induction vs with
    | nil => intro found counter; simp
    | cons v vs ih =>
      intro found counter
      cases hf : v.node.isFunction <;> simp [hf, ih]
  exact hfold (Tree.walk root) [] 0

/-! ## What the walk keeps of them -/

/-- The record of a function under its name. -/
def ScanTarget.record (t : ScanTarget) (d : Visit × String) : FunctionRecord :=
  FunctionRecord.ofNode t.source t.denied t.file t.moduleName d.2 d.1.node

namespace Scan

/-- A step changes the counter, the names and the functions at a function only. -/
theorem add_of_not_function {t : ScanTarget} {s : Scan} {v : Visit}
    (hf : v.node.isFunction = false) :
    (s.add t v).counter = s.counter ∧ (s.add t v).names = s.names ∧
      (s.add t v).functions = s.functions := by
  rcases add_cases t s v with ⟨hf', -⟩ | ⟨-, ⟨-, hs⟩ | ⟨-, hs⟩ | ⟨-, hs⟩ | ⟨-, -, -, hs⟩⟩
  · exact absurd hf' (by simp [hf])
  all_goals
    rw [hs]
    exact ⟨rfl, rfl, rfl⟩

theorem add_of_function {t : ScanTarget} {s : Scan} {v : Visit} (hf : v.node.isFunction = true) :
    s.add t v = s.addFunction t v :=
  if_pos hf

/-- The names that a walk has noted, and the functions it has kept. -/
theorem foldl_add_named (t : ScanTarget) (vs : List Visit) :
    ∀ s : Scan, let named := nameFunctions t.source s.counter vs
      (vs.foldl (add t) s).names = (named.map fun d => (d.1.index, d.2)).reverse ++ s.names ∧
      (vs.foldl (add t) s).functions =
        (named.map t.record).foldl (insertNew FunctionRecord.key) s.functions := by
  induction vs with
  | nil => exact fun s => ⟨rfl, rfl⟩
  | cons v vs ih =>
    intro s
    obtain ⟨hnames, hfunctions⟩ := ih (s.add t v)
    rw [List.foldl_cons, hnames, hfunctions]
    cases hf : v.node.isFunction with
    | true =>
      rw [add_of_function hf, nameFunctions_cons_function hf]
      simp [addFunction, ScanTarget.record]
    | false =>
      obtain ⟨hcounter, hnames, hfunctions⟩ := add_of_not_function (t := t) (s := s) hf
      rw [hcounter, hnames, hfunctions, nameFunctions_cons_other hf]
      exact ⟨rfl, rfl⟩

end Scan

/-- The functions of a file: of those with the same name and line, the first. -/
theorem functions_eq_firstOfEach (src : Source) (denied : List String) (file : String)
    (root : Node) :
    (SourceUnit.ofTree src denied file root).functions =
      firstOfEach FunctionRecord.key ((nameFunctions src 0 (Tree.walk root)).map
        (ScanTarget.record ⟨src, file, moduleNameOf file, denied⟩)) := by
  rw [← foldl_insertNew]
  exact (Scan.foldl_add_named _ (Tree.walk root) {}).2

/-- The lines and names of the recorded functions are those of all functions, each once. -/
theorem map_line_name_functions (src : Source) (denied : List String) (file : String)
    (root : Node) :
    (SourceUnit.ofTree src denied file root).functions.map (fun f => (f.line, f.name)) =
      (resolveAll src NamingRule.all root).1.eraseDups := by
  let keyOf : Nat × String → FunctionKey := fun (line, name) => ⟨file, name, line⟩
  have hinj : Function.Injective keyOf := by
    rintro ⟨line, name⟩ ⟨line', name'⟩ h
    obtain ⟨-, rfl, rfl⟩ := FunctionKey.mk.inj h
    rfl
  have hkeys : (SourceUnit.ofTree src denied file root).functions.map FunctionRecord.key =
      (resolveAll src NamingRule.all root).1.eraseDups.map keyOf := by
    rw [functions_eq_firstOfEach, map_key_firstOfEach, ← eraseDups_map hinj, resolveAll_eq,
      List.map_map, List.map_map]
    rfl
  calc (SourceUnit.ofTree src denied file root).functions.map (fun f => (f.line, f.name))
      = ((SourceUnit.ofTree src denied file root).functions.map FunctionRecord.key).map
          (fun k => (k.line, k.name)) := by rw [List.map_map]; rfl
    _ = (resolveAll src NamingRule.all root).1.eraseDups := by
        rw [hkeys, List.map_map]
        exact List.map_id _

/-- **Which definitions of a file are recorded.** Every function has a line and a name. Those of the
recorded functions are the lines and names of all, each once; so every definition is recorded just
if no two of them have the same line and name. -/
theorem length_functions_eq_iff (src : Source) (denied : List String) (file : String)
    (root : Node) :
    let functions := (SourceUnit.ofTree src denied file root).functions
    let named := (resolveAll src NamingRule.all root).1
    named.length = (Tree.walk root).countP (·.node.isFunction) ∧
      functions.map (fun f => (f.line, f.name)) = named.eraseDups ∧
      (functions.length = (Tree.walk root).countP (·.node.isFunction) ↔ named.Nodup) := by
  intro functions named
  have hcount : named.length = (Tree.walk root).countP (·.node.isFunction) := by
    rw [List.countP_eq_length_filter, ← map_fst_nameFunctions src _ 0, List.length_map]
    simp only [named, resolveAll_eq, List.length_map]
  have hnames := map_line_name_functions src denied file root
  refine ⟨hcount, hnames, ?_⟩
  rw [← hcount, ← length_eraseDups_eq_iff, ← hnames, List.length_map]

/-! ### Two functions of one name on one line -/

namespace OneBinding

/-- The text whose tree follows, punctuation left out. -/
def source : Source := .ofString "const f = [() => a(), () => b()];"

/-- A function without parameters that calls the name at `callee`. -/
def arrow (start stop callee : Nat) : Node :=
  .mk { kind := "arrow_function", start := start, stop := stop }
    [.mk { kind := "call_expression", start := callee, stop := stop, field := some "body" }
      [.mk { kind := "identifier", start := callee, stop := callee + 1
             field := some "function" } []]]

def root : Node :=
  .mk { kind := "program", start := 0, stop := 33 }
    [.mk { kind := "lexical_declaration", start := 0, stop := 33 }
      [.mk { kind := "variable_declarator", start := 6, stop := 32 }
        [.mk { kind := "identifier", start := 6, stop := 7, field := some "name" } [],
          .mk { kind := "array", start := 10, stop := 32, field := some "value" }
            [arrow 11 20 17, arrow 22 31 28]]]]

end OneBinding

/-- The tree has two functions, of which one is recorded. The call of `b` is among the calls of no
recorded function. -/
theorem length_functions_ne_oneBinding :
    let functions := (SourceUnit.ofTree OneBinding.source defaultDenied "a.js"
      OneBinding.root).functions
    functions.length ≠ (Tree.walk OneBinding.root).countP (·.node.isFunction) ∧
      functions.map (fun f => (f.name, f.line, f.calls)) = [("f", 1, ["a"])] ∧
      (Tree.walk OneBinding.root).countP (·.node.isFunction) = 2 := by
  decide +kernel

end CallFlow
