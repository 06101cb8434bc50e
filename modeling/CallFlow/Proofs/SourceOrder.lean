import Mathlib.Data.Prod.Lex
import CallFlow.Proofs.DenyList
import CallFlow.Proofs.SyntaxErrors

/-!
# Records come in the order of the text

In a tree over a text every node spans a part of the text, and the children of a node lie inside its
span, one after the other (`Node.WellSpanned`). A walk then meets the nodes in the order in which
they start (`pairwise_start_walk`), and a later offset has a later position or the same
(`position_mono`). Records are read off the nodes in the order of the walk, and a record that is
left out disturbs no order, so the records of a file and the reports of its errors come in the order
of the text: `records_in_source_order`.
-/

namespace CallFlow

open CallFlow.Tree (Node Source Place Visit)

/-! ## Positions -/

namespace Tree

/-- Line and column of an offset, both from 0. Positions are compared by line, then by column. -/
def Source.position (src : Source) (offset : Nat) : Nat ×ₗ Nat :=
  toLex ((src.point offset).row, (src.point offset).column)

/-- A later offset has no earlier position. Either there is a line feed between the two offsets, and
the row goes up; or there is none, and the column goes up by the bytes between them. -/
theorem Source.position_mono (src : Source) : Monotone src.position := by
  intro i j hij
  obtain ⟨k, rfl⟩ := Nat.exists_eq_add_of_le hij
  generalize hmore : (src.bytes.drop i).take k = more
  have hsplit : src.bytes.take (i + k) = src.bytes.take i ++ more := by
    rw [List.take_add, hmore]
  simp only [Source.position, Source.point, hsplit, Prod.Lex.toLex_le_toLex, List.count_append,
    List.reverse_append]
  by_cases hfeed : Source.lineFeed ∈ more
  · have := List.count_pos_iff.2 hfeed
    left
    omega
  · have hnone : ∀ b ∈ more.reverse, (b != Source.lineFeed) = true := by
      intro b hb
      rw [bne_iff_ne]
      rintro rfl
      exact hfeed (List.mem_reverse.1 hb)
    right
    rw [List.count_eq_zero_of_not_mem hfeed, List.takeWhile_append_of_pos hnone, List.length_append]
    omega

theorem Source.row_mono (src : Source) {i j : Nat} (h : i ≤ j) :
    (src.point i).row ≤ (src.point j).row := by
  rcases Prod.Lex.toLex_le_toLex.1 (src.position_mono h) with hlt | ⟨heq, -⟩
  · exact Nat.le_of_lt hlt
  · exact Nat.le_of_eq heq

/-! ## Spans -/

/-- The span of a node: its children lie in it, one after the other. -/
def Node.SpansChildren (n : Node) : Prop :=
  n.start ≤ n.stop ∧ (∀ c ∈ n.children, n.start ≤ c.start ∧ c.stop ≤ n.stop) ∧
    n.children.IsChain fun c d => c.stop ≤ d.start

instance (n : Node) : Decidable n.SpansChildren :=
  inferInstanceAs (Decidable (_ ∧ _ ∧ _))

/-- All spans of a tree are as they should be. -/
def Node.WellSpanned (root : Node) : Prop :=
  ∀ v ∈ walk root, v.node.SpansChildren

instance (root : Node) : Decidable root.WellSpanned :=
  inferInstanceAs (Decidable (∀ v ∈ walk root, v.node.SpansChildren))

/-- The nodes of a subtree lie in the span of its root, and they come in the order in which they
start. For siblings, what lies before the first of them lies before all of their nodes. -/
theorem start_preorder :
    (∀ (n : Node) (above : List Place) (next : Nat),
      (∀ v ∈ preorder above next n, v.node.SpansChildren) →
      (∀ v ∈ preorder above next n, n.start ≤ v.node.start ∧ v.node.stop ≤ n.stop) ∧
      (preorder above next n).Pairwise fun v w => v.node.start ≤ w.node.start) ∧
    ∀ (cs : List Node) (above : List Place) (next : Nat),
      (∀ v ∈ preorderAll above next cs, v.node.SpansChildren) →
      (cs.IsChain fun c d => c.stop ≤ d.start) →
      (∀ lo, (∀ c ∈ cs.head?, lo ≤ c.start) →
        ∀ v ∈ preorderAll above next cs, lo ≤ v.node.start) ∧
      (∀ hi, (∀ c ∈ cs, c.stop ≤ hi) → ∀ v ∈ preorderAll above next cs, v.node.stop ≤ hi) ∧
      (preorderAll above next cs).Pairwise fun v w => v.node.start ≤ w.node.start := by
  refine Node.induction ?node ?nil ?cons
  case node =>
    intro l cs ih above next hspans
    rw [preorder] at hspans ⊢
    obtain ⟨⟨hroot, hinside, hchain⟩, hbelow⟩ := List.forall_mem_cons.1 hspans
    obtain ⟨hlo, hhi, hpairs⟩ := ih _ _ hbelow hchain
    have hstarts := hlo l.start fun c hc => (hinside c (List.mem_of_mem_head? hc)).1
    have hstops := hhi l.stop fun c hc => (hinside c hc).2
    refine ⟨List.forall_mem_cons.2 ⟨⟨Nat.le_refl _, Nat.le_refl _⟩, fun v hv => ?_⟩, ?_⟩
    · exact ⟨hstarts v hv, hstops v hv⟩
    · exact List.Pairwise.cons hstarts hpairs
  case nil =>
    intro above next _ _
    rw [preorderAll]
    simp
  case cons =>
    intro c cs ihc ihcs above next hspans hchain
    rw [preorderAll] at hspans ⊢
    obtain ⟨hfirst, hlater⟩ := List.forall_mem_append.1 hspans
    obtain ⟨hnext, hchain⟩ := List.isChain_cons.1 hchain
    obtain ⟨hc, hpairs⟩ := ihc _ _ hfirst
    obtain ⟨hlo, hhi, hpairs'⟩ := ihcs _ _ hlater hchain
    -- what comes after the first sibling starts after it
    have hafter := hlo c.stop hnext
    have hspan : c.start ≤ c.stop := (hfirst _ (mem_preorder_root above next c)).1
    refine ⟨?starts, ?stops, List.pairwise_append.2 ⟨hpairs, hpairs', ?across⟩⟩
    case starts =>
      intro lo hhead
      have hlo : lo ≤ c.start := hhead c rfl
      refine List.forall_mem_append.2 ⟨fun v hv => ?_, fun v hv => ?_⟩
      · exact Nat.le_trans hlo (hc v hv).1
      · exact Nat.le_trans hlo (Nat.le_trans hspan (hafter v hv))
    case stops =>
      intro hi hstops
      obtain ⟨hstop, hstops⟩ := List.forall_mem_cons.1 hstops
      refine List.forall_mem_append.2 ⟨fun v hv => ?_, hhi hi hstops⟩
      exact Nat.le_trans (hc v hv).2 hstop
    case across =>
      intro v hv w hw
      calc v.node.start ≤ v.node.stop := (hfirst v hv).1
        _ ≤ c.stop := (hc v hv).2
        _ ≤ w.node.start := hafter w hw

/-- A walk meets the nodes in the order in which they start. -/
theorem pairwise_start_walk {root : Node} (h : root.WellSpanned) :
    ((walk root).map (·.node)).Pairwise fun n m => n.start ≤ m.start := by
  unfold Node.WellSpanned at h
  rw [walk_eq_preorder] at h ⊢
  exact List.pairwise_map.2 (start_preorder.1 root [] 0 h).2

end Tree

/-! ## Records -/

/-- The nodes from which the records are read are those of the walk. -/
theorem map_node_sites (src : Source) :
    (∀ (n : Node) (path : List NamedNode) (madeUp : Nat) (above : List Place) (next : Nat),
      (sites src path madeUp n).1.map (·.node) = (Tree.preorder above next n).map (·.node)) ∧
    ∀ (cs : List Node) (path : List NamedNode) (madeUp : Nat) (above : List Place) (next : Nat),
      (sitesAll src path madeUp cs).1.map (·.node) =
        (Tree.preorderAll above next cs).map (·.node) := by
  refine Node.induction ?node ?nil ?cons
  case node =>
    intro l cs ih path madeUp above next
    have hhere : (NamedNode.of src path madeUp (.mk l cs)).1.node = .mk l cs := by
      unfold NamedNode.of
      split
      · split <;> rfl
      · rfl
    rw [sites, Tree.preorder, List.map_cons, List.map_cons, hhere, ih]
  case nil =>
    intro path madeUp above next
    rw [sitesAll, Tree.preorderAll]
    rfl
  case cons =>
    intro c cs ihc ihcs path madeUp above next
    rw [sitesAll, Tree.preorderAll, List.map_append, List.map_append, ihc, ihcs]

/-- The nodes from which the records are read come in the order in which they start. -/
theorem pairwise_start_sites (src : Source) {root : Node} (h : root.WellSpanned) :
    (sites src [] 0 root).1.Pairwise fun s s' => s.node.start ≤ s'.node.start := by
  have hwalk := Tree.pairwise_start_walk h
  rw [Tree.walk_eq_preorder, ← (map_node_sites src).1 root [] 0 [] 0] at hwalk
  exact (List.pairwise_map (R := fun n m : Node => n.start ≤ m.start)).1 hwalk

namespace Site

variable {t : ScanTarget} {s : Site}

theorem position_of_call {r : CallRecord} (h : s.call? t = some r) :
    r.line = s.node.line t.source ∧ r.column = s.node.column t.source := by
  unfold call? at h
  split at h
  · split at h
    · split at h
      · obtain rfl := Option.some.inj h
        exact ⟨rfl, rfl⟩
      · cases h
    · cases h
  · cases h

theorem span_of_function {f : FunctionRecord} (h : s.function? t = some f) :
    f.line = s.node.line t.source ∧ f.endLine = s.node.endLine t.source := by
  obtain ⟨name, -, rfl⟩ := Option.map_eq_some_iff.1 h
  exact ⟨rfl, rfl⟩

theorem line_of_import {r : ImportRecord} (h : s.import? t = some r) :
    r.line = s.node.line t.source := by
  unfold import? at h
  split at h
  · unfold ImportRecord.ofStatement? at h
    split at h
    · obtain rfl := Option.some.inj h
      rfl
    · cases h
  · split at h
    · simp only [ImportRecord.ofCall?, Option.bind_eq_bind, Option.bind_eq_some_iff] at h
      obtain ⟨callee, -, -, -, arguments, -, source, -, h⟩ := h
      obtain rfl := Option.some.inj h
      rfl
    · cases h

theorem line_of_export {r : ExportRecord} (h : s.export? t = some r) :
    r.line = s.node.line t.source := by
  unfold export? ExportRecord.ofStatement? at h
  split at h
  · split at h
    · obtain rfl := Option.some.inj h
      rfl
    · cases h
  · cases h

end Site

/-- The records of a unit stand in the order of the text, and no function ends before it begins. -/
structure SourceUnit.InSourceOrder (u : SourceUnit) : Prop where
  calls : u.calls.Pairwise fun r s => toLex (r.line, r.column) ≤ toLex (s.line, s.column)
  functions : u.functions.Pairwise fun f g => f.line ≤ g.line
  imports : u.imports.Pairwise fun r s => r.line ≤ s.line
  exports : u.exports.Pairwise fun r s => r.line ≤ s.line
  spans : ∀ f ∈ u.functions, f.line ≤ f.endLine

section Order

variable {src : Source} {found : List Site}
  (hfound : found.Pairwise fun s s' => s.node.start ≤ s'.node.start)

include hfound

/-- Records that have the lines of nodes that come in order. -/
theorem pairwise_line_filterMap {α : Type} {record? : Site → Option α} {line : α → Nat}
    (hline : ∀ {s r}, record? s = some r → line r = s.node.line src) :
    (found.filterMap record?).Pairwise fun r r' => line r ≤ line r' := by
  refine List.Pairwise.filterMap record? (fun s s' hstart r hr r' hr' => ?_) hfound
  rw [hline hr, hline hr']
  exact Nat.succ_le_succ (src.row_mono hstart)

theorem pairwise_position_calls (file moduleName : String) (denied : List String) :
    (found.filterMap (·.call? ⟨src, file, moduleName, denied⟩)).Pairwise fun r r' =>
      toLex (r.line, r.column) ≤ toLex (r'.line, r'.column) := by
  refine List.Pairwise.filterMap _ (fun s s' hstart r hr r' hr' => ?_) hfound
  obtain ⟨hline, hcolumn⟩ := Site.position_of_call hr
  obtain ⟨hline', hcolumn'⟩ := Site.position_of_call hr'
  rw [hline, hline', hcolumn, hcolumn', Prod.Lex.toLex_le_toLex]
  rcases Prod.Lex.toLex_le_toLex.1 (src.position_mono hstart) with hlt | ⟨heq, hle⟩
  · exact Or.inl (Nat.succ_lt_succ hlt)
  · exact Or.inr ⟨congrArg Nat.succ heq, hle⟩

end Order

theorem inSourceOrder_ofTree (src : Source) (denied : List String) (file : String) {root : Node}
    (h : root.WellSpanned) : (SourceUnit.ofTree src denied file root).InSourceOrder := by
  let t : ScanTarget := ⟨src, file, moduleNameOf file, denied⟩
  have hfound := Scan.extends_walk t root
  have hpairs := pairwise_start_sites src h
  have hfunctions := functions_ofTree src denied file root
  refine ⟨?calls, ?functions, ?imports, ?exports, ?spans⟩
  case calls =>
    dsimp only [SourceUnit.ofTree]
    rw [hfound.calls, List.nil_append]
    exact pairwise_position_calls hpairs file _ denied
  case functions =>
    rw [hfunctions]
    refine List.Pairwise.sublist (firstOfEach_sublist _ _) ?_
    exact pairwise_line_filterMap hpairs fun hf => (Site.span_of_function hf).1
  case imports =>
    dsimp only [SourceUnit.ofTree]
    rw [hfound.imports, List.nil_append]
    exact pairwise_line_filterMap hpairs Site.line_of_import
  case exports =>
    dsimp only [SourceUnit.ofTree]
    rw [hfound.exports, List.nil_append]
    exact pairwise_line_filterMap hpairs Site.line_of_export
  case spans =>
    intro f hf
    rw [hfunctions] at hf
    obtain ⟨s, hs, hrecord⟩ := List.mem_filterMap.1 ((firstOfEach_sublist _ _).subset hf)
    obtain ⟨hline, hendLine⟩ := Site.span_of_function hrecord
    -- the node of the record is one of the walk, so its span is in order
    have hnode : s.node ∈ (Tree.walk root).map (·.node) := by
      rw [Tree.walk_eq_preorder, ← (map_node_sites src).1 root [] 0 [] 0]
      exact List.mem_map_of_mem hs
    obtain ⟨v, hv, hvs⟩ := List.mem_map.1 hnode
    rw [hline, hendLine, ← hvs]
    exact Nat.succ_le_succ (src.row_mono (h v hv).1)

/-- The positions of the errors that are reported. -/
theorem pairwise_position_reported (src : Source) {t : ParsedTree} (h : t.root.WellSpanned) :
    (t.reported.map fun n => src.point n.start).Pairwise fun p q =>
      toLex (p.row, p.column) ≤ toLex (q.row, q.column) := by
  have herrors : t.root.errors.Pairwise fun n m => n.start ≤ m.start := by
    rw [← errorNodes_eq_errors]
    exact (Tree.pairwise_start_walk h).filter _
  have hreported : t.reported.Pairwise fun n m => n.start ≤ m.start := by
    unfold ParsedTree.reported
    split
    · exact herrors
    · exact List.Pairwise.nil
  exact List.pairwise_map.2 (hreported.imp fun hstart => src.position_mono hstart)

/-- **Records come in the order of the text.** For every source and every tree over it whose spans
nest and follow one another, calls come by line and column, and functions, imports and exports by
line; no function ends before it begins; and the errors are reported by line and column. A text that
is not refused gives these records and reports. -/
theorem records_in_source_order (src : Source) {t : ParsedTree} (hspans : t.root.WellSpanned)
    (opts : ParserOptions) (file language : String) :
    let positions := t.reported.map fun n => src.point n.start
    (SourceUnit.ofTree src opts.denied file t.root).InSourceOrder ∧
      (positions.Pairwise fun p q => toLex (p.row, p.column) ≤ toLex (q.row, q.column)) ∧
      (¬t.Refused opts.strict → ∃ r, ofParsedTree opts src file language t = .ok r ∧
        r.unit.InSourceOrder ∧ r.errors = positions.map errorReport ∧
        r.unit.syntaxErrors = r.errors) := by
  intro positions
  have horder := inSourceOrder_ofTree src opts.denied file hspans
  refine ⟨horder, pairwise_position_reported src hspans, fun haccepted => ?_⟩
  refine ⟨_, ofParsedTree_accepted opts src file language haccepted, ?_, ?_, rfl⟩
  · exact ⟨horder.calls, horder.functions, horder.imports, horder.exports, horder.spans⟩
  · rw [List.map_map]
    rfl

/-! ### Three lines -/

namespace ThreeLines

def source : Source := .ofString "import a from 'b';\nconst o = () => f(g());\n)"

/-- The tree of the text. The bracket on the third line is an error. -/
def root : Node :=
  .mk { kind := "program", start := 0, stop := 44 }
    [.mk { kind := "import_statement", start := 0, stop := 18 }
        [.mk { kind := "string", start := 14, stop := 17, field := some "source" } []],
      .mk { kind := "lexical_declaration", start := 19, stop := 42 }
        [.mk { kind := "variable_declarator", start := 25, stop := 41 }
          [.mk { kind := "identifier", start := 25, stop := 26, field := some "name" } [],
            .mk { kind := "arrow_function", start := 29, stop := 41, field := some "value" }
              [.mk { kind := "call_expression", start := 35, stop := 41, field := some "body" }
                [.mk { kind := "identifier", start := 35, stop := 36
                       field := some "function" } [],
                  .mk { kind := "arguments", start := 36, stop := 41
                        field := some "arguments" }
                    [.mk { kind := "call_expression", start := 37, stop := 40 }
                      [.mk { kind := "identifier", start := 37, stop := 38
                             field := some "function" } []]]]]]],
      .mk { kind := "ERROR", start := 43, stop := 44 } []]

def tree : ParsedTree := ⟨root, true⟩

end ThreeLines

/-- A call within a call comes after it, and the error comes last. -/
theorem records_in_source_order_threeLines :
    let src := ThreeLines.source
    let unit := SourceUnit.ofTree src defaultDenied "a.js" ThreeLines.root
    ThreeLines.tree.root.WellSpanned ∧ ¬ThreeLines.tree.Refused false ∧
      unit.calls.map (fun r => (r.target, r.line, r.column)) = [("f", 2, 16), ("g", 2, 18)] ∧
      unit.functions.map (fun f => (f.name, f.line, f.endLine)) = [("o", 2, 2)] ∧
      unit.InSourceOrder ∧
      ∃ r, ofParsedTree {} src "a.js" javascript ThreeLines.tree = .ok r ∧
        r.unit.InSourceOrder ∧ r.errors = [errorReport ⟨2, 0⟩] := by
  intro src unit
  have hspans : ThreeLines.tree.root.WellSpanned := by decide +kernel
  have haccepted : ¬ThreeLines.tree.Refused false :=
    fun h => absurd (ParsedTree.refused_iff.1 h) (by decide)
  have hpositions : ThreeLines.tree.reported.map (fun n => src.point n.start) = [⟨2, 0⟩] := by
    decide +kernel
  obtain ⟨horder, -, hparsed⟩ := records_in_source_order src hspans {} "a.js" javascript
  obtain ⟨r, hr, hunit, herrors, -⟩ := hparsed haccepted
  rw [hpositions] at herrors
  exact ⟨hspans, haccepted, by decide +kernel, by decide +kernel, horder, r, hr, hunit, herrors⟩

end CallFlow
