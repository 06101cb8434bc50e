import CallFlow.Proofs.Walk
import CallFlow.Unit.Parse

/-!
# Which texts are refused for their syntax errors

A tree may hold error nodes, and it may be marked as holding errors; the mark and the nodes need not
agree. `ParsedTree.Refused` says, on the tree alone, when a text is refused: the mark is set, there
is an error node, and the reading is strict or the tree holds no statement that could be used.

* `errorNodes_eq_errors` — the error nodes that the walk finds are those of the tree in pre-order;
* `ofParsedTree_refused`, `ofParsedTree_accepted` — what comes out for a tree in either case;
* `parseSource_verdict` — the same for a text, and the comparison of strict and lenient reading.
-/

namespace CallFlow

open CallFlow.Tree (Node Source)

/-! ## Error nodes -/

namespace Tree.Node

mutual

/-- The nodes of a tree that are errors or made up by error recovery, each before those below it. -/
def errors : Node → List Node
  | .mk l cs => (if l.kind = "ERROR" ∨ l.missing = true then [.mk l cs] else []) ++ errorsAll cs

/-- The same for a list of trees. -/
def errorsAll : List Node → List Node
  | [] => []
  | c :: cs => c.errors ++ errorsAll cs

end

/-- Does a child of the root stand for a statement? Punctuation and comments do not. -/
def IsStatement (n : Node) : Prop :=
  n.isNamed = true ∧ n.kind ≠ "comment"

end Tree.Node

theorem isErrorNode_iff {l : Tree.Label} {cs : List Node} :
    isErrorNode (.mk l cs) = true ↔ l.kind = "ERROR" ∨ l.missing = true := by
  rw [isErrorNode, Bool.or_eq_true, beq_iff_eq]
  rfl

/-- The error nodes among the visits of a subtree. -/
theorem filter_isErrorNode_preorder :
    (∀ (n : Node) (above : List Tree.Place) (next : Nat),
      ((Tree.preorder above next n).map (·.node)).filter isErrorNode = n.errors) ∧
    ∀ (cs : List Node) (above : List Tree.Place) (next : Nat),
      ((Tree.preorderAll above next cs).map (·.node)).filter isErrorNode =
        Node.errorsAll cs := by
  refine Node.induction ?node ?nil ?cons
  case node =>
    intro l cs ih above next
    rw [Tree.preorder, Node.errors, List.map_cons, List.filter_cons, ih]
    by_cases h : isErrorNode (.mk l cs) = true
    · rw [if_pos h, if_pos (isErrorNode_iff.1 h)]
      rfl
    · rw [if_neg h, if_neg (fun h' => h (isErrorNode_iff.2 h'))]
      rfl
  case nil =>
    intro above next
    rw [Tree.preorderAll, Node.errorsAll]
    rfl
  case cons =>
    intro c cs ihc ihcs above next
    rw [Tree.preorderAll, Node.errorsAll, List.map_append, List.filter_append, ihc, ihcs]

/-- The error nodes that the walk finds are those of the tree in pre-order. -/
theorem errorNodes_eq_errors (root : Node) : errorNodes root = root.errors := by
  rw [errorNodes, Tree.walk_eq_preorder]
  exact filter_isErrorNode_preorder.1 root [] 0

/-! ## The verdict on a tree -/

/-- Is a text with this tree refused? -/
def ParsedTree.Refused (t : ParsedTree) (strict : Bool) : Prop :=
  t.hasError = true ∧ t.root.errors ≠ [] ∧
    (strict = true ∨ t.root.kind = "ERROR" ∨
      ((∃ c ∈ t.root.children, c.IsStatement) ∧
        ∀ c ∈ t.root.children, c.IsStatement → c.kind = "ERROR"))

/-- The errors of a tree that are reported: none if the tree is not marked. -/
def ParsedTree.reported (t : ParsedTree) : List Node :=
  if t.hasError = true then t.root.errors else []

/-- The report of an error at a point, with line and column from 1. -/
def errorReport (p : Tree.Point) : String :=
  "Syntax error at line " ++ toString (p.row + 1) ++ ", column " ++ toString (p.column + 1)

/-- The records of a text whose tree is accepted. -/
def acceptedSource (denied : List String) (src : Source) (file language : String)
    (t : ParsedTree) : ParsedSource :=
  let reports := t.reported.map fun n => errorReport (src.point n.start)
  { unit := { SourceUnit.ofTree src denied file t.root with syntaxErrors := reports }
    file := file, language := language, errors := reports
    success := decide (reports = []) }

/-- The error for a text whose tree is refused, at the first of its error nodes. -/
def refusal (src : Source) (file : String) (first : Node) : ParserError :=
  { fault := .unusableTree, file := some file
    line := some ((src.point first.start).row + 1)
    column := some ((src.point first.start).column + 1) }

theorem isUnusable_iff {root : Node} :
    isUnusable root = true ↔ root.kind = "ERROR" ∨
      ((∃ c ∈ root.children, c.IsStatement) ∧
        ∀ c ∈ root.children, c.IsStatement → c.kind = "ERROR") := by
  have hmem {c : Node} : c ∈ root.namedChildren.filter (·.kind != "comment") ↔
      c ∈ root.children ∧ c.IsStatement := by
    rw [Node.namedChildren, List.filter_filter, List.mem_filter, Node.IsStatement]
    simp [and_comm]
  rw [isUnusable, Bool.or_eq_true, Bool.and_eq_true, List.all_eq_true, beq_iff_eq,
    Bool.not_eq_true', ← Bool.not_eq_true, List.isEmpty_iff]
  refine or_congr_right (and_congr ?_ ?_)
  · rw [List.eq_nil_iff_forall_not_mem, not_forall]
    simp only [hmem, not_not]
  · simp only [hmem, and_imp, beq_iff_eq]

theorem countedErrors_eq_reported (t : ParsedTree) : countedErrors t = t.reported := by
  rw [countedErrors, errorNodes_eq_errors]
  rfl

theorem ParsedTree.refused_iff {t : ParsedTree} {strict : Bool} :
    t.Refused strict ↔ t.reported ≠ [] ∧ (strict || isUnusable t.root) = true := by
  rw [Refused, reported, Bool.or_eq_true, isUnusable_iff]
  cases t.hasError <;> simp

/-- What is refused in a lenient reading is refused in a strict one. -/
theorem ParsedTree.Refused.toStrict {t : ParsedTree} (h : t.Refused false) : t.Refused true :=
  ⟨h.1, h.2.1, Or.inl rfl⟩

section Tree

variable (opts : ParserOptions) (src : Source) (file language : String) {t : ParsedTree}

theorem accept_eq (t : ParsedTree) :
    ofParsedTree.accept opts src file language t (countedErrors t) =
      .ok (acceptedSource opts.denied src file language t) := by
  have hempty (reports : List String) : reports.isEmpty = decide (reports = []) := by
    cases reports <;> simp
  rw [ofParsedTree.accept, countedErrors_eq_reported, acceptedSource, hempty]
  rfl

/-- A refused tree gives the position of its first error node. -/
theorem ofParsedTree_refused (h : t.Refused opts.strict) :
    ∃ first rest, t.root.errors = first :: rest ∧
      ofParsedTree opts src file language t = .error (refusal src file first) := by
  obtain ⟨-, hbad⟩ := ParsedTree.refused_iff.1 h
  obtain ⟨first, rest, hfirst⟩ := List.exists_cons_of_ne_nil h.2.1
  have hcounted : countedErrors t = first :: rest := by
    rw [countedErrors_eq_reported, ParsedTree.reported, if_pos h.1, hfirst]
  refine ⟨first, rest, hfirst, ?_⟩
  rw [ofParsedTree, hcounted]
  exact if_pos hbad

/-- Any other tree gives its records, and its errors with them. -/
theorem ofParsedTree_accepted (h : ¬t.Refused opts.strict) :
    ofParsedTree opts src file language t =
      .ok (acceptedSource opts.denied src file language t) := by
  rw [ofParsedTree, ← accept_eq]
  cases hcounted : countedErrors t with
  | nil => rfl
  | cons first rest =>
    have hgood : ¬(opts.strict || isUnusable t.root) = true := by
      intro hbad
      refine h (ParsedTree.refused_iff.2 ⟨?_, hbad⟩)
      rw [← countedErrors_eq_reported, hcounted]
      exact List.cons_ne_nil _ _
    exact if_neg hgood

/-- Strict reading succeeds only where lenient reading does, and with the same result. -/
theorem ofParsedTree_lenient {r : ParsedSource}
    (h : ofParsedTree { opts with strict := true } src file language t = .ok r) :
    ofParsedTree { opts with strict := false } src file language t = .ok r := by
  by_cases hstrict : t.Refused true
  · obtain ⟨first, rest, -, herror⟩ :=
      ofParsedTree_refused { opts with strict := true } src file language hstrict
    rw [herror] at h
    cases h
  · rw [ofParsedTree_accepted { opts with strict := true } src file language hstrict] at h
    rw [ofParsedTree_accepted { opts with strict := false } src file language
      (fun hlenient => hstrict hlenient.toStrict)]
    exact h

/-- Lenient reading fails only where strict reading does, and with the same error. -/
theorem ofParsedTree_strict {e : ParserError}
    (h : ofParsedTree { opts with strict := false } src file language t = .error e) :
    ofParsedTree { opts with strict := true } src file language t = .error e := by
  by_cases hlenient : t.Refused false
  · obtain ⟨first, rest, hfirst, herror⟩ :=
      ofParsedTree_refused { opts with strict := false } src file language hlenient
    obtain ⟨first', rest', hfirst', herror'⟩ :=
      ofParsedTree_refused { opts with strict := true } src file language hlenient.toStrict
    obtain ⟨rfl, -⟩ := List.cons.inj (hfirst.symm.trans hfirst')
    rw [herror', ← herror, h]
  · rw [ofParsedTree_accepted { opts with strict := false } src file language hlenient] at h
    cases h

end Tree

/-! ## The verdict on a text -/

/-- The name under which a text is read. -/
def shownFile (file : Option String) : String :=
  (file.filter (!·.isEmpty)).getD "<string>"

section Text

variable {makeTree : String → Option ParsedTree} {text : String} {file language : Option String}

/-- A text in the language that has a grammar: what counts is its tree. -/
theorem parseSource_of_tree (opts : ParserOptions) {t : ParsedTree}
    (hl : chooseLanguage file language = some javascript) (ht : makeTree text = some t) :
    parseSource opts makeTree text file language =
      (ofParsedTree opts (Source.ofString text) (shownFile file) javascript t).mapError
        .parser := by
  have hknown : (extractorLanguage? javascript).isNone = false := by decide +kernel
  have htree : treeOf makeTree text javascript = .ok t := by
    rw [treeOf, if_neg (by simp), ht]
  rw [parseSource, hl]
  simp only
  rw [hknown, if_neg Bool.false_ne_true, htree]
  rfl

/-- What does not depend on the tree does not depend on how strict the reading is. -/
theorem parseSource_cases (opts : ParserOptions) :
    (∃ e, ∀ strict, parseSource { opts with strict := strict } makeTree text file language =
      .error e) ∨
    (∃ l t, ∀ strict, parseSource { opts with strict := strict } makeTree text file language =
      (ofParsedTree { opts with strict := strict } (Source.ofString text) (shownFile file) l
        t).mapError .parser) := by
  unfold parseSource
  cases chooseLanguage file language with
  | none => exact Or.inl ⟨_, fun _ => rfl⟩
  | some l =>
    dsimp only
    by_cases hknown : (extractorLanguage? l).isNone = true
    · exact Or.inl ⟨_, fun _ => if_pos hknown⟩
    · simp only [if_neg hknown]
      cases treeOf makeTree text l with
      | error e => exact Or.inl ⟨_, fun _ => rfl⟩
      | ok t => exact Or.inr ⟨l, t, fun _ => rfl⟩

theorem parseSource_lenient (opts : ParserOptions) {r : ParsedSource}
    (h : parseSource { opts with strict := true } makeTree text file language = .ok r) :
    parseSource { opts with strict := false } makeTree text file language = .ok r := by
  rcases @parseSource_cases makeTree text file language opts with ⟨e, he⟩ | ⟨l, t, ht⟩
  · rw [he true] at h
    cases h
  · rw [ht true] at h
    rw [ht false]
    cases hparsed : ofParsedTree { opts with strict := true } (Source.ofString text)
        (shownFile file) l t with
    | error e =>
      rw [hparsed] at h
      cases h
    | ok r' => rw [ofParsedTree_lenient opts _ _ _ hparsed, ← h, hparsed]

theorem parseSource_strict (opts : ParserOptions) {e : ParseFailure}
    (h : parseSource { opts with strict := false } makeTree text file language = .error e) :
    parseSource { opts with strict := true } makeTree text file language = .error e := by
  rcases @parseSource_cases makeTree text file language opts with ⟨e', he⟩ | ⟨l, t, ht⟩
  · rw [he true, ← he false, h]
  · rw [ht false] at h
    rw [ht true]
    cases hparsed : ofParsedTree { opts with strict := false } (Source.ofString text)
        (shownFile file) l t with
    | error e' => rw [ofParsedTree_strict opts _ _ _ hparsed, ← h, hparsed]
    | ok r =>
      rw [hparsed] at h
      cases h

end Text

/-- **The verdict on syntax errors.** A text with a tree is refused just if the tree is marked, holds
an error node, and is read strictly or has no statement that could be used; the error gives the
position of the first error node. Any other text gives the records of its tree, with a report of
every error node in pre-order, or of none if the tree is not marked. Whatever strict reading
accepts, lenient reading accepts with the same result; and whatever lenient reading refuses, strict
reading refuses with the same error. -/
theorem parseSource_verdict (opts : ParserOptions) (makeTree : String → Option ParsedTree)
    (text : String) (file language : Option String) :
    (∀ t, chooseLanguage file language = some javascript → makeTree text = some t →
      let src := Source.ofString text
      let outcome := parseSource opts makeTree text file language
      ((∃ e, e.fault = .unusableTree ∧ outcome = .error (.parser e)) ↔ t.Refused opts.strict) ∧
      (t.Refused opts.strict → ∃ first rest, t.root.errors = first :: rest ∧
        outcome = .error (.parser (refusal src (shownFile file) first))) ∧
      (¬t.Refused opts.strict →
        outcome = .ok (acceptedSource opts.denied src (shownFile file) javascript t))) ∧
    (∀ r, parseSource { opts with strict := true } makeTree text file language = .ok r →
      parseSource { opts with strict := false } makeTree text file language = .ok r) ∧
    ∀ e, parseSource { opts with strict := false } makeTree text file language = .error e →
      parseSource { opts with strict := true } makeTree text file language = .error e := by
  refine ⟨?_, fun r => parseSource_lenient opts, fun e => parseSource_strict opts⟩
  intro t hl ht src outcome
  have houtcome : outcome =
      (ofParsedTree opts src (shownFile file) javascript t).mapError .parser :=
    parseSource_of_tree opts hl ht
  have hrefused (h : t.Refused opts.strict) : ∃ first rest, t.root.errors = first :: rest ∧
      outcome = .error (.parser (refusal src (shownFile file) first)) := by
    obtain ⟨first, rest, hfirst, herror⟩ :=
      ofParsedTree_refused opts src (shownFile file) javascript h
    exact ⟨first, rest, hfirst, by rw [houtcome, herror]; rfl⟩
  have haccepted (h : ¬t.Refused opts.strict) :
      outcome = .ok (acceptedSource opts.denied src (shownFile file) javascript t) := by
    rw [houtcome, ofParsedTree_accepted opts src (shownFile file) javascript h]
    rfl
  refine ⟨⟨?_, fun h => ?_⟩, hrefused, haccepted⟩
  · rintro ⟨e, -, he⟩
    by_contra hnot
    rw [haccepted hnot] at he
    cases he
  · obtain ⟨first, rest, -, herror⟩ := hrefused h
    exact ⟨_, rfl, herror⟩

/-! ### A stray bracket on the second line -/

namespace StrayBracket

def text : String := "a\n)"

def root : Node :=
  .mk { kind := "program", start := 0, stop := 3 }
    [.mk { kind := "expression_statement", start := 0, stop := 1 } [],
      .mk { kind := "ERROR", start := 2, stop := 3 } []]

def tree : ParsedTree := ⟨root, true⟩

end StrayBracket

/-- The text is refused when it is read strictly; otherwise the error is reported. -/
theorem parseSource_verdict_strayBracket :
    let parse strict := parseSource { strict := strict } (fun _ => some StrayBracket.tree)
      StrayBracket.text (some "a.js") none
    let src := Source.ofString StrayBracket.text
    chooseLanguage (some "a.js") none = some javascript ∧
      StrayBracket.tree.Refused true ∧ ¬StrayBracket.tree.Refused false ∧
      (acceptedSource defaultDenied src "a.js" javascript StrayBracket.tree).errors =
        ["Syntax error at line 2, column 1"] ∧
      (∃ first rest, StrayBracket.root.errors = first :: rest ∧
        parse true = .error (.parser (refusal src "a.js" first))) ∧
      parse false = .ok (acceptedSource defaultDenied src "a.js" javascript StrayBracket.tree) := by
  intro parse src
  have hl : chooseLanguage (some "a.js") none = some javascript := by decide +kernel
  have hstrict : StrayBracket.tree.Refused true := ParsedTree.refused_iff.2 (by decide)
  have hlenient : ¬StrayBracket.tree.Refused false :=
    fun h => absurd (ParsedTree.refused_iff.1 h) (by decide)
  obtain ⟨-, hrefused, -⟩ := (parseSource_verdict { strict := true }
    (fun _ => some StrayBracket.tree) StrayBracket.text (some "a.js") none).1 _ hl rfl
  obtain ⟨-, -, haccepted⟩ := (parseSource_verdict { strict := false }
    (fun _ => some StrayBracket.tree) StrayBracket.text (some "a.js") none).1 _ hl rfl
  exact ⟨hl, hstrict, hlenient, by decide +kernel, hrefused hstrict, haccepted hlenient⟩

end CallFlow
