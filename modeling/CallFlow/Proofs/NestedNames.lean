import CallFlow.Proofs.MadeUpNames

/-!
# Nothing outside a function shows in the functions inside it

Two trees over two texts read alike if they agree node by node in kind, field and text; where they
stand in their texts does not matter (`ReadsLike`). Whatever is taken from a node of such a tree —
names, parameters, callees — is the same for both (`declaredName_congr`, `offer_congr`,
`parameterNames_congr`, `callNames_congr`).

A function inside another one is named by what lies between the two (`offeredName_congr`). So if a
function has the same inside in two trees, all functions inside it are named alike, whatever
surrounds it; only the numbers of made-up names may differ: `names_within_function`.
-/

namespace CallFlow

open CallFlow.Tree (Node Source Place Visit)

/-! ## Trees that read alike -/

namespace Tree

mutual

/-- Do two trees, each over its own source, agree in kinds, fields and texts? -/
def Node.readsLike (src src' : Source) : Node → Node → Bool
  | .mk l cs, .mk l' cs' =>
    l.kind == l'.kind && l.field == l'.field && l.named == l'.named &&
      (Node.mk l cs).text src == (Node.mk l' cs').text src' && Node.allReadLike src src' cs cs'

/-- The same for two lists of trees. -/
def Node.allReadLike (src src' : Source) : List Node → List Node → Bool
  | [], [] => true
  | c :: cs, c' :: cs' => c.readsLike src src' c' && Node.allReadLike src src' cs cs'
  | _, _ => false

end

/-- The trees `n` over `src` and `n'` over `src'` say the same, wherever they stand. -/
def ReadsLike (src src' : Source) (n n' : Node) : Prop :=
  n.readsLike src src' n' = true

instance (src src' : Source) (n n' : Node) : Decidable (ReadsLike src src' n n') :=
  inferInstanceAs (Decidable (_ = true))

section

variable {src src' : Source}

theorem allReadLike_iff {cs cs' : List Node} :
    Node.allReadLike src src' cs cs' = true ↔ List.Forall₂ (ReadsLike src src') cs cs' := by
  induction cs generalizing cs' with
  | nil => cases cs' <;> simp [Node.allReadLike]
  | cons c cs ih => cases cs' <;> simp [Node.allReadLike, ih, ReadsLike]

theorem readsLike_iff {n n' : Node} :
    ReadsLike src src' n n' ↔
      n.kind = n'.kind ∧ n.label.field = n'.label.field ∧ n.isNamed = n'.isNamed ∧
        n.text src = n'.text src' ∧ List.Forall₂ (ReadsLike src src') n.children n'.children := by
  obtain ⟨l, cs⟩ := n
  obtain ⟨l', cs'⟩ := n'
  simp only [ReadsLike, Node.readsLike, Bool.and_eq_true, beq_iff_eq, allReadLike_iff, and_assoc]
  rfl

namespace ReadsLike

variable {n n' : Node}

theorem kind (h : ReadsLike src src' n n') : n.kind = n'.kind := (readsLike_iff.1 h).1

theorem field (h : ReadsLike src src' n n') : n.label.field = n'.label.field :=
  (readsLike_iff.1 h).2.1

theorem isNamed (h : ReadsLike src src' n n') : n.isNamed = n'.isNamed := (readsLike_iff.1 h).2.2.1

theorem text (h : ReadsLike src src' n n') : n.text src = n'.text src' :=
  (readsLike_iff.1 h).2.2.2.1

theorem children (h : ReadsLike src src' n n') :
    List.Forall₂ (ReadsLike src src') n.children n'.children :=
  (readsLike_iff.1 h).2.2.2.2

theorem isFunction (h : ReadsLike src src' n n') : n.isFunction = n'.isFunction := by
  rw [Node.isFunction, Node.isFunction, h.kind, h.isNamed]

theorem namedChildren (h : ReadsLike src src' n n') :
    List.Forall₂ (ReadsLike src src') n.namedChildren n'.namedChildren := by
  refine List.rel_filter (fun c c' hc => ?_) h.children
  simp only [hc.isNamed]

end ReadsLike

/-- Searches in lists of trees that read alike find trees that read alike. -/
theorem find?_cases_of_readsLike {p : Node → Bool}
    (hp : ∀ {n n'}, ReadsLike src src' n n' → p n = p n') {ns ns' : List Node}
    (h : List.Forall₂ (ReadsLike src src') ns ns') :
    (ns.find? p = none ∧ ns'.find? p = none) ∨
      ∃ c c', ns.find? p = some c ∧ ns'.find? p = some c' ∧ ReadsLike src src' c c' := by
  induction h with
  | nil => exact Or.inl ⟨rfl, rfl⟩
  | @cons n n' ns ns' hn _ ih =>
    by_cases hfound : p n = true
    · have hfound' : p n' = true := hp hn ▸ hfound
      exact Or.inr ⟨n, n', List.find?_cons_of_pos hfound, List.find?_cons_of_pos hfound', hn⟩
    · have hnot' : ¬p n' = true := hp hn ▸ hfound
      rw [List.find?_cons_of_neg hfound, List.find?_cons_of_neg hnot']
      exact ih

theorem ReadsLike.child_cases {n n' : Node} (h : ReadsLike src src' n n') (field : String) :
    (n.child? field = none ∧ n'.child? field = none) ∨
      ∃ c c', n.child? field = some c ∧ n'.child? field = some c' ∧ ReadsLike src src' c c' :=
  find?_cases_of_readsLike (fun hc => by simp only [hc.field]) h.children

/-- The scopes of trees that read alike. -/
theorem scope_readsLike :
    (∀ (n n' : Node) (i j : Nat), ReadsLike src src' n n' →
      List.Forall₂ (ReadsLike src src') ((scope i n).map (·.node)) ((scope j n').map (·.node))) ∧
    ∀ (cs cs' : List Node) (i j : Nat), List.Forall₂ (ReadsLike src src') cs cs' →
      List.Forall₂ (ReadsLike src src') ((scopeAll i cs).map (·.node))
        ((scopeAll j cs').map (·.node)) := by
  refine Node.induction ?node ?nil ?cons
  case node =>
    intro l cs ih n' i j h
    obtain ⟨l', cs'⟩ := n'
    rw [scope, scope]
    by_cases hf : (Node.mk l cs).isFunction = true
    · rw [if_pos hf, if_pos (h.isFunction ▸ hf)]
      exact .nil
    · rw [if_neg hf, if_neg (h.isFunction ▸ hf)]
      exact .cons h (ih cs' _ _ h.children)
  case nil =>
    intro cs' i j h
    cases h
    exact .nil
  case cons =>
    intro c cs ihc ihcs cs' i j h
    obtain ⟨c', cs', hc, hcs, rfl⟩ := List.forall₂_cons_left_iff.1 h
    rw [scopeAll, scopeAll, List.map_append, List.map_append]
    exact List.rel_append (ihc c' _ _ hc) (ihcs cs' _ _ hcs)

end

end Tree

open CallFlow.Tree (ReadsLike)

/-! ## What is taken from them -/

section Taken

variable {src src' : Source}

theorem filterMap_congr_of_readsLike {α : Type} {f g : Node → Option α}
    (hfg : ∀ {n n'}, ReadsLike src src' n n' → f n = g n') {ns ns' : List Node}
    (h : List.Forall₂ (ReadsLike src src') ns ns') : ns.filterMap f = ns'.filterMap g := by
  induction h with
  | nil => rfl
  | cons hn _ ih => rw [List.filterMap_cons, List.filterMap_cons, hfg hn, ih]

theorem stringValue_congr {n n' : Node} (h : ReadsLike src src' n n') :
    stringValue src n = stringValue src' n' := by
  rw [stringValue, stringValue, h.text]

theorem keyName_congr {n n' : Node} (h : ReadsLike src src' n n') :
    keyName? src n = keyName? src' n' := by
  rw [keyName?, keyName?, h.kind, h.text, stringValue_congr h]

/-- What a child gives that reads alike. -/
theorem bind_child_congr {α : Type} {f g : Node → Option α}
    (hfg : ∀ {c c'}, ReadsLike src src' c c' → f c = g c') {n n' : Node}
    (h : ReadsLike src src' n n') (field : String) :
    (n.child? field).bind f = (n'.child? field).bind g := by
  rcases h.child_cases field with ⟨hc, hc'⟩ | ⟨c, c', hc, hc', halike⟩
  · rw [hc, hc']
    rfl
  · rw [hc, hc']
    exact hfg halike

theorem declaredName_congr {n n' : Node} (h : ReadsLike src src' n n') :
    declaredName? src n = declaredName? src' n' := by
  have hname : (n.child? "name").map (·.text src) = (n'.child? "name").map (·.text src') := by
    rw [Option.map_eq_bind, Option.map_eq_bind]
    exact bind_child_congr (fun hc => congrArg some hc.text) h "name"
  rw [declaredName?, declaredName?, h.kind, hname, bind_child_congr keyName_congr h "name"]

/-- A rule says the same at ancestors that read alike. -/
theorem offer_congr {a a' c c' : Node} (ha : ReadsLike src src' a a') (hc : ReadsLike src src' c c')
    (isArgument : Bool) (rule : NamingRule) :
    rule.offer src isArgument a c = rule.offer src' isArgument a' c' := by
  cases rule with
  | variableBinding =>
    rw [NamingRule.offer, NamingRule.offer, ha.kind]
    rcases ha.child_cases "name" with ⟨ht, ht'⟩ | ⟨t, t', ht, ht', htarget⟩
    · rw [ht, ht']
    · rw [ht, ht']
      dsimp only
      rw [htarget.kind, htarget.text]
  | propertyKey =>
    rw [NamingRule.offer, NamingRule.offer, ha.kind, bind_child_congr keyName_congr ha "key",
      bind_child_congr keyName_congr ha "property"]
  | callbackRegistration =>
    simp only [NamingRule.offer, ha.kind, hc.kind, Option.bind_eq_bind]
    refine congrArg _ (funext fun _ => congrArg _ (funext fun _ => ?_))
    refine bind_child_congr (fun hcallee => ?_) ha "function"
    rw [hcallee.kind]
    refine congrArg _ (funext fun _ => ?_)
    refine bind_child_congr (fun hobject => ?_) hcallee "object"
    refine bind_child_congr (fun hproperty => ?_) hcallee "property"
    rw [hobject.kind, hobject.text, hproperty.text]
    refine congrArg _ (funext fun _ => ?_)
    rcases Tree.find?_cases_of_readsLike (p := (·.kind == "string")) (fun hn => by rw [hn.kind])
      hc.namedChildren with ⟨hs, hs'⟩ | ⟨s, s', hs, hs', hevent⟩
    · rw [hs, hs']
    · rw [hs, hs']
      dsimp only
      rw [stringValue_congr hevent]

/-- The search outward from a function ends at the next function `F`, so it does not depend on what
lies further out, nor on `F` itself. -/
theorem offeredName_congr {rules : List NamingRule} {F F' : Node} (hF : F.isFunction = true)
    (hF' : F'.isFunction = true) (outer outer' : List Node) {inner inner' : List Node}
    (h : List.Forall₂ (ReadsLike src src') inner inner') :
    ∀ {child child' : Node} (steps : Nat), ReadsLike src src' child child' →
      offeredName? src rules steps child (inner ++ F :: outer) =
        offeredName? src' rules steps child' (inner' ++ F' :: outer') := by
  induction h with
  | nil =>
    intro child child' steps _
    rw [List.nil_append, List.nil_append, offeredName?, offeredName?, if_pos hF, if_pos hF']
  | @cons a a' inner inner' ha _ ih =>
    intro child child' steps hchild
    have hoffer : (fun rule : NamingRule => rule.offer src (steps == 1) a child) =
        fun rule => rule.offer src' (steps == 1) a' child' :=
      funext fun rule => offer_congr ha hchild _ rule
    rw [List.cons_append, List.cons_append, offeredName?, offeredName?, ha.isFunction, hoffer,
      ih (steps + 1) ha]

theorem givenName_congr {F F' : Node} (hF : F.isFunction = true) (hF' : F'.isFunction = true)
    (outer outer' : List Node) {inner inner' : List Node}
    (h : List.Forall₂ (ReadsLike src src') inner inner') {n n' : Node}
    (hn : ReadsLike src src' n n') :
    givenName? src (inner ++ F :: outer) n = givenName? src' (inner' ++ F' :: outer') n' := by
  rw [givenName?, givenName?, declaredName_congr hn, offeredName_congr hF hF' outer outer' h 0 hn]

theorem parameterName_congr {n n' : Node} (h : ReadsLike src src' n n') :
    parameterName src n = parameterName src' n' := by
  rw [parameterName, parameterName, h.kind, h.text]

theorem parameterNames_congr {n n' : Node} (h : ReadsLike src src' n n') :
    parameterNames src n = parameterNames src' n' := by
  unfold parameterNames
  rcases h.child_cases "parameter" with ⟨hs, hs'⟩ | ⟨s, s', hs, hs', hsingle⟩
  · rw [hs, hs']
    rcases h.child_cases "parameters" with ⟨hl, hl'⟩ | ⟨l, l', hl, hl', hlist⟩
    · rw [hl, hl']
    · rw [hl, hl']
      have hkept := List.rel_filter (p := (·.kind != "comment")) (q := (·.kind != "comment"))
        (fun c c' hc => by simp only [hc.kind]) hlist.namedChildren
      dsimp only
      rw [← List.filterMap_eq_map, ← List.filterMap_eq_map]
      exact filterMap_congr_of_readsLike (fun hc => congrArg some (parameterName_congr hc)) hkept
  · rw [hs, hs']
    exact congrArg (fun text => [text]) hsingle.text

theorem callee_congr {n n' : Node} (h : ReadsLike src src' n n') :
    Callee.of? src n = Callee.of? src' n' := by
  unfold Callee.of?
  refine bind_child_congr (fun hcallee => ?_) h "function"
  rw [hcallee.kind, hcallee.text]
  refine if_congr Iff.rfl rfl (if_congr Iff.rfl ?_ rfl)
  refine bind_child_congr (fun hproperty => ?_) hcallee "property"
  rw [hproperty.text]
  rcases hcallee.child_cases "object" with ⟨ho, ho'⟩ | ⟨o, o', ho, ho', hobject⟩
  · rw [ho, ho']
  · rw [ho, ho']
    dsimp only
    rw [hobject.kind, hobject.text]

/-- Functions that read alike make the same calls. -/
theorem callNames_congr (denied : List String) {n n' : Node} (h : ReadsLike src src' n n') :
    CallNames.ofFunction src denied n = CallNames.ofFunction src' denied n' := by
  unfold CallNames.ofFunction
  rcases h.child_cases "body" with ⟨hb, hb'⟩ | ⟨b, b', hb, hb', hbody⟩
  · rw [hb, hb']
  · rw [hb, hb']
    dsimp only
    rw [Tree.walkScope_eq_scope, Tree.walkScope_eq_scope]
    have hcalls := List.rel_filter (p := (·.kind == "call_expression"))
      (q := (·.kind == "call_expression")) (fun c c' hc => by simp only [hc.kind])
      (Tree.scope_readsLike.1 b b' 0 0 hbody)
    rw [filterMap_congr_of_readsLike callee_congr hcalls]

end Taken

/-! ## Inside a function -/

/-- Two visits, of one tree below `F` and of another below `F'`, reach nodes that read alike, at the
same distance and by paths that read alike. -/
structure Corresponds (src src' : Source) (F F' v v' : Visit) : Prop where
  node : ReadsLike src src' v.node v'.node
  offset : v.index + F'.index = v'.index + F.index
  path : ∃ inner inner' : List Place,
    v.ancestors = inner ++ F.toPlace :: F.ancestors ∧
      v'.ancestors = inner' ++ F'.toPlace :: F'.ancestors ∧
      List.Forall₂ (fun p p' => ReadsLike src src' p.node p'.node) inner inner'

section Inside

variable {src src' : Source}

theorem Tree.size_of_readsLike :
    (∀ n n' : Node, ReadsLike src src' n n' → n.size = n'.size) ∧
    ∀ cs cs' : List Node, List.Forall₂ (ReadsLike src src') cs cs' →
      Node.sizeAll cs = Node.sizeAll cs' := by
  refine Node.induction ?node ?nil ?cons
  case node =>
    intro l cs ih n' h
    rw [Node.size_eq, Node.size_eq]
    exact congrArg (1 + ·) (ih n'.children h.children)
  case nil =>
    intro cs' h
    cases h
    rfl
  case cons =>
    intro c cs ihc ihcs cs' h
    obtain ⟨c', cs', hc, hcs, rfl⟩ := List.forall₂_cons_left_iff.1 h
    rw [Node.sizeAll, Node.sizeAll, ihc c' hc, ihcs cs' hcs]

/-- Trees that read alike are visited alike. The induction carries the part of the path that lies
below the two functions. -/
theorem corresponds_preorder (F F' : Visit) :
    (∀ (n n' : Node) (inner inner' : List Place) (next next' : Nat), ReadsLike src src' n n' →
      next + F'.index = next' + F.index →
      List.Forall₂ (fun p p' => ReadsLike src src' p.node p'.node) inner inner' →
      List.Forall₂ (Corresponds src src' F F')
        (Tree.preorder (inner ++ F.toPlace :: F.ancestors) next n)
        (Tree.preorder (inner' ++ F'.toPlace :: F'.ancestors) next' n')) ∧
    ∀ (cs cs' : List Node) (inner inner' : List Place) (next next' : Nat),
      List.Forall₂ (ReadsLike src src') cs cs' → next + F'.index = next' + F.index →
      List.Forall₂ (fun p p' => ReadsLike src src' p.node p'.node) inner inner' →
      List.Forall₂ (Corresponds src src' F F')
        (Tree.preorderAll (inner ++ F.toPlace :: F.ancestors) next cs)
        (Tree.preorderAll (inner' ++ F'.toPlace :: F'.ancestors) next' cs') := by
  refine Node.induction ?node ?nil ?cons
  case node =>
    intro l cs ih n' inner inner' next next' h hoffset hpath
    obtain ⟨l', cs'⟩ := n'
    rw [Tree.preorder, Tree.preorder]
    refine .cons ⟨h, hoffset, inner, inner', rfl, rfl, hpath⟩ ?_
    exact ih cs' (⟨next, .mk l cs⟩ :: inner) (⟨next', .mk l' cs'⟩ :: inner') _ _ h.children
      (by omega) (.cons h hpath)
  case nil =>
    intro cs' inner inner' next next' h _ _
    cases h
    exact .nil
  case cons =>
    intro c cs ihc ihcs cs' inner inner' next next' h hoffset hpath
    obtain ⟨c', cs', hc, hcs, rfl⟩ := List.forall₂_cons_left_iff.1 h
    have hsize := Tree.size_of_readsLike.1 c c' hc
    rw [Tree.preorderAll, Tree.preorderAll]
    exact List.rel_append (ihc c' _ _ _ _ hc hoffset hpath)
      (ihcs cs' _ _ _ _ hcs (by omega) hpath)

/-- The nodes strictly below a node of the walk are the visits of its children. -/
theorem Tree.filter_encloses_walk {root : Node} {w : Visit} (hw : w ∈ walk root) :
    (walk root).filter (fun v => w.toPlace.Encloses v.toPlace) =
      preorderAll (w.toPlace :: w.ancestors) (w.index + 1) w.node.children := by
  have hsplit : preorder w.ancestors w.index w.node =
      w :: preorderAll (w.toPlace :: w.ancestors) (w.index + 1) w.node.children := by
    obtain ⟨⟨i, ⟨l, cs⟩⟩, above⟩ := w
    rw [preorder]
    rfl
  have hbelow : ∀ v ∈ preorderAll (w.toPlace :: w.ancestors) (w.index + 1) w.node.children,
      w.index ≠ v.index := by
    intro v hv
    have := (path_of_mem_preorder.2 _ _ _ v hv).1
    omega
  have hfilter : (walk root).filter (fun v => w.toPlace.Encloses v.toPlace) =
      ((walk root).filter (·.liesIn w.toPlace)).filter (fun v => w.index ≠ v.index) := by
    rw [List.filter_filter]
    refine List.filter_congr fun v hv => ?_
    rw [Bool.eq_iff_iff, Bool.and_eq_true, liesIn_iff_index hv hw, decide_eq_true_iff,
      decide_eq_true_iff, Place.Encloses]
    omega
  rw [hfilter, filter_liesIn_walk hw, hsplit, List.filter_cons_of_neg (by simp),
    List.filter_eq_self.2 (by simpa using hbelow)]

end Inside

/-! ## The functions inside -/

/-- The functions of a tree that lie strictly inside `F`, with their names. -/
def functionsWithin (src : Source) (root : Node) (F : Place) : List (Visit × String) :=
  (nameFunctions src 0 (Tree.walk root)).filter fun d => F.Encloses d.1.toPlace

theorem map_fst_functionsWithin {src : Source} {root : Node} {F : Visit} (hF : F ∈ Tree.walk root) :
    (functionsWithin src root F.toPlace).map (·.1) =
      (Tree.preorderAll (F.toPlace :: F.ancestors) (F.index + 1) F.node.children).filter
        (·.node.isFunction) := by
  rw [← Tree.filter_encloses_walk hF, List.filter_comm, ← map_fst_nameFunctions src _ 0,
    List.filter_map]
  rfl

/-- A name is found in the function and on its path, or it is made up. -/
theorem resolveName_cases {src : Source} {root : Node} {v : Visit} (hv : v ∈ Tree.walk root)
    (counter : Nat) :
    let given := givenName? src (v.ancestors.map (·.node)) v.node
    let name := (resolveName src NamingRule.all v counter).1
    (given = none ∧ isMadeUp src v = true ∧ name = anonymousName counter) ∨
      (given = some name ∧ isMadeUp src v = false) := by
  have hresolve := @resolveName_eq src v (fun p hp => ((Tree.mem_ancestors_iff hv).1 hp).2.1)
    ((Tree.ancestors_pairwise hv).imp And.left)
  unfold isMadeUp
  rw [hresolve counter, hresolve 0]
  cases givenName? src (v.ancestors.map (·.node)) v.node with
  | none => exact Or.inl ⟨rfl, rfl, rfl⟩
  | some name => exact Or.inr ⟨rfl, rfl⟩

theorem exists_counter_of_mem_nameFunctions {src : Source} {v : Visit} {name : String}
    {vs : List Visit} : ∀ {counter : Nat}, (v, name) ∈ nameFunctions src counter vs →
      ∃ k, name = (resolveName src NamingRule.all v k).1 := by
  induction vs with
  | nil => exact fun h => absurd h (List.not_mem_nil)
  | cons w vs ih =>
    intro counter h
    cases hf : w.node.isFunction with
    | false =>
      rw [nameFunctions_cons_other hf] at h
      exact ih h
    | true =>
      rw [nameFunctions_cons_function hf] at h
      rcases List.mem_cons.1 h with heq | h
      · obtain ⟨rfl, rfl⟩ := Prod.mk.inj heq
        exact ⟨counter, rfl⟩
      · exact ih h

/-- Two functions, one inside `F` and one inside `F'`, with their names: they stand at the same
place there, both names are made up or they are equal, and so are parameters and calls. -/
structure NamedAlike (t t' : ScanTarget) (F F' : Visit) (d d' : Visit × String) : Prop where
  offset : d.1.index + F'.index = d'.1.index + F.index
  node : ReadsLike t.source t'.source d.1.node d'.1.node
  name : (isMadeUp t.source d.1 = true ∧ isMadeUp t'.source d'.1 = true ∧
      (∃ k, d.2 = anonymousName k) ∧ ∃ k, d'.2 = anonymousName k) ∨
    (isMadeUp t.source d.1 = false ∧ isMadeUp t'.source d'.1 = false ∧ d.2 = d'.2)
  parameters : (t.record d).parameters = (t'.record d').parameters
  calls : (t.record d).calls = (t'.record d').calls
  directCalls : (t.record d).directCalls = (t'.record d').directCalls

/-- Functions that correspond have the same name unless it is made up. -/
theorem Corresponds.namedAlike {t t' : ScanTarget} {root root' : Node} {F F' : Visit}
    (hF : F.node.isFunction = true) (hF' : F'.node.isFunction = true)
    (hdenied : t.denied = t'.denied) {d d' : Visit × String}
    (hd : d ∈ nameFunctions t.source 0 (Tree.walk root))
    (hd' : d' ∈ nameFunctions t'.source 0 (Tree.walk root'))
    (h : Corresponds t.source t'.source F F' d.1 d'.1) : NamedAlike t t' F F' d d' := by
  obtain ⟨inner, inner', hpath, hpath', hinner⟩ := h.path
  have hgiven : givenName? t.source (d.1.ancestors.map (·.node)) d.1.node =
      givenName? t'.source (d'.1.ancestors.map (·.node)) d'.1.node := by
    rw [hpath, hpath', List.map_append, List.map_append, List.map_cons, List.map_cons]
    refine givenName_congr hF hF' _ _ ?_ h.node
    exact List.forall₂_map_left_iff.2 (List.forall₂_map_right_iff.2 hinner)
  have hcalls := callNames_congr t.denied h.node
  refine ⟨h.offset, h.node, ?name, parameterNames_congr h.node, ?calls, ?directCalls⟩
  case name =>
    obtain ⟨k, hk⟩ := exists_counter_of_mem_nameFunctions hd
    obtain ⟨k', hk'⟩ := exists_counter_of_mem_nameFunctions hd'
    rw [hk, hk']
    rcases resolveName_cases (mem_of_mem_nameFunctions hd).1 k with
      ⟨hnone, hmade, hname⟩ | ⟨hsome, hmade⟩ <;>
    rcases resolveName_cases (mem_of_mem_nameFunctions hd').1 k' with
      ⟨hnone', hmade', hname'⟩ | ⟨hsome', hmade'⟩
    · exact Or.inl ⟨hmade, hmade', ⟨k, hname⟩, k', hname'⟩
    · exact absurd (hnone.symm.trans (hgiven.trans hsome')) (by simp)
    · exact absurd (hsome.symm.trans (hgiven.trans hnone')) (by simp)
    · exact Or.inr ⟨hmade, hmade', Option.some.inj (hsome.symm.trans (hgiven.trans hsome'))⟩
  case calls =>
    simp only [ScanTarget.record, FunctionRecord.ofNode, ← hdenied, hcalls]
  case directCalls =>
    simp only [ScanTarget.record, FunctionRecord.ofNode, ← hdenied, hcalls]

/-- **Nothing outside a function shows in the names and calls of the functions inside it.** Let two
trees, each over its own text, hold functions `F` and `F'` with the same inside, at any place and in
any surroundings. Then the functions inside `F` are those inside `F'`, one by one, and each has the
same parameters and calls in both trees and also the same name, unless its name is made up in both.
The records of a tree are made from these names, the first for each name and line. -/
theorem names_within_function {src src' : Source} {root root' : Node} {F F' : Visit}
    (hF : F ∈ Tree.walk root) (hF' : F' ∈ Tree.walk root')
    (hfun : F.node.isFunction = true) (hfun' : F'.node.isFunction = true)
    (hsame : List.Forall₂ (ReadsLike src src') F.node.children F'.node.children)
    (denied : List String) (file file' : String) :
    let t : ScanTarget := ⟨src, file, moduleNameOf file, denied⟩
    let t' : ScanTarget := ⟨src', file', moduleNameOf file', denied⟩
    List.Forall₂ (NamedAlike t t' F F') (functionsWithin src root F.toPlace)
        (functionsWithin src' root' F'.toPlace) ∧
      (SourceUnit.ofTree src denied file root).functions = firstOfEach FunctionRecord.key
        ((nameFunctions src 0 (Tree.walk root)).map t.record) ∧
      (SourceUnit.ofTree src' denied file' root').functions = firstOfEach FunctionRecord.key
        ((nameFunctions src' 0 (Tree.walk root')).map t'.record) := by
  intro t t'
  refine ⟨?_, functions_eq_firstOfEach src denied file root,
    functions_eq_firstOfEach src' denied file' root'⟩
  have hvisits := (corresponds_preorder F F').2 _ _ [] [] (F.index + 1) (F'.index + 1) hsame
    (by omega) .nil
  have hfunctions := List.rel_filter (p := (·.node.isFunction)) (q := (·.node.isFunction))
    (fun v v' hv => by simp only [hv.node.isFunction]) hvisits
  rw [List.nil_append, List.nil_append, ← map_fst_functionsWithin hF,
    ← map_fst_functionsWithin hF', List.forall₂_map_left_iff, List.forall₂_map_right_iff,
    List.forall₂_iff_zip] at hfunctions
  obtain ⟨hlength, hpairs⟩ := hfunctions
  refine List.forall₂_iff_zip.2 ⟨hlength, fun {d d'} hmem => ?_⟩
  obtain ⟨hd, hd'⟩ := List.of_mem_zip hmem
  have hcorresponds : Corresponds t.source t'.source F F' d.1 d'.1 := hpairs hmem
  have hdenied : t.denied = t'.denied := rfl
  exact hcorresponds.namedAlike hfun hfun' hdenied (List.mem_filter.1 hd).1
    (List.mem_filter.1 hd').1

/-! ### One function in two surroundings -/

namespace TwoSurroundings

/-- The function `(p) => [() => g(p), { k: () => h() }]`, at the given offset. -/
def function (start : Nat) (field : Option String) : Node :=
  .mk { kind := "arrow_function", start := start, stop := start + 37, field := field }
    [.mk { kind := "formal_parameters", start := start, stop := start + 3
           field := some "parameters" }
        [.mk { kind := "identifier", start := start + 1, stop := start + 2 } []],
      .mk { kind := "array", start := start + 7, stop := start + 37, field := some "body" }
        [OneBinding.arrow (start + 8) (start + 18) (start + 14),
          .mk { kind := "object", start := start + 20, stop := start + 36 }
            [.mk { kind := "pair", start := start + 22, stop := start + 34 }
              [.mk { kind := "property_identifier", start := start + 22, stop := start + 23
                     field := some "key" } [],
                (OneBinding.arrow (start + 25) (start + 34) (start + 31)).inField "value"]]]]

/-- The function as the value of a variable. -/
def bound : Source := .ofString "const o = (p) => [() => g(p), { k: () => h() }];"

def boundRoot : Node :=
  .mk { kind := "program", start := 0, stop := 48 }
    [.mk { kind := "lexical_declaration", start := 0, stop := 48 }
      [.mk { kind := "variable_declarator", start := 6, stop := 47 }
        [.mk { kind := "identifier", start := 6, stop := 7, field := some "name" } [],
          function 10 (some "value")]]]

/-- The function as a callback, after another function without a name. -/
def passed : Source := .ofString "() => 0; x.on('e', (p) => [() => g(p), { k: () => h() }]);"

def passedRoot : Node :=
  .mk { kind := "program", start := 0, stop := 58 }
    [.mk { kind := "expression_statement", start := 0, stop := 8 }
        [.mk { kind := "arrow_function", start := 0, stop := 7 } []],
      .mk { kind := "expression_statement", start := 9, stop := 58 }
        [.mk { kind := "call_expression", start := 9, stop := 57 }
          [.mk { kind := "member_expression", start := 9, stop := 13, field := some "function" }
              [.mk { kind := "identifier", start := 9, stop := 10, field := some "object" } [],
                .mk { kind := "property_identifier", start := 11, stop := 13
                      field := some "property" } []],
            .mk { kind := "arguments", start := 13, stop := 57, field := some "arguments" }
              [.mk { kind := "string", start := 14, stop := 17 } [], function 19 none]]]]

end TwoSurroundings

/-- The two functions inside are `anonymous_0` and `k` in one text and `anonymous_1` and `k` in the
other, although the function around them is `o` in one and `x.on_e` in the other. -/
theorem names_within_function_twoSurroundings :
    let src := TwoSurroundings.bound
    let src' := TwoSurroundings.passed
    let root := TwoSurroundings.boundRoot
    let root' := TwoSurroundings.passedRoot
    (nameFunctions src 0 (Tree.walk root)).map (·.2) = ["o", "anonymous_0", "k"] ∧
      (nameFunctions src' 0 (Tree.walk root')).map (·.2) =
        ["anonymous_0", "x.on_e", "anonymous_1", "k"] ∧
      ∃ F ∈ Tree.walk root, ∃ F' ∈ Tree.walk root', F.node.isFunction = true ∧
        F'.node.isFunction = true ∧
        List.Forall₂ (ReadsLike src src') F.node.children F'.node.children ∧
        (functionsWithin src root F.toPlace).map (·.2) = ["anonymous_0", "k"] ∧
        List.Forall₂ (NamedAlike ⟨src, "a.js", moduleNameOf "a.js", defaultDenied⟩
            ⟨src', "b.js", moduleNameOf "b.js", defaultDenied⟩ F F')
          (functionsWithin src root F.toPlace) (functionsWithin src' root' F'.toPlace) := by
  intro src src' root root'
  obtain ⟨F, hF, F', hF', hfun, hfun', hsame, hwithin⟩ :
      ∃ F ∈ Tree.walk root, ∃ F' ∈ Tree.walk root', F.node.isFunction = true ∧
        F'.node.isFunction = true ∧
        List.Forall₂ (ReadsLike src src') F.node.children F'.node.children ∧
        (functionsWithin src root F.toPlace).map (·.2) = ["anonymous_0", "k"] := by
    decide +kernel
  exact ⟨by decide +kernel, by decide +kernel, F, hF, F', hF', hfun, hfun', hsame, hwithin,
    (names_within_function hF hF' hfun hfun' hsame defaultDenied "a.js" "b.js").1⟩

end CallFlow
