import Std.Data.String.ToNat
import CallFlow.Proofs.CallerNames
import CallFlow.Proofs.NamingRules
import CallFlow.Proofs.SyntaxErrors
import CallFlow.Unit.Session

/-!
# How made-up names are numbered

A function that neither has a name of its own nor is offered one by its surroundings gets the next
made-up name. The counter behind these names starts anew with every tree, and it moves on at such a
function and nowhere else. So the made-up names of a tree are `anonymous_0`, `anonymous_1` and so on
in pre-order (`map_name_filter_isMadeUp`), they differ (`anonymousName_injective`), and whichever
texts a session has read before does not matter (`readAll_eq_map`).

A function with a made-up name can still be missing from the records: if a function before it, on
the same line, has that very name as its own.
-/

namespace CallFlow

open CallFlow.Tree (Node Source Visit Place)

/-! ## Which names are made up -/

/-- Is the name of a visited function made up? Just then the counter moves on. -/
def isMadeUp (src : Source) (v : Visit) : Bool :=
  (resolveName src NamingRule.all v 0).2 == 1

/-- By the rules, a function of a tree is left without a name: it has none of its own, and the place
that could name it, if there is one, has none to offer. -/
def FallsBack (src : Source) (root : Node) (function : Place) : Prop :=
  (∀ own, Declares src function.node own → own = "") ∧
    ∀ a c name, NamingPlace root function a c → Offers src a.node c.node name → name = ""

theorem resolveName_of_isMadeUp {src : Source} {v : Visit} (h : isMadeUp src v = true)
    (counter : Nat) :
    resolveName src NamingRule.all v counter = (anonymousName counter, counter + 1) := by
  unfold isMadeUp resolveName at h
  unfold resolveName
  split at h
  · exact absurd h (by simp)
  · split at h
    · exact absurd h (by simp)
    · rfl

/-- A name that is not made up does not depend on the counter. -/
theorem resolveName_of_not_isMadeUp {src : Source} {v : Visit} (h : isMadeUp src v = false) :
    ∃ name, ∀ counter, resolveName src NamingRule.all v counter = (name, counter) := by
  unfold isMadeUp resolveName at h
  unfold resolveName
  split at h
  · exact ⟨_, fun _ => rfl⟩
  · split at h
    · exact ⟨_, fun _ => rfl⟩
    · exact absurd h (by simp)

theorem isMadeUp_iff_fallsBack {src : Source} {root : Node} {v : Visit}
    (hv : v ∈ Tree.walk root) (hf : v.node.isFunction = true) :
    isMadeUp src v = true ↔ FallsBack src root v.toPlace := by
  have hresolves := resolves_resolveName src hv hf 0
  unfold isMadeUp
  generalize resolveName src NamingRule.all v 0 = result at hresolves
  cases hresolves with
  | declared hname hne =>
    refine ⟨fun h => absurd h (by simp), fun h => ?_⟩
    exact absurd (h.1 _ hname) hne
  | surroundings _ hplace hoffers hne =>
    refine ⟨fun h => absurd h (by simp), fun h => ?_⟩
    exact absurd (h.2 _ _ _ hplace hoffers) hne
  | madeUp hown hother => exact ⟨fun _ => ⟨hown, hother⟩, fun _ => rfl⟩

/-! ## Their numbers -/

theorem anonymousName_injective : Function.Injective anonymousName := by
  intro m n h
  unfold anonymousName at h
  exact Nat.repr_inj.1 ((String.append_right_inj _).1 h)

/-- The made-up names of visited nodes count up from where the counter stands. -/
theorem map_name_filter_isMadeUp (src : Source) (vs : List Visit) (counter : Nat) :
    let fallen := (nameFunctions src counter vs).filter fun d => isMadeUp src d.1
    fallen.map (·.2) = (List.range' counter fallen.length).map anonymousName := by
  induction vs generalizing counter with
  | nil => rfl
  | cons v vs ih =>
    cases hf : v.node.isFunction with
    | false => simpa only [nameFunctions_cons_other hf] using ih counter
    | true =>
      cases hmade : isMadeUp src v with
      | true =>
        have hnext := ih (counter + 1)
        simp only [nameFunctions_cons_function hf, resolveName_of_isMadeUp hmade, List.filter_cons,
          hmade, if_true, List.map_cons, List.length_cons, List.range'_succ]
        exact congrArg (_ :: ·) hnext
      | false =>
        obtain ⟨name, hname⟩ := resolveName_of_not_isMadeUp hmade
        simpa only [nameFunctions_cons_function hf, hname, List.filter_cons, hmade,
          Bool.false_eq_true, if_false] using ih counter

/-! ## What is recorded of them -/

/-- The functions of a tree whose names are made up, in pre-order, with these names. -/
def madeUpNames (src : Source) (root : Node) : List (Visit × String) :=
  (nameFunctions src 0 (Tree.walk root)).filter fun d => isMadeUp src d.1

/-- How the functions of a tree are named and recorded, as far as made-up names are concerned. -/
structure CountsUp (t : ScanTarget) (root : Node) (functions : List FunctionRecord) : Prop where
  /-- Every function is named, in pre-order. -/
  named : (nameFunctions t.source 0 (Tree.walk root)).map (·.1) =
    (Tree.walk root).filter (·.node.isFunction)
  /-- These are the names that the walk notes. -/
  noted : ((Tree.walk root).foldl (Scan.add t) {}).names.reverse =
    (nameFunctions t.source 0 (Tree.walk root)).map fun d => (d.1.index, d.2)
  /-- Of functions with the same name and line the first is recorded. -/
  recorded : functions = firstOfEach FunctionRecord.key
    ((nameFunctions t.source 0 (Tree.walk root)).map t.record)
  /-- A name is made up where the rules leave a function without one. -/
  fallsBack : ∀ v ∈ Tree.walk root, v.node.isFunction = true →
    (isMadeUp t.source v = true ↔ FallsBack t.source root v.toPlace)
  numbered : (madeUpNames t.source root).map (·.2) =
    (List.range (madeUpNames t.source root).length).map anonymousName
  nodupKeys : ((madeUpNames t.source root).map fun d => (t.record d).key).Nodup
  /-- What is recorded in place of such a function is no other such function. -/
  kept : ∀ d ∈ madeUpNames t.source root, ∀ e,
    (nameFunctions t.source 0 (Tree.walk root)).find?
        (fun e => (t.record e).key == (t.record d).key) = some e →
      t.record e ∈ functions ∧ (e = d ∨ isMadeUp t.source e.1 = false)

theorem map_name_madeUpNames (src : Source) (root : Node) :
    (madeUpNames src root).map (·.2) =
      (List.range (madeUpNames src root).length).map anonymousName := by
  rw [List.range_eq_range']
  exact map_name_filter_isMadeUp src (Tree.walk root) 0

/-- The keys of functions with made-up names differ, because the names do. -/
theorem nodup_key_madeUpNames (t : ScanTarget) (root : Node) :
    ((madeUpNames t.source root).map fun d => (t.record d).key).Nodup := by
  have hnames : ((madeUpNames t.source root).map fun d => (t.record d).key).map
      FunctionKey.name = (madeUpNames t.source root).map (·.2) := by
    rw [List.map_map]
    rfl
  refine List.Nodup.of_map FunctionKey.name ?_
  rw [hnames, map_name_madeUpNames]
  exact List.nodup_range.map anonymousName_injective

/-- A record is kept if the search for its key finds it. -/
theorem record_mem_of_find (t : ScanTarget) {named : List (Visit × String)} {k : FunctionKey}
    {e : Visit × String} (h : named.find? (fun e => (t.record e).key == k) = some e) :
    t.record e ∈ firstOfEach FunctionRecord.key (named.map t.record) := by
  have hkey : (t.record e).key = k := by simpa using List.find?_some h
  rw [mem_firstOfEach_iff, List.find?_map, hkey]
  exact congrArg (Option.map t.record) h

theorem countsUp_ofTree (src : Source) (denied : List String) (file : String) (root : Node) :
    CountsUp ⟨src, file, moduleNameOf file, denied⟩ root
      (SourceUnit.ofTree src denied file root).functions := by
  let t : ScanTarget := ⟨src, file, moduleNameOf file, denied⟩
  have hrecorded := functions_eq_firstOfEach src denied file root
  refine ⟨map_fst_nameFunctions src _ 0, ?noted, hrecorded,
    fun v hv hf => isMadeUp_iff_fallsBack hv hf, map_name_madeUpNames src root,
    nodup_key_madeUpNames t root, ?kept⟩
  case noted =>
    rw [(Scan.foldl_add_named t (Tree.walk root) {}).1, List.append_nil, List.reverse_reverse]
  case kept =>
    intro d hd e he
    refine ⟨by rw [hrecorded]; exact record_mem_of_find t he, ?_⟩
    cases hmade : isMadeUp src e.1 with
    | false => exact Or.inr rfl
    | true =>
      have hmem : e ∈ madeUpNames src root :=
        List.mem_filter.2 ⟨List.mem_of_find?_eq_some he, hmade⟩
      have hkey : (t.record e).key = (t.record d).key := by simpa using List.find?_some he
      exact Or.inl (List.inj_on_of_nodup_map (nodup_key_madeUpNames t root) hmem hd hkey)

/-! ## Text after text -/

namespace ParseSession

/-- Every extractor that is kept has the deny-list of the session. -/
def Uniform (s : ParseSession) : Prop :=
  ∀ e ∈ s.extractors, e.2.denied = s.options.denied

theorem Uniform.extractor_denied {s : ParseSession} (h : s.Uniform) (language : String) :
    (s.extractor language).denied = s.options.denied := by
  unfold extractor
  cases hfound : s.extractors.lookup language with
  | none => rfl
  | some e =>
    obtain ⟨before, after, hsplit, -⟩ := List.lookup_eq_some_iff.1 hfound
    exact h (language, e) (by rw [hsplit]; simp)

theorem Uniform.keep {s : ParseSession} (h : s.Uniform) (language : String) :
    (s.keep language).Uniform := by
  intro e he
  unfold ParseSession.keep insertNew at he
  dsimp only at he
  split at he
  · exact h e he
  · rcases List.mem_append.1 he with he | he
    · exact h e he
    · rw [List.mem_singleton.1 he]
      exact h.extractor_denied language

/-- One text: it is read as if it were the first, and the session stays as it should be. -/
theorem Uniform.read {s : ParseSession} (h : s.Uniform) (makeTree : String → Option ParsedTree)
    (q : ReadRequest) :
    (s.read makeTree q).1 = parseSource s.options makeTree q.text q.file q.language ∧
      (s.read makeTree q).2.options = s.options ∧ (s.read makeTree q).2.Uniform := by
  unfold ParseSession.read
  cases hl : chooseLanguage q.file q.language with
  | none =>
    refine ⟨?_, rfl, h⟩
    rw [parseSource, hl]
  | some l =>
    have hopts : { s.options with denied := (s.extractor l).denied } = s.options := by
      rw [h.extractor_denied l]
    dsimp only
    rw [hopts]
    cases parseSource s.options makeTree q.text q.file q.language with
    | error e => exact ⟨rfl, rfl, h⟩
    | ok parsed => exact ⟨rfl, rfl, h.keep l⟩

/-- All texts: each is read as if it were the only one. -/
theorem Uniform.readAll_eq_map (makeTree : String → Option ParsedTree) (qs : List ReadRequest) :
    ∀ {s : ParseSession}, s.Uniform → s.readAll makeTree qs =
      qs.map fun q => parseSource s.options makeTree q.text q.file q.language := by
  induction qs with
  | nil => intro s _; rfl
  | cons q qs ih =>
    intro s h
    obtain ⟨houtcome, hoptions, huniform⟩ := h.read makeTree q
    have hstep : s.readAll makeTree (q :: qs) =
        (s.read makeTree q).1 :: (s.read makeTree q).2.readAll makeTree qs := rfl
    rw [hstep, List.map_cons, houtcome, ih huniform, hoptions]

end ParseSession

/-- **Made-up names are numbered anew in every text.** Of the texts that a session reads, each one
that is accepted gives the same records as if it were read alone. Those of its functions that the
rules leave without a name are called `anonymous_0`, `anonymous_1` and so on, in pre-order; no two
of them have the same key, and if one of them is not recorded, it is for a function whose name is
not made up. -/
theorem made_up_names_count_up (opts : ParserOptions) (makeTree : String → Option ParsedTree)
    (requests : List ReadRequest) {i : Nat} {q : ReadRequest} {t : ParsedTree}
    (hq : requests[i]? = some q) (hl : chooseLanguage q.file q.language = some javascript)
    (ht : makeTree q.text = some t) (haccepted : ¬t.Refused opts.strict) :
    let src := Source.ofString q.text
    let file := shownFile q.file
    let parsed := acceptedSource opts.denied src file javascript t
    (ParseSession.readAll makeTree { options := opts } requests)[i]? = some (.ok parsed) ∧
      CountsUp ⟨src, file, moduleNameOf file, opts.denied⟩ t.root parsed.unit.functions := by
  intro src file parsed
  have huniform : ParseSession.Uniform { options := opts } :=
    fun e he => absurd he (List.not_mem_nil)
  refine ⟨?_, countsUp_ofTree src opts.denied file t.root⟩
  rw [huniform.readAll_eq_map, List.getElem?_map, hq, Option.map_some]
  rw [parseSource_of_tree opts hl ht, ofParsedTree_accepted opts src file javascript haccepted]
  rfl

/-! ### Two functions without a name, twice -/

namespace TwoArrows

def text : String := "()=>0;()=>1"

def root : Node :=
  .mk { kind := "program", start := 0, stop := 11 }
    [.mk { kind := "arrow_function", start := 0, stop := 5 } [],
      .mk { kind := "arrow_function", start := 6, stop := 11 } []]

def tree : ParsedTree := ⟨root, false⟩

end TwoArrows

/-- The functions of the second text are numbered as those of the first. -/
theorem made_up_names_count_up_twoArrows :
    let q : ReadRequest := { text := TwoArrows.text, file := some "b.js" }
    let requests := [{ q with file := some "a.js" }, q]
    let src := Source.ofString TwoArrows.text
    let parsed := acceptedSource defaultDenied src "b.js" javascript TwoArrows.tree
    chooseLanguage q.file q.language = some javascript ∧ ¬TwoArrows.tree.Refused false ∧
      parsed.unit.functions.map (·.name) = ["anonymous_0", "anonymous_1"] ∧
      (ParseSession.readAll (fun _ => some TwoArrows.tree) {} requests)[1]? =
        some (.ok parsed) ∧
      CountsUp ⟨src, "b.js", moduleNameOf "b.js", defaultDenied⟩ TwoArrows.root
        parsed.unit.functions := by
  intro q requests src parsed
  have hl : chooseLanguage q.file q.language = some javascript := by decide +kernel
  have haccepted : ¬TwoArrows.tree.Refused false := fun h => absurd h.1 (by decide)
  have hq : requests[1]? = some q := rfl
  exact ⟨hl, haccepted, by decide +kernel,
    made_up_names_count_up {} (fun _ => some TwoArrows.tree) requests hq hl rfl haccepted⟩

end CallFlow
