import Mathlib.Data.List.TakeWhile
import Mathlib.Data.Option.Basic
import CallFlow.Proofs.Enclosing
import CallFlow.Unit.Naming

/-!
# The rules by which functions are named

A function is named by its own declaration or by its surroundings, or its name is made up. Here the
rules are written down as relations on the tree, without a search (`Resolves`), and the search is
shown to follow them: `resolveName_iff_resolves`.

What decides is the innermost place that can name the function at all (`NamingPlace`), even if it
has no name to offer (`Offers`): then the name is made up, and nothing further out is asked.
-/

namespace CallFlow

open CallFlow.Tree (Node Source Place Visit places IsInnermostFunction)

/-! ## The rules -/

/-- The characters of a string literal without its quotes. A text too short to have both stands for
itself. -/
inductive Unquoted : List Char → List Char → Prop
  | quoted (opening closing : Char) (value : List Char) :
      Unquoted (opening :: (value ++ [closing])) value
  | short (text : List Char) : text.length < 2 → Unquoted text text

/-- The name that a property key spells out. Computed keys spell none. -/
inductive KeySpells (src : Source) (key : Node) : String → Prop
  | plain : key.kind ∈ ["property_identifier", "private_property_identifier", "identifier",
      "number"] → KeySpells src key (key.text src)
  | string {value : String} : key.kind = "string" →
      Unquoted (key.text src).toList value.toList → KeySpells src key value

/-- The name that stands in a definition itself. -/
inductive Declares (src : Source) (n : Node) : String → Prop
  | plain {name : Node} : n.kind ∈ ["function_declaration", "generator_function_declaration",
      "function_expression", "generator_function"] → n.child? "name" = some name →
      Declares src n (name.text src)
  | method {key : Node} {name : String} : n.kind = "method_definition" →
      n.child? "name" = some key → KeySpells src key name → Declares src n name

/-- A call of a method of an object that is a plain name. -/
def IsMethodCall (call object property : Node) : Prop :=
  ∃ callee, call.child? "function" = some callee ∧ callee.kind = "member_expression" ∧
    callee.child? "object" = some object ∧ object.kind = "identifier" ∧
    callee.child? "property" = some property

/-- Can a function take its name from the ancestor `a`, entered through `c`? -/
def CanName (function a c : Place) : Prop :=
  a.node.kind ∈ ["variable_declarator", "pair", "field_definition"] ∨
    (a.node.kind = "call_expression" ∧ c.node.kind = "arguments" ∧
      function ∈ c.children.filter (·.node.isNamed) ∧
      ∃ object property, IsMethodCall a.node object property)

/-- An ancestor, entered through `c`, from which a function can take its name, and which lies below
the innermost function around it. -/
structure NamingCandidate (root : Node) (function a c : Place) : Prop where
  mem : a ∈ places root
  encloses : a.Encloses function
  enters : a.EntersThrough c function
  inScope : ∀ F, IsInnermostFunction root function F → F.Encloses a
  canName : CanName function a c

/-- The innermost ancestor from which a function can take its name. -/
structure NamingPlace (root : Node) (function a c : Place) : Prop
    extends NamingCandidate root function a c where
  innermost : ∀ b d, NamingCandidate root function b d → b = a ∨ b.Encloses a

/-- The word for what a callback waits for: the first string among the arguments. -/
inductive EventWord (src : Source) (arguments : Node) : String → Prop
  | event {before after : List Node} {literal : Node} {value : String} :
      arguments.namedChildren = before ++ literal :: after →
      (∀ n ∈ before, n.kind ≠ "string") → literal.kind = "string" →
      Unquoted (literal.text src).toList value.toList → EventWord src arguments value
  | handler : (∀ n ∈ arguments.namedChildren, n.kind ≠ "string") →
      EventWord src arguments "handler"

/-- The name that an ancestor, entered through `c`, has for a function. -/
inductive Offers (src : Source) (a c : Node) : String → Prop
  | variableBinding {target : Node} : a.kind = "variable_declarator" →
      a.child? "name" = some target → target.kind = "identifier" → Offers src a c (target.text src)
  | memberKey {key : Node} {name : String} : a.kind = "pair" → a.child? "key" = some key →
      KeySpells src key name → Offers src a c name
  | fieldName {key : Node} {name : String} : a.kind = "field_definition" →
      a.child? "property" = some key → KeySpells src key name → Offers src a c name
  | callback {object property : Node} {event : String} : a.kind = "call_expression" →
      IsMethodCall a object property → EventWord src c event →
      Offers src a c (object.text src ++ "." ++ property.text src ++ "_" ++ event)

/-- The name of a function of a tree and the counter for made-up names after it. -/
inductive Resolves (src : Source) (root : Node) (function : Place) (counter : Nat) :
    String × Nat → Prop
  | declared {name : String} : Declares src function.node name → name ≠ "" →
      Resolves src root function counter (name, counter)
  | surroundings {a c : Place} {name : String} :
      (∀ own, Declares src function.node own → own = "") → NamingPlace root function a c →
      Offers src a.node c.node name → name ≠ "" → Resolves src root function counter (name, counter)
  | madeUp : (∀ own, Declares src function.node own → own = "") →
      (∀ a c name, NamingPlace root function a c → Offers src a.node c.node name → name = "") →
      Resolves src root function counter (anonymousName counter, counter + 1)

/-! ## Spelled names -/

theorem stringValue_eq_iff {src : Source} {n : Node} {value : String} :
    stringValue src n = value ↔ Unquoted (n.text src).toList value.toList := by
  unfold stringValue
  generalize (n.text src).toList = text
  dsimp only
  constructor
  · rintro rfl
    by_cases hlen : text.length ≥ 2
    · rw [if_pos hlen, String.toList_ofList]
      match text, hlen with
      | opening :: second :: rest, _ =>
        have hne : second :: rest ≠ [] := List.cons_ne_nil _ _
        have := Unquoted.quoted opening ((second :: rest).getLast hne) (second :: rest).dropLast
        rwa [List.dropLast_append_getLast hne] at this
    · rw [if_neg hlen, String.toList_ofList]
      exact .short text (Nat.lt_of_not_le hlen)
  · intro h
    rw [← String.toList_inj]
    generalize value.toList = chars at h
    cases h with
    | quoted opening closing =>
      rw [if_pos (by simp), String.toList_ofList]
      simp
    | short _ hlen => rw [if_neg (Nat.not_le_of_lt hlen), String.toList_ofList]

theorem keyName_eq_some_iff {src : Source} {key : Node} {name : String} :
    keyName? src key = some name ↔ KeySpells src key name := by
  unfold keyName?
  constructor
  · intro h
    split at h
    case h_5 => exact .string ‹_› (stringValue_eq_iff.1 (Option.some.inj h))
    case h_6 => exact absurd h (by simp)
    all_goals
      rename_i hk
      obtain rfl := Option.some.inj h
      exact .plain (by simp [hk])
  · rintro (hk | ⟨hk, hvalue⟩)
    · simp only [List.mem_cons, List.not_mem_nil, or_false] at hk
      rcases hk with hk | hk | hk | hk <;> simp [hk]
    · rw [hk]
      exact congrArg some (stringValue_eq_iff.2 hvalue)

theorem filter_notEmpty_eq_some_iff {found : Option String} {name : String} :
    found.filter (!·.isEmpty) = some name ↔ found = some name ∧ name ≠ "" := by
  rw [Option.filter_eq_some_iff]
  simp

theorem declaredName_eq_some_iff {src : Source} {n : Node} {name : String} :
    (declaredName? src n).filter (!·.isEmpty) = some name ↔ Declares src n name ∧ name ≠ "" := by
  rw [filter_notEmpty_eq_some_iff]
  refine and_congr_left fun hne => ?_
  unfold declaredName?
  constructor
  · intro h
    split at h
    case h_5 =>
      obtain ⟨key, hkey, hname⟩ := Option.bind_eq_some_iff.1 h
      exact .method ‹_› hkey (keyName_eq_some_iff.1 hname)
    case h_6 => exact absurd h (by simp)
    all_goals
      rename_i hk
      obtain ⟨h, -⟩ := filter_notEmpty_eq_some_iff.1 h
      obtain ⟨node, hnode, rfl⟩ := Option.map_eq_some_iff.1 h
      exact .plain (by simp [hk]) hnode
  · rintro (⟨hk, hnode⟩ | ⟨hk, hkey, hname⟩)
    · have hfound := filter_notEmpty_eq_some_iff.2
        ⟨Option.map_eq_some_iff.2 ⟨_, hnode, rfl⟩, hne⟩
      simp only [List.mem_cons, List.not_mem_nil, or_false] at hk
      rcases hk with hk | hk | hk | hk <;> simp only [hk] <;> exact hfound
    · simp only [hk]
      exact Option.bind_eq_some_iff.2 ⟨_, hkey, keyName_eq_some_iff.2 hname⟩

/-! ## What one place says -/

theorem IsMethodCall.unique {call object property object' property' : Node}
    (h : IsMethodCall call object property) (h' : IsMethodCall call object' property') :
    object = object' ∧ property = property' := by
  obtain ⟨callee, hcallee, -, hobject, -, hproperty⟩ := h
  obtain ⟨callee', hcallee', -, hobject', -, hproperty'⟩ := h'
  obtain rfl := Option.some.inj (hcallee.symm.trans hcallee')
  exact ⟨Option.some.inj (hobject.symm.trans hobject'),
    Option.some.inj (hproperty.symm.trans hproperty')⟩

/-- The word for what a callback waits for, by a search. -/
def eventWord (src : Source) (arguments : Node) : String :=
  ((arguments.namedChildren.find? (·.kind == "string")).map (stringValue src)).getD "handler"

theorem eventWord_eq_iff {src : Source} {arguments : Node} {word : String} :
    eventWord src arguments = word ↔ EventWord src arguments word := by
  unfold eventWord
  constructor
  · rintro rfl
    cases hfind : arguments.namedChildren.find? (·.kind == "string") with
    | none => exact .handler (by simpa using hfind)
    | some literal =>
      obtain ⟨hk, before, after, hsplit, hbefore⟩ := List.find?_eq_some_iff_append.1 hfind
      exact .event hsplit (by simpa using hbefore) (by simpa using hk) (stringValue_eq_iff.1 rfl)
  · rintro (⟨hsplit, hbefore, hk, hvalue⟩ | hnone)
    · have hfind : arguments.namedChildren.find? (·.kind == "string") = some _ :=
        List.find?_eq_some_iff_append.2 ⟨by simpa using hk, _, _, hsplit, by simpa using hbefore⟩
      rw [hfind]
      exact stringValue_eq_iff.2 hvalue
    · rw [List.find?_eq_none.2 (by simpa using hnone)]
      rfl

namespace NamingRule

/-- What the rules, in order, say about a function at one of its ancestors. -/
def offerAny (src : Source) (isArgument : Bool) (a c : Node) : Option NameMatch :=
  all.findSome? (offer src isArgument a c)

/-- The call of a method names a function that is one of its arguments. -/
theorem offer_callback_eq_some_iff {src : Source} {isArgument : Bool} {a c : Node}
    {found : NameMatch} :
    callbackRegistration.offer src isArgument a c = some found ↔
      a.kind = "call_expression" ∧ c.kind = "arguments" ∧ isArgument = true ∧
        ∃ object property, IsMethodCall a object property ∧
          found =
            ⟨some (object.text src ++ "." ++ property.text src ++ "_" ++ eventWord src c)⟩ := by
  have hcall : callbackRegistration.offer src isArgument a c = some found ↔
      (a.kind = "call_expression" ∧ c.kind = "arguments") ∧ isArgument = true ∧
        ∃ callee, a.child? "function" = some callee ∧ callee.kind = "member_expression" ∧
          ∃ object, callee.child? "object" = some object ∧
            ∃ property, callee.child? "property" = some property ∧ object.kind = "identifier" ∧
              NameMatch.mk (some (object.text src ++ "." ++ property.text src ++ "_" ++
                eventWord src c)) = found := by
    unfold eventWord
    cases hfind : c.namedChildren.find? (·.kind == "string") <;>
      simp [offer, Option.bind_eq_some_iff, Option.guard_eq_some', hfind, String.append_assoc]
  rw [hcall]
  constructor
  · rintro ⟨⟨hk, hc⟩, harg, callee, hcallee, hmember, object, hobject, property, hproperty, hid, hn⟩
    exact ⟨hk, hc, harg, object, property, ⟨callee, hcallee, hmember, hobject, hid, hproperty⟩,
      hn.symm⟩
  · rintro ⟨hk, hc, harg, object, property, ⟨callee, hcallee, hmember, hobject, hid, hproperty⟩, hn⟩
    exact ⟨⟨hk, hc⟩, harg, callee, hcallee, hmember, object, hobject, property, hproperty, hid,
      hn.symm⟩

/-- All that the rules can say. At most one of them applies, by the kind of the ancestor. -/
theorem offerAny_eq_some_iff {src : Source} {isArgument : Bool} {a c : Node} {found : NameMatch} :
    offerAny src isArgument a c = some found ↔
      (a.kind = "variable_declarator" ∧ ⟨(a.child? "name").bind fun target =>
        if target.kind = "identifier" then some (target.text src) else none⟩ = found) ∨
      (a.kind = "pair" ∧ ⟨(a.child? "key").bind (keyName? src)⟩ = found) ∨
      (a.kind = "field_definition" ∧ ⟨(a.child? "property").bind (keyName? src)⟩ = found) ∨
      callbackRegistration.offer src isArgument a c = some found := by
  by_cases hcall : a.kind = "call_expression"
  · simp [offerAny, all, offer, hcall]
  · have hnone : callbackRegistration.offer src isArgument a c = none := by
      simp [offer, hcall]
    rw [hnone]
    by_cases hvar : a.kind = "variable_declarator"
    · cases htarget : a.child? "name" with
      | none => simp [offerAny, all, offer, hvar, htarget]
      | some target =>
        by_cases hid : target.kind = "identifier" <;>
          simp [offerAny, all, offer, hvar, htarget, hid]
    · by_cases hpair : a.kind = "pair"
      · simp [offerAny, all, offer, hpair]
      · by_cases hfield : a.kind = "field_definition"
        · simp [offerAny, all, offer, hfield]
        · simp [offerAny, all, offer, hvar, hpair, hfield, hcall]

/-- The rules apply at the places that can name a function, whether these have a name or not. -/
theorem isSome_offerAny_iff {src : Source} {isArgument : Bool} {a c : Node} :
    (offerAny src isArgument a c).isSome = true ↔
      a.kind ∈ ["variable_declarator", "pair", "field_definition"] ∨
        (a.kind = "call_expression" ∧ c.kind = "arguments" ∧ isArgument = true ∧
          ∃ object property, IsMethodCall a object property) := by
  simp only [List.mem_cons, List.not_mem_nil, or_false]
  constructor
  · intro h
    obtain ⟨found, h⟩ := Option.isSome_iff_exists.1 h
    rcases offerAny_eq_some_iff.1 h with ⟨hk, -⟩ | ⟨hk, -⟩ | ⟨hk, -⟩ | h
    · exact Or.inl (Or.inl hk)
    · exact Or.inl (Or.inr (Or.inl hk))
    · exact Or.inl (Or.inr (Or.inr hk))
    · obtain ⟨hk, hc, harg, object, property, hmethod, -⟩ := offer_callback_eq_some_iff.1 h
      exact Or.inr ⟨hk, hc, harg, object, property, hmethod⟩
  · intro h
    refine Option.isSome_iff_exists.2 ?_
    rcases h with (hk | hk | hk) | ⟨hk, hc, harg, object, property, hmethod⟩
    · exact ⟨_, offerAny_eq_some_iff.2 (Or.inl ⟨hk, rfl⟩)⟩
    · exact ⟨_, offerAny_eq_some_iff.2 (Or.inr (Or.inl ⟨hk, rfl⟩))⟩
    · exact ⟨_, offerAny_eq_some_iff.2 (Or.inr (Or.inr (Or.inl ⟨hk, rfl⟩)))⟩
    · have hcall : callbackRegistration.offer src isArgument a c = some _ :=
        offer_callback_eq_some_iff.2 ⟨hk, hc, harg, object, property, hmethod, rfl⟩
      exact ⟨_, offerAny_eq_some_iff.2 (Or.inr (Or.inr (Or.inr hcall)))⟩

/-- A rule that applies has the name that the place offers. -/
theorem name_of_offerAny {src : Source} {isArgument : Bool} {a c : Node} {found : NameMatch}
    (h : offerAny src isArgument a c = some found) {name : String} :
    found.name = some name ↔ Offers src a c name := by
  rcases offerAny_eq_some_iff.1 h with ⟨hk, rfl⟩ | ⟨hk, rfl⟩ | ⟨hk, rfl⟩ | hcall
  · constructor
    · intro hname
      obtain ⟨target, htarget, hname⟩ := Option.bind_eq_some_iff.1 hname
      split at hname
      · obtain rfl := Option.some.inj hname
        exact .variableBinding hk htarget ‹_›
      · exact absurd hname (by simp)
    · rintro (⟨-, htarget, hid⟩ | ⟨hk', -, -⟩ | ⟨hk', -, -⟩ | ⟨hk', -, -⟩)
      · simp [htarget, hid]
      all_goals exact absurd (hk.symm.trans hk') (by decide)
  · constructor
    · intro hname
      obtain ⟨key, hkey, hname⟩ := Option.bind_eq_some_iff.1 hname
      exact .memberKey hk hkey (keyName_eq_some_iff.1 hname)
    · rintro (⟨hk', -, -⟩ | ⟨-, hkey, hname⟩ | ⟨hk', -, -⟩ | ⟨hk', -, -⟩)
      case memberKey => exact Option.bind_eq_some_iff.2 ⟨_, hkey, keyName_eq_some_iff.2 hname⟩
      all_goals exact absurd (hk.symm.trans hk') (by decide)
  · constructor
    · intro hname
      obtain ⟨key, hkey, hname⟩ := Option.bind_eq_some_iff.1 hname
      exact .fieldName hk hkey (keyName_eq_some_iff.1 hname)
    · rintro (⟨hk', -, -⟩ | ⟨hk', -, -⟩ | ⟨-, hkey, hname⟩ | ⟨hk', -, -⟩)
      case fieldName => exact Option.bind_eq_some_iff.2 ⟨_, hkey, keyName_eq_some_iff.2 hname⟩
      all_goals exact absurd (hk.symm.trans hk') (by decide)
  · obtain ⟨hk, -, -, object, property, hmethod, rfl⟩ := offer_callback_eq_some_iff.1 hcall
    constructor
    · intro hname
      obtain rfl := Option.some.inj hname
      exact .callback hk hmethod (eventWord_eq_iff.1 rfl)
    · rintro (⟨hk', -, -⟩ | ⟨hk', -, -⟩ | ⟨hk', -, -⟩ | ⟨-, hmethod', hevent⟩)
      case callback =>
        obtain ⟨rfl, rfl⟩ := hmethod.unique hmethod'
        rw [eventWord_eq_iff.2 hevent]
      all_goals exact absurd (hk.symm.trans hk') (by decide)

end NamingRule

/-! ## The search outward -/

section Search

variable {root : Node} {v : Visit}

/-- The function is an argument if the arguments have it among their children. -/
theorem isArgumentOf_iff (hv : v ∈ Tree.walk root) {c : Place} (hc : c ∈ places root) :
    NamingRule.isArgumentOf v c = true ↔ v.toPlace ∈ c.children := by
  obtain ⟨w, hw, rfl⟩ := List.mem_map.1 hc
  obtain ⟨here, above⟩ := v
  unfold NamingRule.isArgumentOf Visit.parent?
  constructor
  · intro h
    cases above with
    | nil => exact absurd h (by simp)
    | cons p above =>
      obtain ⟨hp, hchild⟩ := Tree.mem_walk_of_parent hv rfl
      have hindex : p.index = w.index := by simpa using h
      obtain rfl := Tree.eq_of_index_eq hp hw hindex
      exact hchild
  · intro h
    -- a child is visited by the path through its parent, and each node is visited once
    have hvisit := Tree.eq_of_index_eq (Tree.mem_walk_of_child hw h) hv rfl
    have habove : w.toPlace :: w.ancestors = above := congrArg Visit.ancestors hvisit
    simp [← habove]

theorem mem_places_of_mem_path (hv : v ∈ Tree.walk root) {a c : Place} (h : (a, c) ∈ v.path) :
    c ∈ places root := by
  obtain ⟨ha, -, hc, -⟩ := (Tree.mem_path_iff hv).1 h
  obtain ⟨w, hw, rfl⟩ := List.mem_map.1 ha
  exact Tree.mem_places_of_mem_walk (Tree.mem_walk_of_child hw hc)

/-- The rules apply at the places of the path that can name the function. -/
theorem isSome_findSome_apply_iff (src : Source) (hv : v ∈ Tree.walk root)
    (hf : v.node.isFunction = true) {a c : Place} (h : (a, c) ∈ v.path) :
    (NamingRule.all.findSome? (NamingRule.apply src v a c)).isSome = true ↔
      CanName v.toPlace a c := by
  have hnamed : v.node.isNamed = true := (Bool.and_eq_true_iff.1 hf).1
  have harg := isArgumentOf_iff hv (mem_places_of_mem_path hv h)
  have happly : NamingRule.all.findSome? (NamingRule.apply src v a c) =
      NamingRule.offerAny src (NamingRule.isArgumentOf v c) a.node c.node := rfl
  rw [happly, NamingRule.isSome_offerAny_iff, harg, CanName, List.mem_filter]
  simp [hnamed]

/-- The first function of the path is the innermost one around the visited node. -/
theorem isInnermostFunction_of_dropWhile_path (hv : v ∈ Tree.walk root) {f : Place × Place}
    {rest : List (Place × Place)} (h : v.path.dropWhile (!·.1.node.isFunction) = f :: rest) :
    IsInnermostFunction root v.toPlace f.1 := by
  refine Tree.isInnermostFunction_of_enclosingFunction hv ?_
  have hfind : v.path.find? (·.1.node.isFunction) = some f := by
    have hhead := List.find?_not_eq_head?_dropWhile (p := fun e : Place × Place =>
      !e.1.node.isFunction) v.path
    rw [h] at hhead
    simpa using hhead
  rw [Visit.enclosingFunction?, ← Tree.Visit.map_fst_path, List.find?_map]
  exact congrArg (Option.map _) hfind

/-- The search stops below the innermost function around the one that is to be named. -/
theorem mem_takeWhile_path_iff (hv : v ∈ Tree.walk root) {e : Place × Place} :
    e ∈ v.path.takeWhile (!·.1.node.isFunction) ↔
      e ∈ v.path ∧ ∀ F, IsInnermostFunction root v.toPlace F → F.Encloses e.1 := by
  have hsplit := List.takeWhile_append_dropWhile (p := fun e : Place × Place =>
    !e.1.node.isFunction) (l := v.path)
  have hpairs := Tree.path_pairwise hv
  rw [← hsplit, List.pairwise_append] at hpairs
  obtain ⟨-, hlate, hacross⟩ := hpairs
  cases hdrop : v.path.dropWhile (!·.1.node.isFunction) with
  | nil =>
    -- no function stands on the path, so there is none around the node
    rw [hdrop, List.append_nil] at hsplit
    rw [hsplit]
    refine ⟨fun he => ⟨he, fun F hF => ?_⟩, And.left⟩
    have hmem := (Tree.mem_ancestors_iff hv).2 ⟨hF.mem, hF.encloses⟩
    rw [← Tree.Visit.map_fst_path, ← hsplit] at hmem
    obtain ⟨d, hd, rfl⟩ := List.mem_map.1 hmem
    exact absurd hF.isFunction (by simpa using List.mem_takeWhile_imp hd)
  | cons f rest =>
    rw [hdrop] at hsplit hlate hacross
    have hF := isInnermostFunction_of_dropWhile_path hv hdrop
    constructor
    · intro he
      refine ⟨List.takeWhile_subset _ he, fun G hG => ?_⟩
      rw [hG.unique hF]
      exact hacross e he f (List.mem_cons_self ..)
    · rintro ⟨he, hscope⟩
      rw [← hsplit] at he
      refine (List.mem_append.1 he).resolve_right fun hrest => ?_
      have henc := hscope f.1 hF
      rcases List.mem_cons.1 hrest with rfl | hrest
      · exact henc.asymm henc
      · exact henc.asymm (List.rel_of_pairwise_cons hlate hrest)

/-- The places that the search asks, and at which a rule applies, are the candidates. -/
theorem namingCandidate_iff (src : Source) (hv : v ∈ Tree.walk root)
    (hf : v.node.isFunction = true) {a c : Place} :
    NamingCandidate root v.toPlace a c ↔
      (a, c) ∈ v.path.takeWhile (!·.1.node.isFunction) ∧
        (NamingRule.all.findSome? (NamingRule.apply src v a c)).isSome = true := by
  rw [mem_takeWhile_path_iff hv]
  constructor
  · rintro ⟨hmem, henc, henters, hscope, hcan⟩
    have hpath := (Tree.mem_path_iff hv).2 ⟨hmem, henc, henters⟩
    exact ⟨⟨hpath, hscope⟩, (isSome_findSome_apply_iff src hv hf hpath).2 hcan⟩
  · rintro ⟨⟨hpath, hscope⟩, hsome⟩
    obtain ⟨hmem, henc, henters⟩ := (Tree.mem_path_iff hv).1 hpath
    exact ⟨hmem, henc, henters, hscope, (isSome_findSome_apply_iff src hv hf hpath).1 hsome⟩

theorem NamingPlace.unique {function a c b d : Place} (h : NamingPlace root function a c)
    (h' : NamingPlace root function b d) : a = b ∧ c = d := by
  have hab : a = b := by
    rcases h'.innermost a c h.toNamingCandidate with hab | hab
    · exact hab
    · rcases h.innermost b d h'.toNamingCandidate with hba | hba
      · exact hba.symm
      · exact absurd hab hba.asymm
  subst hab
  exact ⟨rfl, h.enters.unique h'.enters⟩

/-- What the search finds is what the rules say at the innermost candidate. -/
theorem namingPlace_of_findName {src : Source} (hv : v ∈ Tree.walk root)
    (hf : v.node.isFunction = true) {found : NameMatch}
    (h : findName? src NamingRule.all v = some found) :
    ∃ a c, NamingPlace root v.toPlace a c ∧
      NamingRule.all.findSome? (NamingRule.apply src v a c) = some found := by
  obtain ⟨inner, ⟨a, c⟩, outer, hsplit, hfound, hinner⟩ := List.findSome?_eq_some_iff.1 h
  have hpairs := (Tree.path_pairwise hv).sublist (List.takeWhile_sublist (!·.1.node.isFunction))
  have hcandidate (b d : Place) := @namingCandidate_iff _ _ src hv hf b d
  rw [hsplit] at hpairs hcandidate
  have hac := (hcandidate a c).2 ⟨by simp, Option.isSome_iff_exists.2 ⟨_, hfound⟩⟩
  refine ⟨a, c, ⟨hac, fun b d hbd => ?_⟩, hfound⟩
  obtain ⟨hmem, hsome⟩ := (hcandidate b d).1 hbd
  rcases List.mem_append.1 hmem with hmem | hmem
  · -- at the places before, no rule applies
    have hnone : NamingRule.all.findSome? (NamingRule.apply src v b d) = none := hinner _ hmem
    exact absurd hsome (by simp [hnone])
  · rcases List.mem_cons.1 hmem with heq | hmem
    · exact Or.inl (congrArg Prod.fst heq)
    · exact Or.inr (List.rel_of_pairwise_cons (List.pairwise_append.1 hpairs).2.1 hmem)

/-- If there is a place to take the name from, the search finds what the rules say there. -/
theorem findName_of_namingPlace (src : Source) (hv : v ∈ Tree.walk root)
    (hf : v.node.isFunction = true) {a c : Place} (h : NamingPlace root v.toPlace a c) :
    ∃ found, findName? src NamingRule.all v = some found ∧
      NamingRule.offerAny src (NamingRule.isArgumentOf v c) a.node c.node = some found := by
  obtain ⟨hmem, hsome⟩ := (namingCandidate_iff src hv hf).1 h.toNamingCandidate
  cases hfind : findName? src NamingRule.all v with
  | none =>
    have hnone : NamingRule.all.findSome? (NamingRule.apply src v a c) = none :=
      List.findSome?_eq_none_iff.1 hfind _ hmem
    exact absurd hsome (by simp [hnone])
  | some found =>
    obtain ⟨b, d, hplace, hfound⟩ := namingPlace_of_findName hv hf hfind
    obtain ⟨rfl, rfl⟩ := h.unique hplace
    exact ⟨found, rfl, hfound⟩

/-- The name that the search finds is the one offered at the innermost place that can name the
function. -/
theorem offered_eq_some_iff {src : Source} (hv : v ∈ Tree.walk root)
    (hf : v.node.isFunction = true) {name : String} :
    ((findName? src NamingRule.all v).bind (·.name)).filter (!·.isEmpty) = some name ↔
      (∃ a c, NamingPlace root v.toPlace a c ∧ Offers src a.node c.node name) ∧ name ≠ "" := by
  rw [filter_notEmpty_eq_some_iff, Option.bind_eq_some_iff]
  refine and_congr_left fun _ => ?_
  constructor
  · rintro ⟨found, hfind, hname⟩
    obtain ⟨a, c, hplace, hfound⟩ := namingPlace_of_findName hv hf hfind
    exact ⟨a, c, hplace, (NamingRule.name_of_offerAny hfound).1 hname⟩
  · rintro ⟨a, c, hplace, hoffers⟩
    obtain ⟨found, hfind, hfound⟩ := findName_of_namingPlace src hv hf hplace
    exact ⟨found, hfind, (NamingRule.name_of_offerAny hfound).2 hoffers⟩

end Search

/-! ## The result -/

theorem anonymousName_ne_empty (n : Nat) : anonymousName n ≠ "" := by
  intro h
  have hlen := congrArg String.length h
  rw [anonymousName, String.length_append] at hlen
  exact absurd hlen (by simp)

theorem Resolves.name_ne_empty {src : Source} {root : Node} {function : Place} {counter : Nat}
    {result : String × Nat} (h : Resolves src root function counter result) : result.1 ≠ "" := by
  cases h with
  | declared _ hne => exact hne
  | surroundings _ _ _ hne => exact hne
  | madeUp => exact anonymousName_ne_empty counter

/-- The search follows the rules. -/
theorem resolves_resolveName {root : Node} {v : Visit} (src : Source) (hv : v ∈ Tree.walk root)
    (hf : v.node.isFunction = true) (counter : Nat) :
    Resolves src root v.toPlace counter (resolveName src NamingRule.all v counter) := by
  unfold resolveName
  cases hdeclared : (declaredName? src v.node).filter (!·.isEmpty) with
  | some name =>
    obtain ⟨hname, hne⟩ := declaredName_eq_some_iff.1 hdeclared
    exact .declared hname hne
  | none =>
    have hown : ∀ own, Declares src v.node own → own = "" := by
      intro own hname
      by_contra hne
      have hsome := declaredName_eq_some_iff.2 ⟨hname, hne⟩
      exact absurd (hdeclared.symm.trans hsome) (by simp)
    cases hoffered : ((findName? src NamingRule.all v).bind (·.name)).filter (!·.isEmpty) with
    | some name =>
      obtain ⟨⟨a, c, hplace, hoffers⟩, hne⟩ := (offered_eq_some_iff hv hf).1 hoffered
      exact .surroundings hown hplace hoffers hne
    | none =>
      refine .madeUp hown fun a c name hplace hoffers => ?_
      by_contra hne
      have hsome := (offered_eq_some_iff hv hf).2 ⟨⟨a, c, hplace, hoffers⟩, hne⟩
      exact absurd (hoffered.symm.trans hsome) (by simp)

/-- The rules leave no choice. -/
theorem resolveName_of_resolves {root : Node} {v : Visit} {src : Source} (hv : v ∈ Tree.walk root)
    (hf : v.node.isFunction = true) {counter : Nat} {result : String × Nat}
    (h : Resolves src root v.toPlace counter result) :
    resolveName src NamingRule.all v counter = result := by
  have hnone (hown : ∀ own, Declares src v.node own → own = "") :
      (declaredName? src v.node).filter (!·.isEmpty) = none := by
    rw [Option.eq_none_iff_forall_ne_some]
    intro own hsome
    obtain ⟨hname, hne⟩ := declaredName_eq_some_iff.1 hsome
    exact hne (hown own hname)
  unfold resolveName
  cases h with
  | declared hname hne => rw [declaredName_eq_some_iff.2 ⟨hname, hne⟩]
  | surroundings hown hplace hoffers hne =>
    rw [hnone hown, (offered_eq_some_iff hv hf).2 ⟨⟨_, _, hplace, hoffers⟩, hne⟩]
  | madeUp hown hother =>
    have hoffered :
        ((findName? src NamingRule.all v).bind (·.name)).filter (!·.isEmpty) = none := by
      rw [Option.eq_none_iff_forall_ne_some]
      intro name hsome
      obtain ⟨⟨a, c, hplace, hoffers⟩, hne⟩ := (offered_eq_some_iff hv hf).1 hsome
      exact hne (hother a c name hplace hoffers)
    rw [hnone hown, hoffered]

/-- **Functions are named by the rules.** The name and the counter that come out for a function of a
tree are those that the rules allow, and no others: its own name; or else that of the innermost
place around it, below the next function, that can name it; or else, if this place has no name or
there is none, the next made-up one, and only then is the counter moved on. No name is empty. -/
theorem resolveName_iff_resolves {root : Node} {v : Visit} (src : Source)
    (hv : v ∈ Tree.walk root) (hf : v.node.isFunction = true) (counter : Nat) :
    (∀ result, resolveName src NamingRule.all v counter = result ↔
      Resolves src root v.toPlace counter result) ∧
    (resolveName src NamingRule.all v counter).1 ≠ "" := by
  have hresolves := resolves_resolveName src hv hf counter
  refine ⟨fun result => ⟨?_, resolveName_of_resolves hv hf⟩, hresolves.name_ne_empty⟩
  rintro rfl
  exact hresolves

/-! ### A callback inside a declaration -/

namespace Callback

/-- The text whose tree follows, punctuation left out. -/
def source : Source := .ofString "const y = x.o('e', () => 0)"

def handler : Node := .mk { kind := "arrow_function", start := 19, stop := 26 } []

def arguments : Node :=
  .mk { kind := "arguments", start := 13, stop := 27, field := some "arguments" }
    [.mk { kind := "string", start := 14, stop := 17 } [], handler]

def call : Node :=
  .mk { kind := "call_expression", start := 10, stop := 27, field := some "value" }
    [.mk { kind := "member_expression", start := 10, stop := 13, field := some "function" }
      [.mk { kind := "identifier", start := 10, stop := 11, field := some "object" } [],
        .mk { kind := "property_identifier", start := 12, stop := 13
              field := some "property" } []],
      arguments]

def root : Node :=
  .mk { kind := "variable_declarator", start := 6, stop := 27 }
    [.mk { kind := "identifier", start := 6, stop := 7, field := some "name" } [], call]

end Callback

/-- The function is named after the call that it is passed to, not after the variable. -/
theorem resolveName_iff_resolves_callback :
    let v : Visit :=
      ⟨⟨8, Callback.handler⟩, [⟨6, Callback.arguments⟩, ⟨2, Callback.call⟩, ⟨0, Callback.root⟩]⟩
    v ∈ Tree.walk Callback.root ∧ v.node.isFunction = true ∧
      Resolves Callback.source Callback.root v.toPlace 3 ("x.o_e", 3) ∧
      (resolveName Callback.source NamingRule.all v 3).1 ≠ "" := by
  intro v
  have hv : v ∈ Tree.walk Callback.root := by
    rw [Tree.walk_eq_preorder]
    exact List.mem_of_getElem? (i := 8) rfl
  obtain ⟨hresult, hne⟩ := resolveName_iff_resolves Callback.source hv rfl 3
  exact ⟨hv, rfl, (hresult _).1 (by decide +kernel), hne⟩

end CallFlow
