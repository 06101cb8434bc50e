import Mathlib.Data.Set.Card
import CallFlow.Graph.Flow
import CallFlow.Proofs.Attribution

/-!
# Direct calls and fan-out

The fan-out of a function is meant to be the number of names that it calls directly. Names of direct
calls and of member calls are collected under one proviso, that the name is not there yet, and a
member of an unnamed object goes by its bare property. So a member call hides a later direct call of
the same name.

* `mem_directCalls_iff` — a name counts if it is called directly before any member goes by it;
* `length_directCalls_eq_iff` — so all names called directly are counted just if no name is hidden;
* `directCalls_exact_iff` — and the order of the calls is of no account just if no name is called in
  both ways.
-/

namespace CallFlow

open CallFlow.Tree (Node Source)

/-! ## The calls of a function -/

namespace Tree

/-- The second node is the first one or lies below it, and neither it nor a node on the way down to
it is a function. -/
inductive InScope : Node → Node → Prop
  | here {n : Node} (hn : n.isFunction = false) : InScope n n
  | child {n c m : Node} (hn : n.isFunction = false) (hc : c ∈ n.children) (hm : InScope c m) :
    InScope n m

/-- The calls that a function makes itself, in the order in which they are visited. -/
def Node.ownCalls (function : Node) : List Node :=
  match function.child? "body" with
  | none => []
  | some body => ((walkScope ⟨0, body⟩).map (·.node)).filter (·.kind == "call_expression")

theorem mem_map_node_scope :
    (∀ (n : Node) (next : Nat) (m : Node), m ∈ (scope next n).map (·.node) ↔ InScope n m) ∧
    ∀ (cs : List Node) (next : Nat) (m : Node),
      m ∈ (scopeAll next cs).map (·.node) ↔ ∃ c ∈ cs, InScope c m := by
  refine Node.induction ?node ?nil ?cons
  case node =>
    intro l cs ih next m
    rw [scope]
    by_cases hf : (Node.mk l cs).isFunction = true
    · rw [if_pos hf]
      refine iff_of_false (by simp) fun h => ?_
      cases h <;> simp_all
    · have hn : (Node.mk l cs).isFunction = false := by simpa using hf
      rw [if_neg hf, List.map_cons, List.mem_cons, ih]
      constructor
      · rintro (rfl | ⟨c, hc, hm⟩)
        · exact .here hn
        · exact .child hn hc hm
      · intro h
        cases h with
        | here => exact Or.inl rfl
        | child _ hc hm => exact Or.inr ⟨_, hc, hm⟩
  case nil =>
    intro next m
    simp [scopeAll]
  case cons =>
    intro c cs ihc ihcs next m
    rw [scopeAll, List.map_append, List.mem_append, ihc, ihcs]
    simp only [List.mem_cons, exists_eq_or_imp]

theorem Node.mem_ownCalls_iff {function call : Node} :
    call ∈ function.ownCalls ↔ ∃ body, function.child? "body" = some body ∧
      InScope body call ∧ call.kind = "call_expression" := by
  rw [ownCalls]
  cases function.child? "body" with
  | none => simp
  | some body =>
    simp only [Option.some.injEq, exists_eq_left']
    rw [List.mem_filter, walkScope_eq_scope, mem_map_node_scope.1, beq_iff_eq]

end Tree

/-! ## Direct calls and member calls -/

/-- The callee of the call is the plain name `n`. -/
def CallsDirectly (src : Source) (call : Node) (n : String) : Prop :=
  ∃ callee, call.child? "function" = some callee ∧ callee.kind = "identifier" ∧ callee.text src = n

/-- The callee of the call is a member that goes by the name `n`: its property, with the object
before it if that is a plain name. -/
def CallsMember (src : Source) (call : Node) (n : String) : Prop :=
  ∃ callee property, call.child? "function" = some callee ∧ callee.kind = "member_expression" ∧
    callee.child? "property" = some property ∧
    ((∃ object, callee.child? "object" = some object ∧ object.kind = "identifier" ∧
        object.text src ++ "." ++ property.text src = n) ∨
      (∀ object, callee.child? "object" = some object → object.kind ≠ "identifier") ∧
        property.text src = n)

theorem Callee.of_eq_direct_iff {src : Source} {call : Node} {n : String} :
    of? src call = some ⟨n, .direct⟩ ↔ CallsDirectly src call n := by
  unfold of? CallsDirectly
  cases hcallee : call.child? "function" with
  | none => simp
  | some callee =>
    by_cases hid : callee.kind = "identifier"
    · simp [hid]
    · by_cases hmember : callee.kind = "member_expression"
      · cases hproperty : callee.child? "property" with
        | none => simp [hmember, hproperty]
        | some property =>
          cases hobject : callee.child? "object" with
          | none => simp [hmember, hproperty, hobject]
          | some object =>
            by_cases ho : object.kind = "identifier" <;> simp [hmember, hproperty, hobject, ho]
      · simp [hid, hmember]

theorem Callee.of_eq_member_iff {src : Source} {call : Node} {n : String} :
    of? src call = some ⟨n, .member⟩ ↔ CallsMember src call n := by
  unfold of? CallsMember
  cases hcallee : call.child? "function" with
  | none => simp
  | some callee =>
    by_cases hmember : callee.kind = "member_expression"
    · cases hproperty : callee.child? "property" with
      | none => simp [hmember, hproperty]
      | some property =>
        cases hobject : callee.child? "object" with
        | none => simp [hmember, hproperty, hobject]
        | some object =>
          by_cases ho : object.kind = "identifier" <;> simp [hmember, hproperty, hobject, ho]
    · by_cases hid : callee.kind = "identifier" <;> simp [hid, hmember]

/-- The names that are to be counted: called directly, and not denied. -/
def CalledDirectly (src : Source) (denied : List String) (calls : List Node) : Set String :=
  {n | n ∉ denied ∧ ∃ call ∈ calls, CallsDirectly src call n}

/-- The name is called directly before any member goes by it. -/
def DirectFirst (src : Source) (calls : List Node) (n : String) : Prop :=
  ∃ before call after, calls = before ++ call :: after ∧ CallsDirectly src call n ∧
    ∀ earlier ∈ before, ¬CallsMember src earlier n

theorem DirectFirst.exists_call {src : Source} {calls : List Node} {n : String}
    (h : DirectFirst src calls n) : ∃ call ∈ calls, CallsDirectly src call n := by
  obtain ⟨before, call, after, rfl, hcall, -⟩ := h
  exact ⟨call, by simp, hcall⟩

/-! ## What is collected -/

namespace CallNames

/-- The names collected from calls in the given order. -/
def ofCalls (src : Source) (denied : List String) (calls : List Node) : CallNames :=
  (calls.filterMap (Callee.of? src)).foldl (add denied) {}

theorem ofFunction_eq_ofCalls (src : Source) (denied : List String) (function : Node) :
    ofFunction src denied function = ofCalls src denied function.ownCalls := by
  rw [ofFunction, ofCalls, Node.ownCalls]
  cases function.child? "body" <;> rfl

theorem ofCalls_eq (src : Source) (denied : List String) (calls : List Node) :
    ofCalls src denied calls = ofCallees (firstOfEach Callee.name
      ((calls.filterMap (Callee.of? src)).filter (!·.isDenied denied))) := by
  rw [← foldl_insertNew]
  exact foldl_add denied _ []

theorem nodup_directCalls (src : Source) (denied : List String) (calls : List Node) :
    (ofCalls src denied calls).directCalls.Nodup := by
  rw [ofCalls_eq, ofCallees]
  exact List.pairwise_map.2 ((firstOfEach_pairwise Callee.name _).filter _)

/-- A name is collected as a direct one if the first call under this name is direct. -/
theorem mem_directCalls_iff_find {src : Source} {denied : List String} {calls : List Node}
    {n : String} :
    n ∈ (ofCalls src denied calls).directCalls ↔
      (calls.find? fun call =>
        (Callee.of? src call).any fun c => !c.isDenied denied && c.name == n).bind
          (Callee.of? src) = some ⟨n, .direct⟩ := by
  have hfind : n ∈ (ofCalls src denied calls).directCalls ↔
      ((calls.filterMap (Callee.of? src)).filter (!·.isDenied denied)).find? (·.name == n) =
        some ⟨n, .direct⟩ := by
    rw [ofCalls_eq, ofCallees, List.mem_map]
    constructor
    · rintro ⟨⟨name, kind⟩, hc, rfl⟩
      obtain ⟨hc, hkind⟩ := List.mem_filter.1 hc
      obtain rfl : kind = .direct := by simpa using hkind
      exact (mem_firstOfEach_iff Callee.name).1 hc
    · intro h
      exact ⟨⟨n, .direct⟩, List.mem_filter.2 ⟨(mem_firstOfEach_iff Callee.name).2 h, by simp⟩, rfl⟩
  rw [hfind, List.find?_filter, List.find?_filterMap]
  simp only [Bool.decide_and, Bool.decide_eq_true]

/-- A name is collected as a direct one just if it is not denied and is called directly before any
member goes by it. -/
theorem mem_directCalls_iff {src : Source} {denied : List String} {calls : List Node}
    {n : String} :
    n ∈ (ofCalls src denied calls).directCalls ↔ n ∉ denied ∧ DirectFirst src calls n := by
  rw [mem_directCalls_iff_find, Option.bind_eq_some_iff]
  constructor
  · rintro ⟨call, hfound, hcallee⟩
    obtain ⟨hcounts, before, after, rfl, hbefore⟩ := List.find?_eq_some_iff_append.1 hfound
    have hn : n ∉ denied := by simpa [hcallee, Callee.isDenied] using hcounts
    refine ⟨hn, before, call, after, rfl, Callee.of_eq_direct_iff.1 hcallee, ?_⟩
    intro earlier hearlier hmember
    have hnot := hbefore earlier hearlier
    simp [Callee.of_eq_member_iff.2 hmember, Callee.isDenied] at hnot
  · rintro ⟨hn, before, call, after, rfl, hcall, hbefore⟩
    have hcallee := Callee.of_eq_direct_iff.2 hcall
    rw [List.find?_append]
    cases hfound : before.find? fun call =>
        (Callee.of? src call).any fun c => !c.isDenied denied && c.name == n with
    | none =>
      refine ⟨call, ?_, hcallee⟩
      rw [Option.none_or, List.find?_cons_of_pos]
      simp [hcallee, Callee.isDenied, hn]
    | some earlier =>
      -- what is found earlier goes by the name as well, and is no member
      refine ⟨earlier, rfl, ?_⟩
      have hany := List.find?_some hfound
      obtain ⟨⟨name, kind⟩, hc, hcounts⟩ := (Option.any_eq_true ..).1 hany
      obtain rfl : name = n := by simpa using (Bool.and_eq_true_iff.1 hcounts).2
      cases kind with
      | direct => exact hc
      | member =>
        exact absurd (Callee.of_eq_member_iff.1 hc) (hbefore _ (List.mem_of_find?_eq_some hfound))

/-! ## How many are collected -/

theorem setOf_mem_directCalls_subset (src : Source) (denied : List String) (calls : List Node) :
    {n | n ∈ (ofCalls src denied calls).directCalls} ⊆ CalledDirectly src denied calls := by
  intro n hn
  obtain ⟨hdenied, hfirst⟩ := mem_directCalls_iff.1 hn
  exact ⟨hdenied, hfirst.exists_call⟩

/-- Nothing is missing just if every name is called directly first. -/
theorem setOf_mem_directCalls_eq_iff (src : Source) (denied : List String) (calls : List Node) :
    {n | n ∈ (ofCalls src denied calls).directCalls} = CalledDirectly src denied calls ↔
      ∀ n ∈ CalledDirectly src denied calls, DirectFirst src calls n := by
  constructor
  · intro heq n hn
    rw [← heq] at hn
    exact (mem_directCalls_iff.1 hn).2
  · intro hall
    refine (setOf_mem_directCalls_subset src denied calls).antisymm fun n hn => ?_
    exact mem_directCalls_iff.2 ⟨hn.1, hall n hn⟩

end CallNames

theorem finite_calledDirectly (src : Source) (denied : List String) (calls : List Node) :
    (CalledDirectly src denied calls).Finite := by
  refine ((calls.filterMap (Callee.of? src)).map Callee.name).toFinset.finite_toSet.subset ?_
  rintro n ⟨-, call, hmem, hcall⟩
  have hcallee := List.mem_filterMap.2 ⟨call, hmem, Callee.of_eq_direct_iff.2 hcall⟩
  exact List.mem_toFinset.2 (List.mem_map_of_mem hcallee)

/-- The count is that of the names called directly just if no one is missing. -/
theorem length_directCalls_eq_iff (src : Source) (denied : List String) (calls : List Node) :
    (CallNames.ofCalls src denied calls).directCalls.length =
        (CalledDirectly src denied calls).ncard ↔
      ∀ n ∈ CalledDirectly src denied calls, DirectFirst src calls n := by
  have hcount : (CallNames.ofCalls src denied calls).directCalls.length =
      {n | n ∈ (CallNames.ofCalls src denied calls).directCalls}.ncard := by
    rw [← List.coe_toFinset, Set.ncard_coe_finset,
      List.toFinset_card_of_nodup (CallNames.nodup_directCalls src denied calls)]
  rw [hcount, ← CallNames.setOf_mem_directCalls_eq_iff]
  constructor
  · intro heq
    exact Set.eq_of_subset_of_ncard_le (CallNames.setOf_mem_directCalls_subset src denied calls)
      heq.ge (finite_calledDirectly src denied calls)
  · intro heq
    rw [heq]

/-! ## The order of the calls -/

theorem CallsDirectly.not_member {src : Source} {call : Node} {n : String}
    (h : CallsDirectly src call n) (m : String) : ¬CallsMember src call m := by
  intro hmember
  have heq := (Callee.of_eq_direct_iff.2 h).symm.trans (Callee.of_eq_member_iff.2 hmember)
  simp at heq

theorem calledDirectly_perm {src : Source} {denied : List String} {calls calls' : List Node}
    (h : calls'.Perm calls) :
    CalledDirectly src denied calls' = CalledDirectly src denied calls := by
  ext n
  exact and_congr_right fun _ => exists_congr fun call => and_congr_left fun _ => h.mem_iff

/-- The count, for the same calls in another order. -/
theorem length_directCalls_of_perm {src : Source} {denied : List String}
    {calls calls' : List Node} (h : calls'.Perm calls) :
    (CallNames.ofCalls src denied calls').directCalls.length =
        (CalledDirectly src denied calls).ncard ↔
      ∀ n ∈ CalledDirectly src denied calls, DirectFirst src calls' n := by
  rw [← calledDirectly_perm h]
  exact length_directCalls_eq_iff src denied calls'

/-- A name is called directly first if it is called directly among the first calls, and no member
goes by it there. -/
theorem directFirst_append {src : Source} {front : List Node} {call : Node} {n : String}
    (hcall : call ∈ front) (hdirect : CallsDirectly src call n)
    (hfront : ∀ earlier ∈ front, ¬CallsMember src earlier n) (rest : List Node) :
    DirectFirst src (front ++ rest) n := by
  obtain ⟨before, after, rfl⟩ := List.append_of_mem hcall
  refine ⟨before, call, after ++ rest, by rw [List.append_assoc, List.cons_append], hdirect, ?_⟩
  intro earlier hearlier
  exact hfront earlier (List.mem_append_left _ hearlier)

/-- With the direct calls in front, every name is called directly first. -/
theorem exists_perm_directFirst (src : Source) (calls : List Node) :
    ∃ calls' : List Node, calls'.Perm calls ∧
      ∀ n, (∃ call ∈ calls, CallsDirectly src call n) → DirectFirst src calls' n := by
  let direct (call : Node) : Bool := (Callee.of? src call).any (·.kind == .direct)
  refine ⟨calls.filter direct ++ calls.filter fun call => !direct call,
    List.filter_append_perm direct calls, ?_⟩
  rintro n ⟨call, hmem, hcall⟩
  have hfront : call ∈ calls.filter direct :=
    List.mem_filter.2 ⟨hmem, by simp [direct, Callee.of_eq_direct_iff.2 hcall]⟩
  refine directFirst_append hfront hcall (fun earlier hearlier hmember => ?_) _
  have hdirect := List.of_mem_filter hearlier
  simp [direct, Callee.of_eq_member_iff.2 hmember] at hdirect

/-- A member call in front hides the name. -/
theorem not_directFirst_cons {src : Source} {call : Node} {n : String}
    (h : CallsMember src call n) (calls : List Node) : ¬DirectFirst src (call :: calls) n := by
  rintro ⟨before, direct, after, hcut, hdirect, hbefore⟩
  cases before with
  | nil =>
    obtain ⟨rfl, -⟩ := List.cons.inj hcut
    exact hdirect.not_member n h
  | cons first before =>
    obtain ⟨rfl, -⟩ := List.cons.inj hcut
    exact hbefore call List.mem_cons_self h

/-- The order is of no account just if no name is called both directly and as a member. -/
theorem length_directCalls_perm_iff (src : Source) (denied : List String) (calls : List Node) :
    (∀ calls' : List Node, calls'.Perm calls →
      (CallNames.ofCalls src denied calls').directCalls.length =
        (CallNames.ofCalls src denied calls).directCalls.length) ↔
      ∀ n ∈ CalledDirectly src denied calls, ∀ call ∈ calls, ¬CallsMember src call n := by
  constructor
  · intro hsame n hn call hcall hmember
    -- one order in which all names count, and one in which `n` does not
    obtain ⟨front, hfront, hfirst⟩ := exists_perm_directFirst src calls
    obtain ⟨before, after, hcut⟩ := List.append_of_mem hcall
    have hback : (call :: (before ++ after)).Perm calls := by
      rw [hcut]
      exact List.perm_middle.symm
    have hall : (CallNames.ofCalls src denied front).directCalls.length =
        (CalledDirectly src denied calls).ncard :=
      (length_directCalls_of_perm hfront).2 fun m hm => hfirst m hm.2
    rw [hsame _ hfront, ← hsame _ hback, length_directCalls_of_perm hback] at hall
    exact not_directFirst_cons hmember _ (hall n hn)
  · intro hnone calls' hperm
    have hcount {cs : List Node} (hcs : cs.Perm calls) :
        (CallNames.ofCalls src denied cs).directCalls.length =
          (CalledDirectly src denied calls).ncard := by
      refine (length_directCalls_of_perm hcs).2 fun n hn => ?_
      obtain ⟨call, hcall, hdirect⟩ := hn.2
      rw [← List.append_nil cs]
      exact directFirst_append (hcs.mem_iff.2 hcall) hdirect
        (fun earlier hearlier => hnone n hn earlier (hcs.mem_iff.1 hearlier)) []
    rw [hcount hperm, hcount (List.Perm.refl calls)]

/-- **When fan-out counts the names called directly.** The direct names of a function are those that
it calls directly before any member goes by them, each once. They are all the names that it calls
directly, and fan-out is their number, just if there is no name for which a member comes first; and
no other order of the same calls changes their number just if no name is called in both ways. -/
theorem directCalls_exact_iff (src : Source) (denied : List String) (function : Node) :
    let calls := function.ownCalls
    let direct := (CallNames.ofFunction src denied function).directCalls
    (∀ call, call ∈ calls ↔ ∃ body, function.child? "body" = some body ∧
      Tree.InScope body call ∧ call.kind = "call_expression") ∧
    direct.Nodup ∧
    (∀ n, n ∈ direct ↔ n ∉ denied ∧ DirectFirst src calls n) ∧
    ({n | n ∈ direct} = CalledDirectly src denied calls ↔
      ∀ n ∈ CalledDirectly src denied calls, DirectFirst src calls n) ∧
    (∀ units file moduleName name,
      (FunctionFlow.of units
          (FunctionRecord.ofNode src denied file moduleName name function)).fanOut =
        (CalledDirectly src denied calls).ncard ↔
      ∀ n ∈ CalledDirectly src denied calls, DirectFirst src calls n) ∧
    ((∀ calls' : List Node, calls'.Perm calls →
        (CallNames.ofCalls src denied calls').directCalls.length = direct.length) ↔
      ∀ n ∈ CalledDirectly src denied calls, ∀ call ∈ calls, ¬CallsMember src call n) := by
  intro calls direct
  have hdirect : direct = (CallNames.ofCalls src denied calls).directCalls :=
    congrArg CallNames.directCalls (CallNames.ofFunction_eq_ofCalls src denied function)
  rw [hdirect]
  refine ⟨fun call => Node.mem_ownCalls_iff, CallNames.nodup_directCalls src denied calls,
    fun n => CallNames.mem_directCalls_iff, CallNames.setOf_mem_directCalls_eq_iff src denied calls,
    ?_, length_directCalls_perm_iff src denied calls⟩
  intro units file moduleName name
  have hfanOut :
      (FunctionFlow.of units
        (FunctionRecord.ofNode src denied file moduleName name function)).fanOut =
        direct.length := rfl
  rw [hfanOut, hdirect]
  exact length_directCalls_eq_iff src denied calls

/-! ### A member call before a direct one -/

namespace MemberFirst

/-- The text whose tree follows, punctuation left out. -/
def source : Source := .ofString "function f() { this.g(); g(); }"

def memberCall : Node :=
  .mk { kind := "call_expression", start := 15, stop := 23 }
    [.mk { kind := "member_expression", start := 15, stop := 21, field := some "function" }
      [.mk { kind := "this", start := 15, stop := 19, field := some "object" } [],
        .mk { kind := "property_identifier", start := 20, stop := 21
              field := some "property" } []]]

def directCall : Node :=
  .mk { kind := "call_expression", start := 25, stop := 28 }
    [.mk { kind := "identifier", start := 25, stop := 26, field := some "function" } []]

/-- The function `f` with two calls in its body. -/
def calling (first second : Node) : Node :=
  .mk { kind := "function_declaration", start := 0, stop := 31 }
    [.mk { kind := "identifier", start := 9, stop := 10, field := some "name" } [],
      .mk { kind := "statement_block", start := 13, stop := 31, field := some "body" }
        [.mk { kind := "expression_statement", start := 15, stop := 24 } [first],
          .mk { kind := "expression_statement", start := 25, stop := 29 } [second]]]

end MemberFirst

/-- The direct call of `g` is not counted after a call of a member `g`, and is counted before it. -/
theorem directCalls_ne_memberFirst :
    let f := MemberFirst.calling MemberFirst.memberCall MemberFirst.directCall
    let swapped := MemberFirst.calling MemberFirst.directCall MemberFirst.memberCall
    "g" ∈ CalledDirectly MemberFirst.source defaultDenied f.ownCalls ∧
      CallNames.ofFunction MemberFirst.source defaultDenied f = ⟨["g"], []⟩ ∧
      CallNames.ofFunction MemberFirst.source defaultDenied swapped = ⟨["g"], ["g"]⟩ := by
  intro f swapped
  obtain ⟨call, hmem, hcallee⟩ : ∃ call ∈ f.ownCalls,
      Callee.of? MemberFirst.source call = some ⟨"g", .direct⟩ := by decide +kernel
  refine ⟨⟨by decide, call, hmem, Callee.of_eq_direct_iff.1 hcallee⟩, ?_⟩
  decide +kernel

end CallFlow
