import CallFlow.Tree.Walk

/-!
# Walks turn by turn

Both walks are loops that take a node from the front of a work list and put its children there. Here
a turn of each loop stands for itself: what it hands out, and what it leaves for the next turn. A
loop `Yields` a list if its turns come to an end and have handed out that list by then. No loop
yields two lists, and the two walks are what their loops yield (`yields_walk_iff`,
`yields_walkScope_iff`).
-/

namespace CallFlow.Tree

/-- The turns from a state on come to an end and hand out the list, each its own part. -/
inductive Yields {σ α : Type} (turn : σ → Option (List α × σ)) : σ → List α → Prop
  /-- There is nothing left to do. -/
  | stop {s : σ} : turn s = none → Yields turn s []
  /-- One turn, and then those of the state it leaves. -/
  | step {s s' : σ} {out rest : List α} :
      turn s = some (out, s') → Yields turn s' rest → Yields turn s (out ++ rest)

theorem Yields.unique {σ α : Type} {turn : σ → Option (List α × σ)} {s : σ} {xs ys : List α}
    (hxs : Yields turn s xs) (hys : Yields turn s ys) : xs = ys := by
  induction hxs generalizing ys with
  | stop hstop =>
    cases hys with
    | stop _ => rfl
    | step hturn _ => simp [hstop] at hturn
  | step hturn _ ih =>
    cases hys with
    | stop hstop => simp [hturn] at hstop
    | step hturn' hrest =>
      obtain ⟨rfl, rfl⟩ : _ ∧ _ := by simpa [hturn] using hturn'
      rw [ih hrest]

theorem Yields.iff_eq {σ α : Type} {turn : σ → Option (List α × σ)} {s : σ} {xs ys : List α}
    (h : Yields turn s xs) : Yields turn s ys ↔ ys = xs := by
  constructor
  · intro hys
    exact hys.unique h
  · rintro rfl
    exact h

/-- What the walk keeps between two turns. -/
structure WalkState where
  work : List Pending
  /-- The path left behind by the last node visited, and that node. -/
  ancestors : List Place
  /-- The index to be given next. -/
  next : Nat

/-- Takes the node in front, cuts the path back to its depth, visits it, and puts its children in
front. -/
def WalkState.turn? (s : WalkState) : Option (List Visit × WalkState) :=
  match s.work with
  | [] => none
  | p :: rest =>
    let above := cutBack p.depth s.ancestors
    let here : Place := ⟨s.next, p.node⟩
    some ([⟨here, above⟩], ⟨p.below ++ rest, here :: above, s.next + 1⟩)

theorem yields_walkFrom (work : List Pending) (ancestors : List Place) (next : Nat) :
    Yields WalkState.turn? ⟨work, ancestors, next⟩ (walkFrom work ancestors next) := by
  fun_induction walkFrom work ancestors next with
  | case1 => exact .stop rfl
  | case2 ancestors next p rest above ih =>
    have hturn : WalkState.turn? ⟨p :: rest, ancestors, next⟩ =
        some ([⟨⟨next, p.node⟩, above⟩],
          ⟨p.below ++ rest, ⟨next, p.node⟩ :: above, next + 1⟩) := rfl
    exact .step hturn ih

/-- The walk is what its loop yields. -/
theorem yields_walk_iff {root : Node} {visits : List Visit} :
    Yields WalkState.turn? ⟨[⟨root, 0⟩], [], 0⟩ visits ↔ visits = walk root :=
  (yields_walkFrom [⟨root, 0⟩] [] 0).iff_eq

/-- Takes the node in front. A function is dropped with all that is below it; any other node is
handed out, and its children are put in front. -/
def scopeTurn? : List Place → Option (List Place × List Place)
  | [] => none
  | p :: rest => some (if p.node.isFunction then ([], rest) else ([p], p.children ++ rest))

theorem yields_walkScopeFrom (work : List Place) :
    Yields scopeTurn? work (walkScopeFrom work) := by
  fun_induction walkScopeFrom work with
  | case1 => exact .stop rfl
  | case2 p rest hfun ih =>
    have hturn : scopeTurn? (p :: rest) = some ([], rest) := by
      rw [scopeTurn?, if_pos hfun]
    exact .step hturn ih
  | case3 p rest hfun ih =>
    have hturn : scopeTurn? (p :: rest) = some ([p], p.children ++ rest) := by
      rw [scopeTurn?, if_neg hfun]
    exact .step hturn ih

/-- The scoped walk is what its loop yields. -/
theorem yields_walkScope_iff {root : Place} {nodes : List Place} :
    Yields scopeTurn? [root] nodes ↔ nodes = walkScope root :=
  (yields_walkScopeFrom [root]).iff_eq

end CallFlow.Tree
