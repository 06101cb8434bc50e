import Mathlib.Data.List.Basic
import CallFlow.Collect

/-!
# The first element of each key

Units, functions and callers are all collected with the same proviso: what has the key of something
already there is left out. `firstOfEach` says which elements remain, `foldl_insertNew` says that
collecting one by one gives just these, and `mem_firstOfEach_iff` which elements they are.
-/

namespace CallFlow

variable {α κ : Type} [BEq κ] [LawfulBEq κ]

/-- The elements of a list whose key no earlier element has. -/
def firstOfEach (key : α → κ) (xs : List α) : List α :=
  xs.eraseDupsBy fun a b => key a == key b

variable (key : α → κ)

omit [LawfulBEq κ] in
theorem firstOfEach_nil : firstOfEach key [] = [] := rfl

omit [LawfulBEq κ] in
theorem firstOfEach_cons (a : α) (as : List α) :
    firstOfEach key (a :: as) = a :: firstOfEach key (as.filter fun b => key b != key a) := by
  rw [firstOfEach, List.eraseDupsBy_cons]
  refine congrArg (a :: firstOfEach key ·) (List.filter_congr fun b _ => ?_)
  cases h : key b == key a <;> simp [bne, h]

omit [LawfulBEq κ] in
/-- Induction along `firstOfEach`: what follows an element is considered without the elements that
share its key. -/
theorem firstOfEach_induction {motive : List α → Prop} (nil : motive [])
    (cons : ∀ a as, motive (as.filter fun b => key b != key a) → motive (a :: as)) :
    ∀ xs, motive xs
  | [] => nil
  | a :: as => cons a as (firstOfEach_induction nil cons (as.filter fun b => key b != key a))
termination_by xs => xs.length
decreasing_by exact Nat.lt_succ_of_le (List.length_filter_le ..)

/-! ## Which elements remain -/

omit [LawfulBEq κ] in
theorem firstOfEach_sublist (xs : List α) : (firstOfEach key xs).Sublist xs := by
  induction xs using firstOfEach_induction key with
  | nil => exact List.Sublist.refl _
  | cons a as ih =>
    rw [firstOfEach_cons]
    exact List.Sublist.cons_cons _ (ih.trans List.filter_sublist)

theorem firstOfEach_pairwise (xs : List α) :
    (firstOfEach key xs).Pairwise fun a b => key a ≠ key b := by
  induction xs using firstOfEach_induction key with
  | nil => exact List.Pairwise.nil
  | cons a as ih =>
    rw [firstOfEach_cons]
    refine List.Pairwise.cons (fun b hb => ?_) ih
    have hb' := List.of_mem_filter ((firstOfEach_sublist key _).subset hb)
    exact fun h => by simp [h] at hb'

/-- What remains is what the search for its key finds. -/
theorem mem_firstOfEach_iff {xs : List α} {x : α} :
    x ∈ firstOfEach key xs ↔ xs.find? (key · == key x) = some x := by
  induction xs using firstOfEach_induction key with
  | nil => simp [firstOfEach_nil]
  | cons a as ih =>
    rw [firstOfEach_cons, List.mem_cons]
    by_cases hk : key a = key x
    · -- nothing with this key is looked at after `a`
      have hnot : x ∉ firstOfEach key (as.filter fun b => key b != key a) := by
        intro hx
        have hx' := List.of_mem_filter ((firstOfEach_sublist key _).subset hx)
        simp [hk] at hx'
      rw [List.find?_cons_of_pos (by simp [hk]), Option.some.injEq]
      exact ⟨fun h => (h.resolve_right hnot).symm, fun h => Or.inl h.symm⟩
    · have hsame : (as.filter fun b => key b != key a).find? (key · == key x) =
          as.find? (key · == key x) := by
        rw [List.find?_filter]
        refine congrArg (as.find? ·) (funext fun b => ?_)
        by_cases hb : key b = key x
        · simp [hb, Ne.symm hk]
        · simp [hb]
      have hne : x ≠ a := fun h => hk (by rw [h])
      rw [ih, hsame, List.find?_cons_of_neg (by simpa using hk)]
      exact or_iff_right hne

/-- Every key is still there. -/
theorem exists_mem_firstOfEach {xs : List α} {x : α} (hx : x ∈ xs) :
    ∃ y ∈ firstOfEach key xs, key y = key x := by
  obtain ⟨y, hy⟩ : ∃ y, xs.find? (key · == key x) = some y :=
    Option.isSome_iff_exists.1 (List.find?_isSome.2 ⟨x, hx, by simp⟩)
  have hk : key y = key x := by simpa using List.find?_some hy
  exact ⟨y, (mem_firstOfEach_iff key).2 (by rw [hk]; exact hy), hk⟩

theorem firstOfEach_eq_self {xs : List α} (h : xs.Pairwise fun a b => key a ≠ key b) :
    firstOfEach key xs = xs := by
  induction h with
  | nil => rfl
  | @cons a as ha _ ih =>
    have hall : as.filter (fun b => key b != key a) = as :=
      List.filter_eq_self.2 fun b hb => by simpa using (ha b hb).symm
    rw [firstOfEach_cons, hall, ih]

theorem filter_key_eq_singleton {xs : List α} (h : xs.Pairwise fun a b => key a ≠ key b) {x : α}
    (hx : x ∈ xs) : xs.filter (key · == key x) = [x] := by
  induction h with
  | nil => exact absurd hx (List.not_mem_nil)
  | @cons a as ha _ ih =>
    rcases List.mem_cons.1 hx with rfl | hx
    · have hnone : as.filter (key · == key x) = [] :=
        List.filter_eq_nil_iff.2 fun b hb => by simpa using (ha b hb).symm
      rw [List.filter_cons_of_pos (by simp), hnone]
    · rw [List.filter_cons_of_neg (by simpa using ha x hx), ih hx]

omit [LawfulBEq κ] in
theorem map_key_firstOfEach (xs : List α) :
    (firstOfEach key xs).map key = (xs.map key).eraseDups := by
  induction xs using firstOfEach_induction key with
  | nil => rfl
  | cons a as ih =>
    rw [firstOfEach_cons, List.map_cons, List.map_cons, List.eraseDups_cons, ih, List.filter_map]
    rfl

/-- A condition on keys may be imposed before or after. -/
theorem filter_firstOfEach (p : κ → Bool) (xs : List α) :
    (firstOfEach key xs).filter (fun x => p (key x)) =
      firstOfEach key (xs.filter fun x => p (key x)) := by
  induction xs using firstOfEach_induction key with
  | nil => rfl
  | cons a as ih =>
    rw [firstOfEach_cons]
    by_cases hp : p (key a) = true
    · rw [List.filter_cons_of_pos (p := fun x => p (key x)) hp,
        List.filter_cons_of_pos (p := fun x => p (key x)) hp, firstOfEach_cons, ih,
        List.filter_filter, List.filter_filter]
      simp only [Bool.and_comm]
    · -- all elements with the key of `a` are filtered out anyway
      have hall : ∀ b ∈ as, (p (key b) && (key b != key a)) = p (key b) := by
        intro b _
        by_cases hb : key b = key a
        · simp [hb, hp]
        · simp [hb]
      rw [List.filter_cons_of_neg (p := fun x => p (key x)) hp,
        List.filter_cons_of_neg (p := fun x => p (key x)) hp, ih, List.filter_filter,
        List.filter_congr hall]

/-- Elements may be changed before or after, if their keys are changed one to one. -/
theorem firstOfEach_map {β ι : Type} [BEq ι] [LawfulBEq ι] {k : β → ι} {f : α → β} {g : κ → ι}
    (hg : Function.Injective g) (hkey : ∀ x, k (f x) = g (key x)) (xs : List α) :
    firstOfEach k (xs.map f) = (firstOfEach key xs).map f := by
  induction xs using firstOfEach_induction key with
  | nil => rfl
  | cons a as ih =>
    have hsame : (as.map f).filter (fun b => k b != k (f a)) =
        (as.filter fun b => key b != key a).map f := by
      rw [List.filter_map]
      refine congrArg (List.map f ·) (List.filter_congr fun b _ => ?_)
      rw [Function.comp_apply, hkey, hkey, bne, bne, Bool.eq_iff_iff]
      simp [hg.eq_iff]
    rw [List.map_cons, firstOfEach_cons, hsame, ih, firstOfEach_cons, List.map_cons]

/-! ## Collecting one by one -/

theorem foldl_insertNew_append (xs kept : List α) :
    xs.foldl (insertNew key) kept =
      kept ++ firstOfEach key (xs.filter fun x => !kept.any (key · == key x)) := by
  induction xs generalizing kept with
  | nil => simp [firstOfEach_nil]
  | cons x xs ih =>
    rw [List.foldl_cons, ih, insertNew]
    by_cases hx : kept.any (key · == key x) = true
    · rw [if_pos hx, List.filter_cons_of_neg (by simp [hx])]
    · have hsplit : (xs.filter fun y => !(kept ++ [x]).any (key · == key y)) =
          (xs.filter fun y => !kept.any (key · == key y)).filter fun y => key y != key x := by
        rw [List.filter_filter]
        refine List.filter_congr fun y _ => ?_
        rw [List.any_append, Bool.not_or, Bool.and_comm, List.any_cons, List.any_nil, Bool.or_false,
          bne, BEq.comm]
      rw [if_neg hx, hsplit, List.filter_cons_of_pos (by simp [hx]), firstOfEach_cons,
        List.append_assoc, List.singleton_append]

/-- Collecting one by one gives the first element of each key. -/
theorem foldl_insertNew (xs : List α) : xs.foldl (insertNew key) [] = firstOfEach key xs := by
  rw [foldl_insertNew_append]
  simp

/-- What is collected after one more element. -/
theorem insertNew_firstOfEach (xs : List α) (x : α) :
    insertNew key (firstOfEach key xs) x = firstOfEach key (xs ++ [x]) := by
  rw [← foldl_insertNew, ← foldl_insertNew, List.foldl_append]
  rfl

/-- An element whose key was there before leaves no trace. -/
theorem firstOfEach_append_cons {xs : List α} {x : α} (h : ∃ y ∈ xs, key y = key x)
    (ys : List α) : firstOfEach key (xs ++ x :: ys) = firstOfEach key (xs ++ ys) := by
  have hthere : (firstOfEach key xs).any (key · == key x) = true := by
    obtain ⟨y, hy, hkey⟩ := h
    obtain ⟨z, hz, hkey'⟩ := exists_mem_firstOfEach key hy
    exact List.any_eq_true.2 ⟨z, hz, by simp [hkey', hkey]⟩
  rw [← foldl_insertNew, ← foldl_insertNew, List.foldl_append, List.foldl_append, List.foldl_cons,
    foldl_insertNew, insertNew, if_pos hthere]

/-- Lists without a common key are collected separately. -/
theorem firstOfEach_append {xs ys : List α} (h : ∀ x ∈ xs, ∀ y ∈ ys, key x ≠ key y) :
    firstOfEach key (xs ++ ys) = firstOfEach key xs ++ firstOfEach key ys := by
  have hnew : ys.filter (fun y => !(firstOfEach key xs).any (key · == key y)) = ys := by
    rw [List.filter_eq_self]
    intro y hy
    rw [Bool.not_eq_true', List.any_eq_false]
    intro x hx
    simpa using h x ((firstOfEach_sublist key xs).subset hx) y hy
  rw [← foldl_insertNew, List.foldl_append, foldl_insertNew, foldl_insertNew_append, hnew]

theorem firstOfEach_flatMap {ι : Type} {f : ι → List α} {is : List ι}
    (h : is.Pairwise fun i j => ∀ x ∈ f i, ∀ y ∈ f j, key x ≠ key y) :
    firstOfEach key (is.flatMap f) = is.flatMap fun i => firstOfEach key (f i) := by
  induction h with
  | nil => rfl
  | @cons i is hi _ ih =>
    rw [List.flatMap_cons, List.flatMap_cons, firstOfEach_append, ih]
    intro x hx y hy
    obtain ⟨j, hj, hy⟩ := List.mem_flatMap.1 hy
    exact hi j hj x hx y hy

/-! ## Looking up a key -/

/-- Among distinct keys, the search for a key finds what has it. -/
theorem find?_key_eq_some_iff {xs : List α} (h : xs.Pairwise fun a b => key a ≠ key b) {k : κ}
    {x : α} : xs.find? (key · == k) = some x ↔ x ∈ xs ∧ key x = k := by
  constructor
  · intro hx
    exact ⟨List.mem_of_find?_eq_some hx, by simpa using List.find?_some hx⟩
  · rintro ⟨hx, rfl⟩
    rw [← List.head?_filter, filter_key_eq_singleton key h hx]
    rfl

/-- Among distinct keys, the order does not matter to the search. -/
theorem find?_key_perm {xs ys : List α} (h : xs.Pairwise fun a b => key a ≠ key b)
    (hperm : xs.Perm ys) (k : κ) : xs.find? (key · == k) = ys.find? (key · == k) := by
  have h' : ys.Pairwise fun a b => key a ≠ key b := (hperm.pairwise_iff Ne.symm).1 h
  ext x
  rw [find?_key_eq_some_iff key h, find?_key_eq_some_iff key h', hperm.mem_iff]

/-- Among distinct keys, looking one up finds the value that stands with it. -/
theorem lookup_eq_some_iff_mem {es : List (κ × α)} (h : (es.map (·.1)).Nodup) {k : κ} {x : α} :
    es.lookup k = some x ↔ (k, x) ∈ es := by
  induction es with
  | nil => simp
  | cons e es ih =>
    obtain ⟨k', x'⟩ := e
    obtain ⟨hnew, hes⟩ := List.nodup_cons.1 h
    rw [List.lookup_cons, List.mem_cons, Prod.mk.injEq]
    by_cases hk : k = k'
    · subst hk
      have hnot : (k, x) ∉ es := fun hmem => hnew (List.mem_map.2 ⟨_, hmem, rfl⟩)
      simp [hnot, eq_comm]
    · rw [beq_false_of_ne hk]
      simp [hk, ih hes]

/-! ## Lists without repetition -/

theorem nodup_eraseDups (ks : List κ) : ks.eraseDups.Nodup :=
  firstOfEach_pairwise (fun k => k) ks

/-- What is left stands in the order of first occurrences: each element has one before all those of
a later one. -/
theorem pairwise_eraseDups (ks : List κ) :
    ks.eraseDups.Pairwise fun a b => ∃ before after, ks = before ++ a :: after ∧ b ∉ before := by
  induction ks using firstOfEach_induction (fun k : κ => k) with
  | nil => exact List.Pairwise.nil
  | cons k ks ih =>
    rw [List.eraseDups_cons]
    refine List.Pairwise.cons (fun b _ => ⟨[], ks, rfl, List.not_mem_nil⟩) ?_
    refine ih.imp_of_mem ?_
    rintro a b - hb ⟨before, after, hsplit, hnot⟩
    obtain ⟨front, back, rfl, rfl, hback⟩ := List.filter_eq_append_iff.1 hsplit
    obtain ⟨passed, rest, rfl, hpassed, -, -⟩ := List.filter_eq_cons_iff.1 hback
    have hbk : (b != k) = true := (List.mem_filter.1 (List.mem_eraseDups.1 hb)).2
    refine ⟨k :: (front ++ passed), rest, by simp, ?_⟩
    simp only [List.mem_cons, List.mem_append, not_or]
    exact ⟨by simpa using hbk, fun h => hnot (List.mem_filter.2 ⟨h, hbk⟩), fun h => hpassed b h hbk⟩

theorem length_eraseDups_eq_iff (ks : List κ) : ks.eraseDups.length = ks.length ↔ ks.Nodup := by
  have hsublist : ks.eraseDups.Sublist ks := firstOfEach_sublist (fun k => k) ks
  constructor
  · intro h
    rw [← hsublist.eq_of_length h]
    exact nodup_eraseDups ks
  · intro h
    exact congrArg List.length (firstOfEach_eq_self (fun k => k) h)

theorem eraseDups_perm {ks ls : List κ} (h : ks.Perm ls) : ks.eraseDups.Perm ls.eraseDups := by
  rw [List.perm_ext_iff_of_nodup (nodup_eraseDups ks) (nodup_eraseDups ls)]
  intro k
  rw [List.mem_eraseDups, List.mem_eraseDups, h.mem_iff]

theorem filter_eraseDups (p : κ → Bool) (ks : List κ) :
    ks.eraseDups.filter p = (ks.filter p).eraseDups :=
  filter_firstOfEach (fun k => k) p ks

theorem eraseDups_append_of_subset {ks ls : List κ} (h : ∀ k ∈ ls, k ∈ ks) :
    (ks ++ ls).eraseDups = ks.eraseDups := by
  have hnone : ls.removeAll ks = [] := by
    rw [List.removeAll, List.filter_eq_nil_iff]
    intro k hk
    simpa using h k hk
  rw [List.eraseDups_append, hnone, List.eraseDups_nil, List.append_nil]

/-- What is left of a list after another depends only on what is left of each. -/
theorem eraseDups_append_congr {ks ks' ls ls' : List κ} (hk : ks.eraseDups = ks'.eraseDups)
    (hl : ls.eraseDups = ls'.eraseDups) : (ks ++ ls).eraseDups = (ks' ++ ls').eraseDups := by
  have hmem : ∀ k, ks.elem k = ks'.elem k := by
    intro k
    rw [Bool.eq_iff_iff, List.elem_iff, List.elem_iff, ← List.mem_eraseDups, hk, List.mem_eraseDups]
  rw [List.eraseDups_append, List.eraseDups_append, List.removeAll, List.removeAll,
    ← filter_eraseDups, ← filter_eraseDups, hk, hl]
  simp only [hmem]

theorem eraseDups_flatMap_congr {xs : List α} {f g : α → List κ}
    (h : ∀ x ∈ xs, (f x).eraseDups = (g x).eraseDups) :
    (xs.flatMap f).eraseDups = (xs.flatMap g).eraseDups := by
  induction xs with
  | nil => rfl
  | cons x xs ih =>
    rw [List.flatMap_cons, List.flatMap_cons]
    exact eraseDups_append_congr (h x (List.mem_cons_self ..))
      (ih fun y hy => h y (List.mem_cons_of_mem _ hy))

/-- The same list over and over is as good as once. -/
theorem eraseDups_flatMap_const (p : α → Bool) (ks : List κ) (xs : List α) :
    (xs.flatMap fun x => if p x then ks else []).eraseDups =
      (if xs.any p then ks else []).eraseDups := by
  induction xs with
  | nil => rfl
  | cons x xs ih =>
    rw [List.flatMap_cons, List.any_cons]
    by_cases hx : p x = true
    · rw [if_pos hx, hx, Bool.true_or, if_pos rfl, eraseDups_append_of_subset]
      intro k hk
      obtain ⟨y, -, hk⟩ := List.mem_flatMap.1 hk
      split at hk
      · exact hk
      · exact absurd hk (List.not_mem_nil)
    · rw [if_neg hx, List.nil_append, ih, Bool.eq_false_iff.2 hx, Bool.false_or]

theorem eraseDups_map {ι : Type} [BEq ι] [LawfulBEq ι] {f : κ → ι} (hf : Function.Injective f)
    (ks : List κ) : (ks.map f).eraseDups = ks.eraseDups.map f :=
  firstOfEach_map (fun k => k) (k := fun i => i) hf (fun _ => rfl) ks

end CallFlow
