import Mathlib.Algebra.GroupWithZero.Nat
import Mathlib.Algebra.Order.BigOperators.Group.List
import Mathlib.Data.List.ProdSigma
import CallFlow.Number.Natural

/-!
# Counting in two ways

Figures are sums of counts over lists: for each unit the calls, for each call the functions. Two
such figures are compared by summing a table once by its rows and once by its columns.
-/

namespace CallFlow

theorem total_eq_sum (ns : List Nat) : total ns = ns.sum := by
  induction ns with
  | nil => rfl
  | cons n ns ih => rw [total, ih, List.sum_cons]

section Tables

variable {α β : Type}

/-- The rows and the columns of a table have the same total. -/
theorem sum_map_sum_comm (f : α → β → Nat) (xs : List α) (ys : List β) :
    (xs.map fun x => (ys.map (f x)).sum).sum = (ys.map fun y => (xs.map (f · y)).sum).sum := by
  induction xs with
  | nil => simp
  | cons x xs ih => simp only [List.map_cons, List.sum_cons, ih, List.sum_map_add]

theorem countP_eq_sum (p : α → Bool) (xs : List α) :
    xs.countP p = (xs.map fun x => (p x).toNat).sum := by
  induction xs with
  | nil => rfl
  | cons x xs ih =>
    rw [List.countP_cons, List.map_cons, List.sum_cons, ih, Nat.add_comm]
    cases p x <;> rfl

/-- The marks of a table may be counted by rows or by columns. -/
theorem sum_countP_comm (p : α → β → Bool) (xs : List α) (ys : List β) :
    (xs.map fun x => ys.countP (p x)).sum = (ys.map fun y => xs.countP (p · y)).sum := by
  simp only [countP_eq_sum]
  exact sum_map_sum_comm (fun x y => (p x y).toNat) xs ys

theorem sum_map_product (f : α × β → Nat) (xs : List α) (ys : List β) :
    ((xs ×ˢ ys).map f).sum = (xs.map fun x => (ys.map fun y => f (x, y)).sum).sum := by
  induction xs with
  | nil => rfl
  | cons x xs ih =>
    rw [List.product_cons, List.map_append, List.sum_append, List.map_map, ih, List.map_cons,
      List.sum_cons]
    rfl

theorem countP_product (p : α × β → Bool) (xs : List α) (ys : List β) :
    (xs ×ˢ ys).countP p = (xs.map fun x => ys.countP fun y => p (x, y)).sum := by
  rw [countP_eq_sum, sum_map_product]
  simp only [countP_eq_sum]

/-- What is read off the marks of a table, row by row. -/
theorem map_filter_product {γ : Type} (p : α × β → Bool) (f : α × β → γ) (xs : List α)
    (ys : List β) :
    ((xs ×ˢ ys).filter p).map f =
      xs.flatMap fun x => (ys.filter fun y => p (x, y)).map fun y => f (x, y) := by
  have hrows : xs ×ˢ ys = xs.flatMap fun x => ys.map (x, ·) := rfl
  simp only [hrows, List.filter_flatMap, List.filter_map, List.map_flatMap, List.map_map]
  rfl

theorem sum_map_filter (p : α → Bool) (f : α → Nat) (xs : List α) :
    ((xs.filter p).map f).sum = (xs.map fun x => if p x then f x else 0).sum := by
  induction xs with
  | nil => rfl
  | cons x xs ih => cases hp : p x <;> simp [hp, ih]

end Tables

end CallFlow
