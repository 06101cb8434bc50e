import Mathlib.Data.List.Basic
import CallFlow.Text.Search

/-!
# Cutting a text at a mark

The pieces of a text hold no mark (`Text.not_mem_of_mem_splitAt`), and joined by the mark they are
the text again (`Text.intercalate_splitAt`). Pieces without marks are got back from the text that
joins them (`Text.splitAt_intercalate`), so these two facts say what the pieces are.
-/

namespace CallFlow.Text

theorem splitAt_eq_splitOn (mark : Char) (cs : List Char) : splitAt mark cs = cs.splitOn mark := by
  induction cs with
  | nil => rw [splitAt, List.splitOn_nil]
  | cons c cs ih =>
    rw [splitAt, List.splitOn_cons_eq_if_modifyHead, ih]
    by_cases hc : (c == mark) = true
    · rw [if_pos hc, if_pos hc]
    · rw [if_neg hc, if_neg hc]
      cases hsplit : cs.splitOn mark with
      | nil => exact absurd hsplit (List.splitOn_ne_nil mark cs)
      | cons p ps => rfl

theorem splitAt_ne_nil (mark : Char) (cs : List Char) : splitAt mark cs ≠ [] := by
  rw [splitAt_eq_splitOn]
  exact List.splitOn_ne_nil mark cs

/-- No piece holds the mark. -/
theorem not_mem_of_mem_splitAt {mark : Char} {cs p : List Char} (hp : p ∈ splitAt mark cs) :
    mark ∉ p := by
  induction cs generalizing p with
  | nil => simp_all [splitAt]
  | cons c cs ih =>
    rw [splitAt] at hp
    by_cases hc : (c == mark) = true
    · rw [if_pos hc] at hp
      rcases List.mem_cons.1 hp with rfl | hp
      · exact List.not_mem_nil
      · exact ih hp
    · have hne : mark ≠ c := fun h => hc (beq_iff_eq.2 h.symm)
      rw [if_neg hc] at hp
      cases hsplit : splitAt mark cs with
      | nil =>
        rw [hsplit, List.mem_singleton] at hp
        simp [hp, hne]
      | cons q qs =>
        rw [hsplit] at ih hp
        rcases List.mem_cons.1 hp with rfl | hp
        · have hq : mark ∉ q := ih (List.mem_cons_self ..)
          simp [hq, hne]
        · exact ih (List.mem_cons_of_mem _ hp)

theorem intercalate_splitAt (mark : Char) (cs : List Char) :
    [mark].intercalate (splitAt mark cs) = cs := by
  rw [splitAt_eq_splitOn]
  exact List.intercalate_splitOn mark

/-- Pieces without marks are got back from the text that joins them. -/
theorem splitAt_intercalate {mark : Char} {ps : List (List Char)} (h : ∀ p ∈ ps, mark ∉ p)
    (hne : ps ≠ []) : splitAt mark ([mark].intercalate ps) = ps := by
  rw [splitAt_eq_splitOn]
  exact List.splitOn_intercalate mark h hne

end CallFlow.Text
