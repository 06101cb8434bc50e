import Mathlib.Data.List.Infix
import CallFlow.Graph.Flow
import CallFlow.Proofs.Counting

/-!
# What targets mention

A target mentions a name if the name occurs somewhere in its text (`Target.mentions_iff`), so the
mentions of a unit's functions by a list of calls are counted by the pairs of a call and a function
(`total_mentionCount`).
-/

namespace CallFlow

theorem Text.occursIn_iff {part whole : List Char} :
    occursIn part whole = true ↔ part <:+: whole := by
  induction whole with
  | nil => simp [occursIn]
  | cons c cs ih =>
    rw [occursIn, Bool.or_eq_true, ih, List.infix_cons_iff, List.isPrefixOf_iff_prefix]

theorem Target.mentions_iff {target name : String} :
    mentions target name = true ↔ name.toList <:+: target.toList :=
  Text.occursIn_iff

theorem SourceUnit.mentionCount_eq (u : SourceUnit) (target : String) :
    u.mentionCount target = u.functions.countP (·.name.toList <:+: target.toList) := by
  unfold mentionCount
  refine List.countP_congr fun f _ => ?_
  simp [Target.mentions_iff]

/-- The mentions of a unit's functions are the pairs of a call and a function whose name occurs in
the call's target. -/
theorem total_mentionCount (u : SourceUnit) (calls : List CallRecord) :
    total (calls.map fun c => u.mentionCount c.target) =
      (calls ×ˢ u.functions).countP fun p => p.2.name.toList <:+: p.1.target.toList := by
  rw [total_eq_sum, countP_product]
  simp only [SourceUnit.mentionCount_eq]

end CallFlow
