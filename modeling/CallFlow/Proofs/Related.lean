import CallFlow.Metrics.Cohesion
import CallFlow.Proofs.Mentions

/-!
# Related functions

Two functions of a module are related by evidence of five kinds, which `Related` lists. The test
finds just this evidence (`related_iff`), and the order of the two functions does not matter to it
(`Related.symm`). Evidence that is added to what is there, a call, a parameter or a keyword, leaves
related functions related (`Related.mono`).
-/

namespace CallFlow

/-- What relates two functions. -/
inductive Related (keywords : List String) (f g : FunctionRecord) : Prop
  /-- The first calls something whose name contains that of the second. -/
  | calls {target : String} (htarget : target ∈ f.calls)
      (hname : g.name.toList <:+: target.toList)
  /-- The second calls something whose name contains that of the first. -/
  | calledBy {target : String} (htarget : target ∈ g.calls)
      (hname : f.name.toList <:+: target.toList)
  /-- They have a parameter of the same name. -/
  | parameter {name : String} (hf : name ∈ f.parameters) (hg : name ∈ g.parameters)
  /-- They have calls that start from the same object. -/
  | object {s t : String} (hs : s ∈ f.calls) (ht : t ∈ g.calls)
      (hst : Target.base s = Target.base t)
  /-- A keyword occurs in both names. -/
  | keyword {k : String} (hk : k ∈ keywords) (hf : k.toList <:+: f.name.toList)
      (hg : k.toList <:+: g.name.toList)

section Evidence

variable {keywords keywords' : List String} {f f' g g' : FunctionRecord}

/-! ## The test -/

theorem callsNameOf_iff :
    callsNameOf f g = true ↔ ∃ target ∈ f.calls, g.name.toList <:+: target.toList := by
  simp only [callsNameOf, List.any_eq_true, Target.mentions_iff]

theorem meet_iff {xs ys : List String} : meet xs ys = true ↔ ∃ x ∈ xs, x ∈ ys := by
  simp only [meet, List.any_eq_true, List.contains_iff_mem]

/-- The test for related functions finds one of the five kinds of evidence. -/
theorem related_iff : related keywords f g = true ↔ Related keywords f g := by
  unfold related
  simp only [Bool.or_eq_true, callsNameOf_iff, meet_iff, List.any_eq_true, Bool.and_eq_true,
    Text.contains, Text.occursIn_iff, List.mem_map]
  constructor
  · rintro ((((⟨t, ht, hname⟩ | ⟨t, ht, hname⟩) | ⟨p, hf, hg⟩) | ⟨_, ⟨s, hs, rfl⟩, t, ht, hst⟩) |
      ⟨k, hk, hf, hg⟩)
    · exact .calls ht hname
    · exact .calledBy ht hname
    · exact .parameter hf hg
    · exact .object hs ht hst.symm
    · exact .keyword hk hf hg
  · rintro (⟨ht, hname⟩ | ⟨ht, hname⟩ | ⟨hf, hg⟩ | ⟨hs, ht, hst⟩ | ⟨hk, hf, hg⟩)
    · exact Or.inl (Or.inl (Or.inl (Or.inl ⟨_, ht, hname⟩)))
    · exact Or.inl (Or.inl (Or.inl (Or.inr ⟨_, ht, hname⟩)))
    · exact Or.inl (Or.inl (Or.inr ⟨_, hf, hg⟩))
    · exact Or.inl (Or.inr ⟨_, ⟨_, hs, rfl⟩, _, ht, hst.symm⟩)
    · exact Or.inr ⟨_, hk, hf, hg⟩

/-! ## Both ways, and with more evidence -/

theorem Related.symm (h : Related keywords f g) : Related keywords g f := by
  cases h with
  | calls htarget hname => exact .calledBy htarget hname
  | calledBy htarget hname => exact .calls htarget hname
  | parameter hf hg => exact .parameter hg hf
  | object hs ht hst => exact .object ht hs hst.symm
  | keyword hk hf hg => exact .keyword hk hg hf

/-- The function `f'` is `f` with further calls and parameters. -/
structure FunctionRecord.MoreEvidence (f f' : FunctionRecord) : Prop where
  name : f'.name = f.name
  calls : f.calls ⊆ f'.calls
  parameters : f.parameters ⊆ f'.parameters

theorem Related.mono (hkeywords : keywords ⊆ keywords') (hf : f.MoreEvidence f')
    (hg : g.MoreEvidence g') (h : Related keywords f g) : Related keywords' f' g' := by
  cases h with
  | calls htarget hname => exact .calls (hf.calls htarget) (by rwa [hg.name])
  | calledBy htarget hname => exact .calledBy (hg.calls htarget) (by rwa [hf.name])
  | parameter hpf hpg => exact .parameter (hf.parameters hpf) (hg.parameters hpg)
  | object hs ht hst => exact .object (hf.calls hs) (hg.calls ht) hst
  | keyword hk hkf hkg =>
    exact .keyword (hkeywords hk) (by rwa [hf.name]) (by rwa [hg.name])

end Evidence

end CallFlow
