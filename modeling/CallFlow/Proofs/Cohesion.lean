import Mathlib.Data.Nat.Choose.Basic
import CallFlow.Proofs.FewerCalls
import CallFlow.Proofs.Rounding

/-!
# Cohesion as a share of pairs

The cohesion of a module is the share of its pairs of functions that are related.

* `length_pairsOf`, `forall_mem_pairsOf_iff` — every two functions make one pair;
* `countP_pairsOf_perm` — a relation that is symmetric has as many pairs in every order of the
  functions, so order does not matter to the score (`CohesionScore.of_perm`);
* `relatedCount_mono` — more evidence gives no fewer related pairs;
* `CohesionRating.ofExact_mono` — a larger score is rated no lower, whatever the thresholds are and
  in whichever order they stand. The stored score is rounded, but in order
  (`CohesionScore.of_noLower`).
-/

namespace CallFlow

/-! ## Pairs -/

section Pairs

variable {α : Type} {xs ys : List α}

theorem length_pairsOf (xs : List α) : (pairsOf xs).length = xs.length.choose 2 := by
  induction xs with
  | nil => rfl
  | cons x xs ih =>
    rw [pairsOf, List.length_append, List.length_map, ih, List.length_cons,
      Nat.choose_succ_succ xs.length 1, Nat.choose_one_right]

theorem forall_mem_pairsOf_iff {R : α → α → Prop} :
    (∀ p ∈ pairsOf xs, R p.1 p.2) ↔ xs.Pairwise R := by
  induction xs with
  | nil => simp [pairsOf]
  | cons x xs ih =>
    rw [pairsOf, List.forall_mem_append, List.forall_mem_map, ih, List.pairwise_cons]

/-- The order of a list does not matter to the number of its pairs in a symmetric relation. -/
theorem countP_pairsOf_perm {p : α → α → Bool} (hsymm : ∀ x y, p x y = p y x)
    (h : xs.Perm ys) :
    (pairsOf xs).countP (fun q => p q.1 q.2) = (pairsOf ys).countP fun q => p q.1 q.2 := by
  induction h with
  | nil => rfl
  | @cons x xs ys h ih =>
    rw [pairsOf, pairsOf, List.countP_append, List.countP_append, ih, List.countP_map,
      List.countP_map, h.countP_eq]
  | swap x y xs =>
    simp only [pairsOf, List.map_cons, List.cons_append, List.countP_cons, List.countP_append,
      hsymm x y]
    omega
  | trans _ _ ih ih' => exact ih.trans ih'

end Pairs

/-! ## Related pairs -/

section RelatedPairs

variable {keywords keywords' : List String} {fs gs : List FunctionRecord}

theorem related_comm (keywords : List String) (f g : FunctionRecord) :
    related keywords f g = related keywords g f := by
  rw [Bool.eq_iff_iff, related_iff, related_iff]
  exact ⟨Related.symm, Related.symm⟩

theorem relatedCount_perm (keywords : List String) (h : fs.Perm gs) :
    relatedCount keywords fs = relatedCount keywords gs :=
  countP_pairsOf_perm (related_comm keywords) h

/-- More evidence gives no fewer related pairs. -/
theorem relatedCount_mono (hkeywords : keywords ⊆ keywords')
    (h : List.Forall₂ FunctionRecord.MoreEvidence fs gs) :
    relatedCount keywords fs ≤ relatedCount keywords' gs := by
  refine countP_le_of_inStep (pairsOf_inStep h) fun p q hpq hp => ?_
  exact related_iff.2 ((related_iff.1 hp).mono hkeywords hpq.1 hpq.2)

theorem relatedCount_eq_zero_iff :
    relatedCount keywords fs = 0 ↔ fs.Pairwise fun f g => ¬Related keywords f g := by
  rw [relatedCount, List.countP_eq_zero, ← forall_mem_pairsOf_iff]
  simp only [related_iff]

theorem relatedCount_eq_length_iff :
    relatedCount keywords fs = (pairsOf fs).length ↔ fs.Pairwise (Related keywords) := by
  rw [relatedCount, List.countP_eq_length, ← forall_mem_pairsOf_iff]
  simp only [related_iff]

end RelatedPairs

/-! ## Ratings -/

namespace CohesionRating

/-- The place of a rating from low to high. -/
def rank : CohesionRating → Nat
  | low => 0
  | medium => 1
  | high => 2

/-- Rates an exact score by the thresholds. -/
def ofExact (c : AnalysisConfig) (score : ℚ) : CohesionRating :=
  if c.highThreshold.toRat < score then .high
  else if c.mediumThreshold.toRat < score then .medium
  else .low

/-- A stored score is rated by its exact value. -/
theorem of_eq_ofExact (c : AnalysisConfig) (score : Binary64) :
    CohesionRating.of c score = ofExact c score.toRat := by
  simp only [CohesionRating.of, ofExact, Binary64.lt_iff_toRat]

/-- A larger score is rated no lower. If the threshold for medium is the greater one, there is no
medium between, and the rating goes from low to high at once. -/
theorem ofExact_mono (c : AnalysisConfig) {x y : ℚ} (h : x ≤ y) :
    (ofExact c x).rank ≤ (ofExact c y).rank := by
  unfold ofExact
  by_cases hhigh : c.highThreshold.toRat < x
  · rw [if_pos hhigh, if_pos (hhigh.trans_le h)]
  · by_cases hmedium : c.mediumThreshold.toRat < x
    · rw [if_neg hhigh, if_pos hmedium, if_pos (hmedium.trans_le h)]
      split <;> decide
    · rw [if_neg hhigh, if_neg hmedium]
      exact Nat.zero_le _

end CohesionRating

/-! ## Scores -/

namespace CohesionScore

variable {c : AnalysisConfig} {u : SourceUnit}

/-- The exact share of related pairs. -/
def share (s : CohesionScore) : ℚ := s.relatedPairs / s.totalPairs

theorem of_eq (hn : 2 ≤ u.functions.length) :
    CohesionScore.of c u =
      let related := relatedCount c.keywords u.functions
      let total := (pairsOf u.functions).length
      { moduleName := u.moduleName, path := u.path
        cohesion := Binary64.quotient related total
        relatedPairs := related, totalPairs := total
        rating := CohesionRating.of c (Binary64.quotient related total) } := by
  unfold CohesionScore.of
  split
  · rename_i hnone
    simp [hnone] at hn
  · rename_i hone
    simp [hone] at hn
  · rfl

/-- The score `s` is the share of the pairs of `fs` that are related. -/
structure IsShareOf (s : CohesionScore) (keywords : List String) (fs : List FunctionRecord) :
    Prop where
  totalPairs : s.totalPairs = fs.length * (fs.length - 1) / 2
  relatedPairs_le : s.relatedPairs ≤ s.totalPairs
  share_nonneg : 0 ≤ s.share
  share_le_one : s.share ≤ 1
  none_related : s.relatedPairs = 0 ↔ fs.Pairwise fun f g => ¬Related keywords f g
  all_related : s.relatedPairs = s.totalPairs ↔ fs.Pairwise (Related keywords)
  /-- The score is stored as the nearest number, which is a share too. -/
  cohesion : s.cohesion = Binary64.quotient s.relatedPairs s.totalPairs
  cohesion_nonneg : 0 ≤ s.cohesion.toRat
  cohesion_le_one : s.cohesion.toRat ≤ 1

theorem isShareOf_of (c : AnalysisConfig) (hn : 2 ≤ u.functions.length) :
    (CohesionScore.of c u).IsShareOf c.keywords u.functions := by
  rw [of_eq hn]
  have hle : relatedCount c.keywords u.functions ≤ (pairsOf u.functions).length :=
    List.countP_le_length
  have hpos : 0 < (pairsOf u.functions).length := by
    rw [length_pairsOf]
    exact Nat.choose_pos hn
  have hcohesion := Binary64.toRat_quotient_mem hpos hle
  exact {
    totalPairs := (length_pairsOf _).trans (Nat.choose_two_right _)
    relatedPairs_le := hle
    share_nonneg := div_nonneg (Nat.cast_nonneg _) (Nat.cast_nonneg _)
    share_le_one := div_le_one_of_le₀ (Nat.cast_le.2 hle) (Nat.cast_nonneg _)
    none_related := relatedCount_eq_zero_iff
    all_related := relatedCount_eq_length_iff
    cohesion := rfl
    cohesion_nonneg := hcohesion.1
    cohesion_le_one := hcohesion.2 }

/-- The order of the functions does not matter. -/
theorem of_perm (c : AnalysisConfig) (hn : 2 ≤ u.functions.length) {fs : List FunctionRecord}
    (h : fs.Perm u.functions) : CohesionScore.of c { u with functions := fs } = .of c u := by
  have htotal : (pairsOf fs).length = (pairsOf u.functions).length := by
    rw [length_pairsOf, length_pairsOf, h.length_eq]
  rw [of_eq hn, of_eq (by rwa [h.length_eq])]
  simp only [relatedCount_perm c.keywords h, htotal]

end CohesionScore

/-- The configuration `c'` is `c` with further keywords. -/
structure AnalysisConfig.MoreKeywords (c c' : AnalysisConfig) : Prop where
  keywords : c.keywords ⊆ c'.keywords
  highThreshold : c'.highThreshold = c.highThreshold
  mediumThreshold : c'.mediumThreshold = c.mediumThreshold

theorem AnalysisConfig.MoreKeywords.ofExact {c c' : AnalysisConfig} (h : c.MoreKeywords c') :
    CohesionRating.ofExact c' = CohesionRating.ofExact c := by
  funext score
  rw [CohesionRating.ofExact, CohesionRating.ofExact, h.highThreshold, h.mediumThreshold]

/-- The score `s'` has as many pairs as `s`, no fewer of them are related, and it is rated no lower,
both by the exact share and by the stored one. -/
structure CohesionScore.NoLower (c : AnalysisConfig) (s s' : CohesionScore) : Prop where
  totalPairs : s'.totalPairs = s.totalPairs
  relatedPairs : s.relatedPairs ≤ s'.relatedPairs
  exactRating : (CohesionRating.ofExact c s.share).rank ≤ (CohesionRating.ofExact c s'.share).rank
  rating : s.rating.rank ≤ s'.rating.rank

theorem CohesionScore.of_noLower {c c' : AnalysisConfig} {u u' : SourceUnit}
    (hn : 2 ≤ u.functions.length) (hc : c.MoreKeywords c')
    (h : List.Forall₂ FunctionRecord.MoreEvidence u.functions u'.functions) :
    (CohesionScore.of c u).NoLower c (CohesionScore.of c' u') := by
  have htotal : (pairsOf u'.functions).length = (pairsOf u.functions).length := by
    rw [length_pairsOf, length_pairsOf, h.length_eq]
  have hrelated := relatedCount_mono hc.keywords h
  have hle : relatedCount c'.keywords u'.functions ≤ (pairsOf u.functions).length := by
    rw [← htotal]
    exact List.countP_le_length
  rw [of_eq hn, of_eq (by rwa [← h.length_eq])]
  refine ⟨htotal, hrelated, ?_, ?_⟩
  · refine CohesionRating.ofExact_mono c ?_
    simp only [share, htotal]
    exact div_le_div_of_nonneg_right (Nat.cast_le.2 hrelated) (Nat.cast_nonneg _)
  · simp only [CohesionRating.of_eq_ofExact, hc.ofExact, htotal]
    exact CohesionRating.ofExact_mono c (Binary64.toRat_quotient_mono hrelated hle)

/-- **Cohesion is a share of pairs, without regard to order, and grows with evidence.** In a module
of two or more functions every two of them make one pair, and the score is the share of the pairs
that are related. The functions may stand in any order. Further calls, parameters and keywords never
lower the number of related pairs or the rating, whatever the thresholds are. -/
theorem cohesion_share_of_pairs (c : AnalysisConfig) (u : SourceUnit)
    (hn : 2 ≤ u.functions.length) :
    (CohesionScore.of c u).IsShareOf c.keywords u.functions ∧
    (∀ fs : List FunctionRecord, fs.Perm u.functions →
      CohesionScore.of c { u with functions := fs } = CohesionScore.of c u) ∧
    ∀ (c' : AnalysisConfig) (u' : SourceUnit), c.MoreKeywords c' →
      List.Forall₂ FunctionRecord.MoreEvidence u.functions u'.functions →
      (CohesionScore.of c u).NoLower c (CohesionScore.of c' u') :=
  ⟨CohesionScore.isShareOf_of c hn, fun _ h => CohesionScore.of_perm c hn h,
    fun _ _ hc h => CohesionScore.of_noLower hn hc h⟩

/-! ### Three functions, of which two share an object -/

namespace ThreeFunctions

def function (name : String) (calls : List String) : FunctionRecord :=
  { name := name, file := "a.js", moduleName := "a", calls := calls, line := 1, endLine := 1
    kind := .declaration }

def unit (lastCalls : List String) : SourceUnit :=
  { path := "a.js", moduleName := "a"
    functions := [function "alpha" ["socket.emit"], function "beta" ["socket.join"],
      function "gamma" lastCalls] }

/-- Thresholds of which that for medium is the greater one. -/
def crossed : AnalysisConfig :=
  { highThreshold := Binary64.quotient 3 10, mediumThreshold := Binary64.quotient 7 10 }

end ThreeFunctions

/-- One pair of three is related, and all are when the third function calls the object too. -/
theorem cohesion_share_of_pairs_threeFunctions :
    let before := CohesionScore.of ThreeFunctions.crossed (ThreeFunctions.unit [])
    let after := CohesionScore.of ThreeFunctions.crossed (ThreeFunctions.unit ["socket.on"])
    (ThreeFunctions.unit []).functions.length = 3 ∧
      before.relatedPairs = 1 ∧ before.totalPairs = 3 ∧ before.share ≤ 1 ∧
      CohesionScore.of ThreeFunctions.crossed { ThreeFunctions.unit [] with
        functions := (ThreeFunctions.unit []).functions.reverse } = before ∧
      after.relatedPairs = 3 ∧ before.NoLower ThreeFunctions.crossed after := by
  intro before after
  obtain ⟨hshare, hperm, hmore⟩ :=
    cohesion_share_of_pairs ThreeFunctions.crossed (ThreeFunctions.unit []) (by decide)
  refine ⟨rfl, by decide +kernel, by decide +kernel, hshare.share_le_one,
    hperm _ (List.reverse_perm _), by decide +kernel, hmore _ _ ?_ ?_⟩
  · exact ⟨List.Subset.refl _, rfl, rfl⟩
  · refine .cons ?_ (.cons ?_ (.cons ?_ .nil))
    all_goals exact ⟨rfl, by simp [ThreeFunctions.function], List.Subset.refl _⟩

end CallFlow
