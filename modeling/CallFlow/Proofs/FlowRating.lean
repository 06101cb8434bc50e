import CallFlow.Proofs.FewerCalls

/-!
# Ratings of information flow

A complexity is a square, and none of the thresholds of its rating is one, so that the rating is
decided by the product of fan-in and fan-out alone (`FlowRating.of_eq_ofProduct`). What is left open
below the thresholds, no flow at all or a low one, is decided by the flows themselves. Greater flows
never have a smaller complexity or a lower rating.
-/

namespace CallFlow

namespace FlowRating

/-- The place of a rating, from no flow to a very high one. -/
def rank : FlowRating → ℕ
  | none => 0
  | low => 1
  | medium => 2
  | high => 3
  | veryHigh => 4

/-- The rating by the product of fan-in and fan-out. -/
def ofProduct (fanIn fanOut : ℕ) : FlowRating :=
  if 11 ≤ fanIn * fanOut then .veryHigh
  else if 6 ≤ fanIn * fanOut then .high
  else if 3 ≤ fanIn * fanOut then .medium
  else if fanIn = 0 ∧ fanOut = 0 then .none
  else .low

/-- Each rating is given to its own range of products. -/
structure FollowsProduct (rating : FlowRating) (fanIn fanOut : ℕ) : Prop where
  veryHigh : rating = .veryHigh ↔ 11 ≤ fanIn * fanOut
  high : rating = .high ↔ 6 ≤ fanIn * fanOut ∧ fanIn * fanOut ≤ 10
  medium : rating = .medium ↔ 3 ≤ fanIn * fanOut ∧ fanIn * fanOut ≤ 5
  low : rating = .low ↔ fanIn * fanOut ≤ 2 ∧ ¬(fanIn = 0 ∧ fanOut = 0)
  none : rating = .none ↔ fanIn = 0 ∧ fanOut = 0

/-! ## Thresholds between squares -/

/-- A threshold between two successive squares is passed from the upper one on. -/
theorem lt_sq_iff {threshold k : ℕ} (hlow : k ^ 2 ≤ threshold) (hhigh : threshold < (k + 1) ^ 2)
    (n : ℕ) : threshold < n ^ 2 ↔ k + 1 ≤ n := by
  constructor
  · intro h
    by_contra hn
    have hle : n ^ 2 ≤ k ^ 2 := Nat.pow_le_pow_left (by omega) 2
    omega
  · intro h
    have hle : (k + 1) ^ 2 ≤ n ^ 2 := Nat.pow_le_pow_left h 2
    omega

end FlowRating

/-- On flows that are counted the complexity is the square of the product, also where one of them is
zero. -/
theorem flowComplexity_natCast (fanIn fanOut : ℕ) :
    flowComplexity fanIn fanOut = ((fanIn * fanOut) ^ 2 : ℕ) := by
  unfold flowComplexity
  by_cases hpos : 0 < (fanIn : ℤ) ∧ 0 < (fanOut : ℤ)
  · rw [if_pos hpos, Nat.cast_pow, Nat.cast_mul, sq]
  · have hzero : fanIn = 0 ∨ fanOut = 0 := by omega
    rw [if_neg hpos]
    rcases hzero with rfl | rfl <;> simp

namespace FlowRating

theorem of_eq_ofProduct (fanIn fanOut : ℕ) :
    FlowRating.of fanIn fanOut (flowComplexity fanIn fanOut) = ofProduct fanIn fanOut := by
  have hveryHigh : 100 < (fanIn * fanOut) ^ 2 ↔ 11 ≤ fanIn * fanOut :=
    lt_sq_iff (by decide) (by decide) _
  have hhigh : 25 < (fanIn * fanOut) ^ 2 ↔ 6 ≤ fanIn * fanOut :=
    lt_sq_iff (by decide) (by decide) _
  have hmedium : 5 < (fanIn * fanOut) ^ 2 ↔ 3 ≤ fanIn * fanOut :=
    lt_sq_iff (by decide) (by decide) _
  rw [flowComplexity_natCast]
  unfold FlowRating.of ofProduct
  simp only [gt_iff_lt, Nat.ofNat_lt_cast, hveryHigh, hhigh, hmedium, Int.natCast_eq_zero]

theorem ofProduct_followsProduct (fanIn fanOut : ℕ) :
    (ofProduct fanIn fanOut).FollowsProduct fanIn fanOut := by
  have hzero : fanIn = 0 ∧ fanOut = 0 → fanIn * fanOut = 0 := by
    rintro ⟨rfl, -⟩
    exact Nat.zero_mul fanOut
  unfold ofProduct
  split_ifs <;> constructor <;> simp <;> omega

/-- Greater flows are rated no lower. -/
theorem rank_ofProduct_mono {fanIn fanOut fanIn' fanOut' : ℕ} (hin : fanIn ≤ fanIn')
    (hout : fanOut ≤ fanOut') :
    (ofProduct fanIn fanOut).rank ≤ (ofProduct fanIn' fanOut').rank := by
  have hproduct : fanIn * fanOut ≤ fanIn' * fanOut' := Nat.mul_le_mul hin hout
  unfold ofProduct
  split_ifs <;> simp only [rank] <;> omega

end FlowRating

/-- **The product of the flows decides the rating.** Whatever fan-in and fan-out are, their product
says which of the upper ratings the complexity gets, and below them there is no flow just if both
are zero. With greater flows neither the complexity nor the place of the rating gets smaller. So are
the functions of a graph rated, and the complexity stored for each is the square of the product. -/
theorem rating_follows_product :
    (∀ fanIn fanOut : ℕ,
      (FlowRating.of fanIn fanOut (flowComplexity fanIn fanOut)).FollowsProduct fanIn fanOut) ∧
    (∀ fanIn fanOut fanIn' fanOut' : ℕ, fanIn ≤ fanIn' → fanOut ≤ fanOut' →
      flowComplexity fanIn fanOut ≤ flowComplexity fanIn' fanOut' ∧
        (FlowRating.of fanIn fanOut (flowComplexity fanIn fanOut)).rank ≤
          (FlowRating.of fanIn' fanOut' (flowComplexity fanIn' fanOut')).rank) ∧
    ∀ f : FunctionFlow, (FlowEntry.of f).complexity = (f.fanIn * f.fanOut) ^ 2 ∧
      (FlowEntry.of f).rating.FollowsProduct f.fanIn f.fanOut := by
  have hrated : ∀ fanIn fanOut : ℕ,
      (FlowRating.of fanIn fanOut (flowComplexity fanIn fanOut)).FollowsProduct fanIn fanOut := by
    intro fanIn fanOut
    rw [FlowRating.of_eq_ofProduct]
    exact FlowRating.ofProduct_followsProduct fanIn fanOut
  refine ⟨hrated, ?grows, ?entries⟩
  case grows =>
    intro fanIn fanOut fanIn' fanOut' hin hout
    refine ⟨flowComplexity_mono (Int.ofNat_le.2 hin) (Int.ofNat_le.2 hout), ?_⟩
    rw [FlowRating.of_eq_ofProduct, FlowRating.of_eq_ofProduct]
    exact FlowRating.rank_ofProduct_mono hin hout
  case entries =>
    intro f
    refine ⟨?_, hrated f.fanIn f.fanOut⟩
    show (flowComplexity f.fanIn f.fanOut).toNat = (f.fanIn * f.fanOut) ^ 2
    rw [flowComplexity_natCast, Int.toNat_natCast]

/-- The square of ten does not pass the highest threshold, that of eleven does. -/
theorem rating_follows_product_twoByFive :
    FlowRating.of 2 5 (flowComplexity 2 5) = .high ∧
      FlowRating.of 1 11 (flowComplexity 1 11) = .veryHigh ∧
      flowComplexity 2 5 ≤ flowComplexity 3 5 ∧
      (FlowRating.of 2 5 (flowComplexity 2 5)).rank ≤
        (FlowRating.of 3 5 (flowComplexity 3 5)).rank := by
  obtain ⟨hrated, hgrows, -⟩ := rating_follows_product
  exact ⟨(hrated 2 5).high.2 (by decide), (hrated 1 11).veryHigh.2 (by decide),
    hgrows 2 5 3 5 (by decide) (by decide)⟩

end CallFlow
