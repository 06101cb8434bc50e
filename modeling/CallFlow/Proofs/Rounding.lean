import Mathlib.Algebra.Order.Field.Power
import Mathlib.Algebra.Order.Field.Rat
import Mathlib.Tactic.Positivity
import Mathlib.Tactic.Ring
import CallFlow.Number.Binary64

/-!
# Rounding keeps the order of shares

A share `n / d`, with `n ≤ d`, is stored as the number of the format that is nearest to it. Numbers
are compared by their exact values (`lt_iff_toRat`), and the value of a share is an integer number
of steps of size `2 ^ -k`, for a `k` that depends on the magnitude of the share (`IsShift`).

* `toRat_quotient` — the value of a stored share, a carry into the next magnitude included;
* `toRat_quotient_mono` — of two shares with the same denominator, the smaller one is stored as no
  larger a number, though the steps of the larger one may be wider;
* `toRat_quotient_mem` — a stored share is at least zero and at most one.
-/

namespace CallFlow

theorem twoTo_eq (n : Nat) : twoTo n = 2 ^ n := rfl

namespace Binary64

/-! ## Values -/

/-- The exact value of a number. -/
def toRat (x : Binary64) : ℚ := x.toRatio.1 / x.toRatio.2

theorem toRatio_den_pos (x : Binary64) : 0 < x.toRatio.2 := by
  unfold toRatio
  split
  · exact Nat.one_pos
  · exact Nat.two_pow_pos _

/-- Numbers are compared by value. -/
theorem lt_iff_toRat {x y : Binary64} : x < y ↔ x.toRat < y.toRat := by
  have hx : (0 : ℚ) < x.toRatio.2 := Nat.cast_pos.2 x.toRatio_den_pos
  have hy : (0 : ℚ) < y.toRatio.2 := Nat.cast_pos.2 y.toRatio_den_pos
  have hlt : x < y ↔ x.toRatio.1 * y.toRatio.2 < y.toRatio.1 * x.toRatio.2 := decide_eq_true_iff
  rw [hlt, toRat, toRat, div_lt_div_iff₀ hx hy]
  exact_mod_cast Iff.rfl

/-- The value of a number that is a count of steps of size `2 ^ -k`. -/
theorem toRat_mk (m k : Nat) : toRat ⟨false, m, -k⟩ = (m : ℚ) / 2 ^ k := by
  rcases Nat.eq_zero_or_pos k with rfl | hk
  · simp [toRat, toRatio, signed, twoTo_eq]
  · have hratio : toRatio ⟨false, m, -k⟩ = ((m : Int), 2 ^ k) := by
      rw [toRatio, if_neg (by change ¬(-(k : Int) ≥ 0); omega)]
      simp [signed, twoTo_eq]
    rw [toRat, hratio]
    push_cast
    rfl

/-! ## The nearest quotient -/

theorem roundDiv_mono {n n' : Nat} (h : n ≤ n') (d : Nat) : roundDiv n d ≤ roundDiv n' d := by
  have hdiv : n / d ≤ n' / d := Nat.div_le_div_right h
  rcases Nat.lt_or_eq_of_le hdiv with hlt | heq
  · -- rounding up reaches the next quotient at most
    have hup : roundDiv n d ≤ n / d + 1 := by
      unfold roundDiv
      dsimp only
      split_ifs <;> omega
    have hdown : n' / d ≤ roundDiv n' d := by
      unfold roundDiv
      dsimp only
      split_ifs <;> omega
    omega
  · have hmod : n % d ≤ n' % d := by
      have hn := Nat.div_add_mod n d
      have hn' := Nat.div_add_mod n' d
      rw [← heq] at hn'
      omega
    unfold roundDiv
    dsimp only
    rw [heq]
    split_ifs <;> omega

theorem roundDiv_mul {d : Nat} (hd : 0 < d) (k : Nat) : roundDiv (k * d) d = k := by
  unfold roundDiv
  rw [Nat.mul_div_cancel _ hd, Nat.mul_mod_left]
  exact if_pos (by omega)

/-! ## The steps of a share -/

/-- In steps of size `2 ^ -k` the share `n / d` has a full significand, or the steps are the
smallest ones of the format. -/
structure IsShift (n d k : Nat) : Prop where
  pos : 0 < k
  le : k ≤ 1074
  lt : n * 2 ^ k < 2 ^ 53 * d
  full : k = 1074 ∨ 2 ^ 52 * d ≤ n * 2 ^ k

/-- The steps in which a share has a full significand, if there were no smallest ones. -/
def fullShift (n d : Nat) : Nat :=
  let guess := 52 + d.log2 - n.log2
  if 2 ^ 52 * d ≤ n * 2 ^ guess then guess else guess + 1

theorem log2_le_log2 {n d : Nat} (hn : 0 < n) (hle : n ≤ d) : n.log2 ≤ d.log2 := by
  have hpow : 2 ^ n.log2 < 2 ^ (d.log2 + 1) :=
    calc 2 ^ n.log2 ≤ n := Nat.log2_self_le hn.ne'
      _ ≤ d := hle
      _ < 2 ^ (d.log2 + 1) := Nat.lt_log2_self
  have := (Nat.pow_lt_pow_iff_right (by decide : 1 < 2)).1 hpow
  omega

theorem exponentOf_eq {n d : Nat} (hlog : n.log2 ≤ d.log2) :
    exponentOf n d = -(min 1074 (fullShift n d) : Nat) := by
  have hguess : (n.log2 : Int) - d.log2 - 52 = -(52 + d.log2 - n.log2 : Nat) := by omega
  have hneg : ¬(-((52 + d.log2 - n.log2 : Nat) : Int) ≥ 0) := by omega
  unfold exponentOf fullShift
  simp only [hguess, hneg, if_false, neg_neg, Int.toNat_natCast, twoTo_eq, leastExponent]
  split <;> omega

/-- With a full significand a share lies between two powers of two. -/
theorem fullShift_spec {n d : Nat} (hn : 0 < n) (hle : n ≤ d) :
    n * 2 ^ fullShift n d < 2 ^ 53 * d ∧ 2 ^ 52 * d ≤ n * 2 ^ fullShift n d := by
  have hlog := log2_le_log2 hn hle
  unfold fullShift
  dsimp only
  split
  · rename_i hfull
    refine ⟨?_, hfull⟩
    calc n * 2 ^ (52 + d.log2 - n.log2)
        < 2 ^ (n.log2 + 1) * 2 ^ (52 + d.log2 - n.log2) :=
          Nat.mul_lt_mul_of_pos_right Nat.lt_log2_self (Nat.two_pow_pos _)
      _ = 2 ^ 53 * 2 ^ d.log2 := by
          rw [← Nat.pow_add, ← Nat.pow_add]
          congr 1
          omega
      _ ≤ 2 ^ 53 * d := Nat.mul_le_mul_left _ (Nat.log2_self_le (by omega))
  · rename_i hfull
    constructor
    · rw [Nat.pow_succ, ← Nat.mul_assoc]
      omega
    · calc 2 ^ 52 * d
          ≤ 2 ^ 52 * 2 ^ (d.log2 + 1) := Nat.mul_le_mul_left _ Nat.lt_log2_self.le
        _ = 2 ^ n.log2 * 2 ^ (52 + d.log2 - n.log2 + 1) := by
            rw [← Nat.pow_add, ← Nat.pow_add]
            congr 1
            omega
        _ ≤ n * 2 ^ (52 + d.log2 - n.log2 + 1) :=
            Nat.mul_le_mul_right _ (Nat.log2_self_le hn.ne')

/-- The exponent of a share is that of its steps. -/
theorem exists_isShift {n d : Nat} (hn : 0 < n) (hle : n ≤ d) :
    ∃ k : Nat, exponentOf n d = -k ∧ IsShift n d k := by
  obtain ⟨hlt, hfull⟩ := fullShift_spec hn hle
  refine ⟨_, exponentOf_eq (log2_le_log2 hn hle), ?_, Nat.min_le_left .., ?_, ?_⟩
  · have hpos : 0 < fullShift n d := by
      unfold fullShift
      dsimp only
      have hlog := log2_le_log2 hn hle
      split <;> omega
    omega
  · calc n * 2 ^ min 1074 (fullShift n d)
        ≤ n * 2 ^ fullShift n d :=
          Nat.mul_le_mul_left _ (Nat.pow_le_pow_right Nat.two_pos (Nat.min_le_right ..))
      _ < 2 ^ 53 * d := hlt
  · rcases Nat.le_total 1074 (fullShift n d) with hle | hle
    · exact Or.inl (Nat.min_eq_left hle)
    · rw [Nat.min_eq_right hle]
      exact Or.inr hfull

/-- Larger shares have wider steps. -/
theorem IsShift.anti {n n' d k k' : Nat} (h : IsShift n d k) (h' : IsShift n' d k')
    (hle : n ≤ n') : k' ≤ k := by
  by_contra hlt
  have hfull : 2 ^ 52 * d ≤ n * 2 ^ k := h.full.resolve_left (by have := h'.le; omega)
  have hbound : 2 ^ 53 * d < 2 ^ 53 * d :=
    calc 2 ^ 53 * d = 2 * (2 ^ 52 * d) := by ring
      _ ≤ 2 * (n * 2 ^ k) := Nat.mul_le_mul_left 2 hfull
      _ = n * 2 ^ (k + 1) := by ring
      _ ≤ n' * 2 ^ k' := Nat.mul_le_mul hle (Nat.pow_le_pow_right Nat.two_pos (by omega))
      _ < 2 ^ 53 * d := h'.lt
  omega

/-! ## Stored shares -/

/-- The value of a stored share. -/
theorem toRat_quotient {n d k : Nat} (hn : 0 < n) (hk : 0 < k) (hexponent : exponentOf n d = -k) :
    (quotient n d).toRat = (roundDiv (n * 2 ^ k) d : ℚ) / 2 ^ k := by
  have hneg : ¬(-(k : Int) ≥ 0) := by omega
  have hgreat : ¬(-(k : Int) > greatestExponent) := by unfold greatestExponent; omega
  rw [quotient, ofRatio, if_neg hn.ne']
  simp only [hexponent, if_neg hneg, if_neg hgreat, neg_neg, Int.toNat_natCast, twoTo_eq, precision]
  split
  · -- a carry leaves half as many steps, twice as wide
    rename_i hcarry
    obtain ⟨j, rfl⟩ : ∃ j, k = j + 1 := ⟨k - 1, by omega⟩
    have hwider : -((j + 1 : Nat) : Int) + 1 = -(j : Int) := by omega
    rw [hwider, toRat_mk, hcarry, pow_succ]
    push_cast
    ring
  · exact toRat_mk _ k

theorem toRat_quotient_zero (d : Nat) : (quotient 0 d).toRat = 0 := by
  have hzero : quotient 0 d = ⟨false, 0, -(1074 : Nat)⟩ := rfl
  rw [hzero, toRat_mk, Nat.cast_zero, zero_div]

/-- **Rounding keeps the order of shares.** -/
theorem toRat_quotient_mono {n n' d : Nat} (h : n ≤ n') (hle : n' ≤ d) :
    (quotient n d).toRat ≤ (quotient n' d).toRat := by
  rcases Nat.eq_zero_or_pos n' with rfl | hn'
  · rw [Nat.le_zero.1 h]
  obtain ⟨k', hexponent', hk'⟩ := exists_isShift hn' hle
  rw [toRat_quotient hn' hk'.pos hexponent']
  rcases Nat.eq_zero_or_pos n with rfl | hn
  · rw [toRat_quotient_zero]
    positivity
  obtain ⟨k, hexponent, hk⟩ := exists_isShift hn (h.trans hle)
  rw [toRat_quotient hn hk.pos hexponent]
  rcases Nat.lt_or_eq_of_le (hk.anti hk' h) with hwider | rfl
  · -- the smaller share has at most the significand at which the wider steps begin
    have hd : 0 < d := by omega
    have hsmall : roundDiv (n * 2 ^ k) d ≤ 2 ^ 53 := by
      rw [← roundDiv_mul hd (2 ^ 53)]
      exact roundDiv_mono hk.lt.le d
    have hlarge : 2 ^ 52 ≤ roundDiv (n' * 2 ^ k') d := by
      rw [← roundDiv_mul hd (2 ^ 52)]
      exact roundDiv_mono (hk'.full.resolve_left (by have := hk.le; omega)) d
    calc (roundDiv (n * 2 ^ k) d : ℚ) / 2 ^ k
        ≤ 2 ^ 53 / 2 ^ k := by
          gcongr
          exact_mod_cast hsmall
      _ ≤ 2 ^ 53 / 2 ^ (k' + 1) := by
          gcongr
          · norm_num
          · exact hwider
      _ = 2 ^ 52 / 2 ^ k' := by
          rw [pow_succ]
          ring
      _ ≤ (roundDiv (n' * 2 ^ k') d : ℚ) / 2 ^ k' := by
          gcongr
          exact_mod_cast hlarge
  · have hsteps : roundDiv (n * 2 ^ k') d ≤ roundDiv (n' * 2 ^ k') d :=
      roundDiv_mono (Nat.mul_le_mul_right _ h) d
    gcongr

/-- A stored share lies between zero and one. -/
theorem toRat_quotient_mem {n d : Nat} (hd : 0 < d) (hle : n ≤ d) :
    0 ≤ (quotient n d).toRat ∧ (quotient n d).toRat ≤ 1 := by
  have hone : (quotient d d).toRat = 1 := by
    obtain ⟨k, hexponent, hk⟩ := exists_isShift hd le_rfl
    rw [toRat_quotient hd hk.pos hexponent, Nat.mul_comm, roundDiv_mul hd]
    push_cast
    exact div_self (by positivity)
  constructor
  · rw [← toRat_quotient_zero d]
    exact toRat_quotient_mono (Nat.zero_le n) hle
  · rw [← hone]
    exact toRat_quotient_mono hle le_rfl

end Binary64

end CallFlow
