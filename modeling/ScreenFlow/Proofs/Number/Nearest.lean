import ScreenFlow.Proofs.Screen.Order
import Mathlib.Tactic.SplitIfs

/-!
Whole numbers in their order.  The number nearest to a larger whole number is not below the number
nearest to a smaller one, also where several whole numbers share a nearest one.
-/

namespace ScreenFlow

theorem twoTo_add (m n : Nat) : twoTo (m + n) = twoTo m * twoTo n :=
  Nat.pow_add 2 m n

theorem twoTo_le_twoTo_iff {m n : Nat} : twoTo m ≤ twoTo n ↔ m ≤ n :=
  Nat.pow_le_pow_iff_right (by decide)

namespace Binary64

/-! Rounded quotients. -/

theorem quotient_le_roundHalfEven (numerator denominator : Nat) :
    numerator / denominator ≤ roundHalfEven numerator denominator := by
  unfold roundHalfEven
  dsimp only
  split
  · exact Nat.le_refl _
  · exact Nat.le_succ _

theorem roundHalfEven_le (numerator denominator : Nat) :
    roundHalfEven numerator denominator ≤ numerator / denominator + 1 := by
  unfold roundHalfEven
  dsimp only
  split
  · exact Nat.le_succ _
  · exact Nat.le_refl _

theorem roundHalfEven_mono {first second : Nat} (denominator : Nat) (hle : first ≤ second) :
    roundHalfEven first denominator ≤ roundHalfEven second denominator := by
  rcases Nat.lt_or_eq_of_le (Nat.div_le_div_right (c := denominator) hle) with hlt | heq
  · have hfirst := roundHalfEven_le first denominator
    have hsecond := quotient_le_roundHalfEven second denominator
    omega
  · -- within one quotient the remainder decides
    have hrest : first % denominator ≤ second % denominator := by
      have hfirst := Nat.div_add_mod first denominator
      have hsecond := Nat.div_add_mod second denominator
      rw [heq] at hfirst
      omega
    unfold roundHalfEven
    simp only [heq, Bool.or_eq_true, decide_eq_true_eq, Bool.and_eq_true, beq_iff_eq]
    split_ifs <;> omega

/-! The leading places. -/

/-- A whole number by the last of its 53 leading places, rounded. -/
def leading (n : Nat) : Nat :=
  roundHalfEven (scaled n 1 ((n.log2 : Int) - 52)).1 (scaled n 1 ((n.log2 : Int) - 52)).2

/-- In front of the last of the leading places there are 52, and no more. -/
theorem scaled_bounds {n : Nat} (hpos : 0 < n) :
    twoTo 52 * (scaled n 1 ((n.log2 : Int) - 52)).2 ≤ (scaled n 1 ((n.log2 : Int) - 52)).1 ∧
      (scaled n 1 ((n.log2 : Int) - 52)).1 < twoTo 53 * (scaled n 1 ((n.log2 : Int) - 52)).2 := by
  have hlow : twoTo n.log2 ≤ n := Nat.log2_self_le (Nat.pos_iff_ne_zero.mp hpos)
  have hhigh : n < twoTo (n.log2 + 1) := Nat.lt_log2_self
  unfold scaled
  split
  · next hlarge =>
      have hlow' : twoTo n.log2 = twoTo 52 * twoTo ((n.log2 : Int) - 52).toNat := by
        rw [← twoTo_add]
        exact congrArg twoTo (by omega)
      have hhigh' : twoTo (n.log2 + 1) = twoTo 53 * twoTo ((n.log2 : Int) - 52).toNat := by
        rw [← twoTo_add]
        exact congrArg twoTo (by omega)
      rw [Nat.one_mul, ← hlow', ← hhigh']
      exact ⟨hlow, hhigh⟩
  · next hsmall =>
      have hlow' : twoTo 52 = twoTo n.log2 * twoTo (-((n.log2 : Int) - 52)).toNat := by
        rw [← twoTo_add]
        exact congrArg twoTo (by omega)
      have hhigh' : twoTo 53 = twoTo (n.log2 + 1) * twoTo (-((n.log2 : Int) - 52)).toNat := by
        rw [← twoTo_add]
        exact congrArg twoTo (by omega)
      rw [Nat.mul_one, Nat.mul_one, hlow', hhigh']
      exact ⟨Nat.mul_le_mul_right _ hlow, Nat.mul_lt_mul_of_pos_right hhigh (twoTo_pos _)⟩

theorem scaled_snd_pos (n : Nat) (exponent : Int) : 0 < (scaled n 1 exponent).2 := by
  unfold scaled
  split
  · exact Nat.mul_pos Nat.one_pos (twoTo_pos _)
  · exact Nat.one_pos

theorem leading_bounds {n : Nat} (hpos : 0 < n) :
    twoTo 52 ≤ leading n ∧ leading n ≤ twoTo 53 := by
  obtain ⟨hlow, hhigh⟩ := scaled_bounds hpos
  have hbottom := scaled_snd_pos n ((n.log2 : Int) - 52)
  have hquotient := (Nat.le_div_iff_mul_le hbottom).mpr hlow
  have hbelow := (Nat.div_lt_iff_lt_mul hbottom).mpr hhigh
  unfold leading
  have hfrom := quotient_le_roundHalfEven (scaled n 1 ((n.log2 : Int) - 52)).1
    (scaled n 1 ((n.log2 : Int) - 52)).2
  have hto := roundHalfEven_le (scaled n 1 ((n.log2 : Int) - 52)).1
    (scaled n 1 ((n.log2 : Int) - 52)).2
  omega

theorem leading_mono {first second : Nat} (hle : first ≤ second)
    (hsame : first.log2 = second.log2) : leading first ≤ leading second := by
  unfold leading scaled
  rw [hsame]
  split
  · exact roundHalfEven_mono _ hle
  · exact roundHalfEven_mono _ (Nat.mul_le_mul_right _ hle)

/-- The size of the nearest number, in units of the least one. -/
def size (n : Nat) : Nat :=
  leading n * twoTo (n.log2 + 1022)

theorem size_zero : size 0 = 0 := by
  have hleading : leading 0 = 0 := by decide +kernel
  rw [size, hleading, Nat.zero_mul]

theorem size_mono {first second : Nat} (hle : first ≤ second) : size first ≤ size second := by
  rcases Nat.eq_zero_or_pos first with rfl | hpos
  · rw [size_zero]
    exact Nat.zero_le _
  have hlog : first.log2 ≤ second.log2 :=
    (Nat.le_log2 (by omega)).mpr
      (Nat.le_trans (Nat.log2_self_le (Nat.pos_iff_ne_zero.mp hpos)) hle)
  unfold size
  rcases Nat.lt_or_eq_of_le hlog with hlt | heq
  · calc leading first * twoTo (first.log2 + 1022)
        ≤ twoTo 53 * twoTo (first.log2 + 1022) :=
          Nat.mul_le_mul_right _ (leading_bounds hpos).2
      _ = twoTo 52 * twoTo (first.log2 + 1 + 1022) := by
          rw [← twoTo_add, ← twoTo_add]
          exact congrArg twoTo (by omega)
      _ ≤ twoTo 52 * twoTo (second.log2 + 1022) :=
          Nat.mul_le_mul_left _ (twoTo_le_twoTo_iff.mpr (by omega))
      _ ≤ leading second * twoTo (second.log2 + 1022) :=
          Nat.mul_le_mul_right _ (leading_bounds (by omega)).1
  · rw [heq]
    exact Nat.mul_le_mul_right _ (leading_mono hle heq)

/-! Nearest numbers. -/

/-- A number with 53 leading places, or one more that is carried. -/
def normalized (mantissa : Nat) (exponent : Int) : Binary64 :=
  let (mantissa, exponent) :=
    if mantissa = twoTo 53 then (twoTo 52, exponent + 1) else (mantissa, exponent)
  if greatestExponent < exponent then .infinite false else .finite false mantissa exponent

theorem units_eq (mantissa power : Nat) :
    units false mantissa ((power : Int) - 1074) = ((mantissa * twoTo power : Nat) : Int) := by
  have hpower : ((power : Int) - 1074 - leastExponent).toNat = power := by
    unfold leastExponent
    omega
  unfold units
  rw [hpower]
  rfl

theorem rank_normalized {mantissa : Nat} (hlow : twoTo 52 ≤ mantissa)
    (hhigh : mantissa ≤ twoTo 53) (power : Nat) :
    (normalized mantissa ((power : Int) - 1074)).rank =
      if twoTo 2098 ≤ mantissa * twoTo power then (1, 0)
      else (0, ((mantissa * twoTo power : Nat) : Int)) := by
  unfold normalized
  by_cases hcarry : mantissa = twoTo 53
  · have hnext : (power : Int) - 1074 + 1 = ((power + 1 : Nat) : Int) - 1074 := by omega
    have hsize : twoTo 53 * twoTo power = twoTo 52 * twoTo (power + 1) := by
      rw [← twoTo_add, ← twoTo_add]
      exact congrArg twoTo (by omega)
    have hlimit : greatestExponent < (power : Int) - 1074 + 1 ↔
        twoTo 2098 ≤ twoTo 53 * twoTo power := by
      rw [← twoTo_add, twoTo_le_twoTo_iff, greatestExponent]
      omega
    simp only [hcarry, if_true, hlimit]
    split
    · rfl
    · rw [rank, hnext, units_eq, hsize]
  · have hbelow : mantissa < twoTo 53 := by omega
    have hlimit : greatestExponent < (power : Int) - 1074 ↔
        twoTo 2098 ≤ mantissa * twoTo power := by
      constructor
      · intro hlarge
        calc twoTo 2098 ≤ twoTo (52 + power) := by
              rw [twoTo_le_twoTo_iff]
              unfold greatestExponent at hlarge
              omega
          _ = twoTo 52 * twoTo power := twoTo_add 52 power
          _ ≤ mantissa * twoTo power := Nat.mul_le_mul_right _ hlow
      · intro hlarge
        by_contra hsmall
        have hpower : 53 + power ≤ 2098 := by
          unfold greatestExponent at hsmall
          omega
        have hfit := twoTo_le_twoTo_iff.mpr hpower
        rw [twoTo_add] at hfit
        have hless := Nat.mul_lt_mul_of_pos_right hbelow (twoTo_pos power)
        omega
    simp only [hcarry, if_false, hlimit]
    split
    · rfl
    · rw [rank, units_eq]

theorem ofInt_eq {n : Nat} (hpos : 0 < n) :
    ofInt n = normalized (leading n) ((n.log2 : Int) - 52) := by
  have hnegative : decide ((n : Int) < 0) = false := decide_eq_false (by omega)
  have hguess : (n.log2 : Int) - ((1 : Nat).log2 : Int) - 52 = (n.log2 : Int) - 52 := by
    have hone : (1 : Nat).log2 = 0 := by decide
    rw [hone]
    omega
  have hfull : ¬(scaled n 1 ((n.log2 : Int) - 52)).1 / (scaled n 1 ((n.log2 : Int) - 52)).2 <
      twoTo 52 := by
    rw [Nat.not_lt, Nat.le_div_iff_mul_le (scaled_snd_pos n _)]
    exact (scaled_bounds hpos).1
  have hclamp : max ((n.log2 : Int) - 52) leastExponent = (n.log2 : Int) - 52 := by
    unfold leastExponent
    omega
  unfold ofInt ofRatio
  rw [hnegative, Int.natAbs_natCast, if_neg (Nat.pos_iff_ne_zero.mp hpos)]
  simp only [hguess, hfull, if_false, hclamp]
  rfl

theorem rank_ofInt (n : Nat) :
    (ofInt n).rank = if twoTo 2098 ≤ size n then (1, 0) else (0, (size n : Int)) := by
  rcases Nat.eq_zero_or_pos n with rfl | hpos
  · rw [size_zero, if_neg (Nat.not_le.mpr (twoTo_pos _))]
    rfl
  · have hpower : (n.log2 : Int) - 52 = ((n.log2 + 1022 : Nat) : Int) - 1074 := by omega
    rw [ofInt_eq hpos, hpower]
    exact rank_normalized (leading_bounds hpos).1 (leading_bounds hpos).2 _

theorem ofInt_ne_nan (n : Nat) : ofInt n ≠ .nan := by
  rcases Nat.eq_zero_or_pos n with rfl | hpos
  · exact Binary64.noConfusion
  · rw [ofInt_eq hpos, normalized]
    dsimp only
    split_ifs
    all_goals exact Binary64.noConfusion

theorem ofInt_atMost {first second : Nat} (hle : first ≤ second) :
    (ofInt first).AtMost (ofInt second) := by
  have hsize := size_mono hle
  unfold AtMost
  rw [rank_ofInt, rank_ofInt]
  split_ifs
  · exact .inr ⟨rfl, Int.le_refl 0⟩
  · omega
  · exact .inl Int.zero_lt_one
  · exact .inr ⟨rfl, Int.ofNat_le.mpr hsize⟩

end Binary64

end ScreenFlow
