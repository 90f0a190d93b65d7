import DocumentRepository.Number.Double
import Mathlib.Order.Compare
import Mathlib.Tactic.Ring

/-! # Rounding and order

Rounding an integer to a double keeps the order of integers, though not strictly: beyond the 53 bits
of a significand two integers can have one nearest double. No integer is rounded to a NaN.
-/
namespace DocumentRepository.Number

variable {num num' den n m : Nat}

theorem div_le_roundHalfEven (num den : Nat) : num / den ≤ roundHalfEven num den := by
  unfold roundHalfEven
  extract_lets quotient rest
  split <;> omega

theorem roundHalfEven_le (num den : Nat) : roundHalfEven num den ≤ num / den + 1 := by
  unfold roundHalfEven
  extract_lets quotient rest
  split <;> omega

theorem roundHalfEven_mono (h : num ≤ num') : roundHalfEven num den ≤ roundHalfEven num' den := by
  rcases Nat.lt_or_eq_of_le (Nat.div_le_div_right (c := den) h) with hless | hsame
  · have hbefore := roundHalfEven_le num den
    have hafter := div_le_roundHalfEven num' den
    omega
  · have hrest : num % den ≤ num' % den := by
      have hnum := Nat.div_add_mod num den
      have hnum' := Nat.div_add_mod num' den
      rw [hsame] at hnum
      omega
    unfold roundHalfEven
    rw [hsame]
    extract_lets quotient rest rest'
    split <;> split <;> omega

/-- Above zero a natural is rounded to 53 bits from its leading one on. -/
theorem round_double_one (hn : 0 < n) :
    BinaryFormat.double.round n 1 =
      ⟨roundHalfEven (n * 2 ^ (52 - n.log2)) (2 ^ (n.log2 - 52)), (n.log2 : Int) - 52⟩ := by
  have hlog : quotientLog2 n 1 = n.log2 := by
    have habove : ¬n < 2 ^ n.log2 := Nat.not_lt.mpr (Nat.log2_self_le hn.ne')
    have hone : Nat.log2 1 = 0 := by decide
    simp [quotientLog2, belowPower, Nat.shiftLeft_eq, hone, habove]
  have hunit : max BinaryFormat.double.leastExponent (quotientLog2 n 1 - (BinaryFormat.double.precision - 1)) =
      (n.log2 : Int) - 52 := by
    rw [hlog]
    change max (-1074) ((n.log2 : Int) - (53 - 1)) = _
    omega
  have hup : (-((n.log2 : Int) - 52)).toNat = 52 - n.log2 := by omega
  have hdown : ((n.log2 : Int) - 52).toNat = n.log2 - 52 := by omega
  simp only [BinaryFormat.round, if_neg hn.ne', hunit, hup, hdown, Nat.shiftLeft_eq, Nat.one_mul]

/-- The significand has its leading one at the place of the unit, or it is the next power of two. -/
theorem significand_bounds (hn : 0 < n) :
    2 ^ 52 ≤ (BinaryFormat.double.round n 1).significand ∧ (BinaryFormat.double.round n 1).significand ≤ 2 ^ 53 := by
  rw [round_double_one hn]
  dsimp only
  have hplaces : 2 ^ n.log2 * 2 ^ (52 - n.log2) = 2 ^ 52 * 2 ^ (n.log2 - 52) := by
    rw [← Nat.pow_add, ← Nat.pow_add]
    congr 1
    omega
  have hden : 0 < 2 ^ (n.log2 - 52) := Nat.two_pow_pos _
  have hlow : 2 ^ 52 ≤ n * 2 ^ (52 - n.log2) / 2 ^ (n.log2 - 52) := by
    rw [Nat.le_div_iff_mul_le hden, ← hplaces]
    exact Nat.mul_le_mul_right _ (Nat.log2_self_le hn.ne')
  have hhigh : n * 2 ^ (52 - n.log2) / 2 ^ (n.log2 - 52) < 2 ^ 53 := by
    rw [Nat.div_lt_iff_lt_mul hden]
    calc n * 2 ^ (52 - n.log2) < 2 ^ (n.log2 + 1) * 2 ^ (52 - n.log2) :=
          Nat.mul_lt_mul_of_pos_right Nat.lt_log2_self (Nat.two_pow_pos _)
      _ = 2 * (2 ^ n.log2 * 2 ^ (52 - n.log2)) := by ring
      _ = 2 * (2 ^ 52 * 2 ^ (n.log2 - 52)) := by rw [hplaces]
      _ = 2 ^ 53 * 2 ^ (n.log2 - 52) := by ring
  have hfloor := div_le_roundHalfEven (n * 2 ^ (52 - n.log2)) (2 ^ (n.log2 - 52))
  have hceil := roundHalfEven_le (n * 2 ^ (52 - n.log2)) (2 ^ (n.log2 - 52))
  omega

end DocumentRepository.Number

namespace DocumentRepository.Double

open Number

variable {n m : Nat} {i j : Int}

/-- The magnitude of a rounded value, were there no infinity. -/
def place (value : Scaled) : Nat := (value.exponent + 1074).toNat <<< 52 + value.significand

theorem place_round (hn : 0 < n) :
    place (BinaryFormat.double.round n 1) =
      (n.log2 + 1022) * 2 ^ 52 + (BinaryFormat.double.round n 1).significand := by
  have hexponent : ((BinaryFormat.double.round n 1).exponent + 1074).toNat = n.log2 + 1022 := by
    rw [round_double_one hn]
    dsimp only
    omega
  rw [place, hexponent, Nat.shiftLeft_eq]

theorem place_round_mono (h : n ≤ m) :
    place (BinaryFormat.double.round n 1) ≤ place (BinaryFormat.double.round m 1) := by
  rcases Nat.eq_zero_or_pos n with rfl | hn
  · exact Nat.zero_le _
  have hm : 0 < m := by omega
  rw [place_round hn, place_round hm]
  have hlog : n.log2 ≤ m.log2 := (Nat.le_log2 hm.ne').mpr ((Nat.log2_self_le hn.ne').trans h)
  rcases Nat.lt_or_eq_of_le hlog with hless | hsame
  · -- What is carried out of the significand makes up for one step of the exponent at most.
    have hbefore := (significand_bounds hn).2
    have hafter := (significand_bounds hm).1
    omega
  · have hsignificand : (BinaryFormat.double.round n 1).significand ≤ (BinaryFormat.double.round m 1).significand := by
      rw [round_double_one hn, round_double_one hm, hsame]
      exact roundHalfEven_mono (Nat.mul_le_mul_right _ h)
    omega

/-- Naturals up to the 53rd power of two are doubles, so rounding keeps them apart. -/
theorem place_round_lt (h : n < m) (hm : m ≤ 2 ^ 53) :
    place (BinaryFormat.double.round n 1) < place (BinaryFormat.double.round m 1) := by
  have hmpos : 0 < m := by omega
  rw [place_round hmpos]
  rcases Nat.eq_zero_or_pos n with rfl | hn
  · have hzero : place (BinaryFormat.double.round 0 1) = 0 := rfl
    omega
  rw [place_round hn]
  have hexact : n.log2 ≤ 52 := Nat.le_of_lt_succ ((Nat.log2_lt hn.ne').mpr (by omega))
  have hsignificand : (BinaryFormat.double.round n 1).significand = n * 2 ^ (52 - n.log2) := by
    rw [round_double_one hn, Nat.sub_eq_zero_of_le hexact, Nat.pow_zero]
    exact roundHalfEven_one _
  rcases Nat.lt_or_ge n.log2 m.log2 with hless | hsame
  · have hbelow : n * 2 ^ (52 - n.log2) < 2 ^ 53 := by
      calc n * 2 ^ (52 - n.log2) < 2 ^ (n.log2 + 1) * 2 ^ (52 - n.log2) :=
            Nat.mul_lt_mul_of_pos_right Nat.lt_log2_self (Nat.two_pow_pos _)
        _ = 2 ^ 53 := by rw [← Nat.pow_add]; congr 1; omega
    have hafter := (significand_bounds hmpos).1
    omega
  · have hlog : m.log2 = n.log2 :=
      Nat.le_antisymm hsame ((Nat.le_log2 hmpos.ne').mpr ((Nat.log2_self_le hn.ne').trans h.le))
    have hsignificand' : (BinaryFormat.double.round m 1).significand = m * 2 ^ (52 - n.log2) := by
      rw [round_double_one hmpos, hlog, Nat.sub_eq_zero_of_le hexact, Nat.pow_zero]
      exact roundHalfEven_one _
    have hless : n * 2 ^ (52 - n.log2) < m * 2 ^ (52 - n.log2) := Nat.mul_lt_mul_of_pos_right h (Nat.two_pow_pos _)
    omega

section Magnitude

variable {negative : Bool} {magnitude : Nat} (h : magnitude < 1 <<< 63)

include h

theorem word_ofMagnitude : (ofMagnitude negative magnitude).word = magnitude + if negative then 1 <<< 63 else 0 := by
  rw [word, ofMagnitude, UInt64.toNat_ofNat']
  refine Nat.mod_eq_of_lt ?_
  split <;> omega

theorem magnitude_ofMagnitude : (ofMagnitude negative magnitude).magnitude = magnitude := by
  rw [Double.magnitude, word_ofMagnitude h]
  split
  · rw [Nat.add_mod_right, Nat.mod_eq_of_lt h]
  · exact Nat.mod_eq_of_lt h

theorem isNegative_ofMagnitude : (ofMagnitude negative magnitude).isNegative = negative := by
  rw [isNegative, word_ofMagnitude h]
  cases negative
  · simpa using h
  · simp

theorem rank_ofMagnitude :
    (ofMagnitude negative magnitude).rank = if negative then -(magnitude : Int) else magnitude := by
  rw [rank, isNegative_ofMagnitude h, magnitude_ofMagnitude h]

end Magnitude

def magnitudeOf (n : Nat) : Nat := min (place (BinaryFormat.double.round n 1)) infiniteMagnitude

theorem magnitudeOf_lt (n : Nat) : magnitudeOf n < 1 <<< 63 :=
  Nat.lt_of_le_of_lt (Nat.min_le_right _ _) (by decide)

theorem magnitudeOf_mono (h : n ≤ m) : magnitudeOf n ≤ magnitudeOf m := by
  have hplace := place_round_mono h
  unfold magnitudeOf
  omega

theorem magnitudeOf_strictMono (h : n < m) (hm : m ≤ 2 ^ 53) : magnitudeOf n < magnitudeOf m := by
  have hplace := place_round_lt h hm
  have hfinite : place (BinaryFormat.double.round m 1) < infiniteMagnitude := by
    have hlog : m.log2 < 54 := (Nat.log2_lt (by omega)).mpr (by omega)
    have hsignificand := (significand_bounds (n := m) (by omega)).2
    rw [place_round (by omega), infiniteMagnitude]
    omega
  unfold magnitudeOf
  omega

theorem ofInt_eq (i : Int) : ofInt i = ofMagnitude (i < 0) (magnitudeOf i.natAbs) := rfl

@[simp] theorem isNaN_ofInt (i : Int) : (ofInt i).isNaN = false := by
  rw [ofInt_eq, isNaN, magnitude_ofMagnitude (magnitudeOf_lt _)]
  simp [magnitudeOf]

theorem rank_ofInt (i : Int) :
    (ofInt i).rank = if i < 0 then -(magnitudeOf i.natAbs : Int) else magnitudeOf i.natAbs := by
  rw [ofInt_eq, rank_ofMagnitude (magnitudeOf_lt _)]
  simp only [decide_eq_true_eq]

theorem rank_ofInt_mono (h : i ≤ j) : (ofInt i).rank ≤ (ofInt j).rank := by
  rw [rank_ofInt, rank_ofInt]
  by_cases hi : i < 0 <;> by_cases hj : j < 0
  · have := magnitudeOf_mono (n := j.natAbs) (m := i.natAbs) (by omega)
    simp only [hi, hj, if_true]
    omega
  · simp only [hi, hj, if_true, if_false]
    omega
  · omega
  · have := magnitudeOf_mono (n := i.natAbs) (m := j.natAbs) (by omega)
    simp only [hi, hj, if_false]
    omega

theorem rank_ofInt_strictMono (h : i < j) (hi : i.natAbs ≤ 2 ^ 53) (hj : j.natAbs ≤ 2 ^ 53) :
    (ofInt i).rank < (ofInt j).rank := by
  rw [rank_ofInt, rank_ofInt]
  by_cases hineg : i < 0 <;> by_cases hjneg : j < 0
  · have := magnitudeOf_strictMono (n := j.natAbs) (m := i.natAbs) (by omega) hi
    simp only [hineg, hjneg, if_true]
    omega
  · have := magnitudeOf_strictMono (n := 0) (m := i.natAbs) (by omega) hi
    simp only [hineg, hjneg, if_true, if_false]
    omega
  · omega
  · have := magnitudeOf_strictMono (n := i.natAbs) (m := j.natAbs) (by omega) hj
    simp only [hineg, hjneg, if_false]
    omega

end DocumentRepository.Double
