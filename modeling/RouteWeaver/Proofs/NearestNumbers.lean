import Mathlib.Algebra.Order.Field.Basic
import Mathlib.Algebra.Order.Field.Power
import Mathlib.Data.Rat.Cast.Order
import Mathlib.Tactic.FieldSimp
import Mathlib.Tactic.Linarith
import Mathlib.Tactic.NormNum
import Mathlib.Tactic.Positivity
import Mathlib.Tactic.Ring
import RouteWeaver.Decimal.Binary64

/-!
Floating-point numbers against the fractions that they are nearest to. A fraction is measured in
steps of the grid that it lies on, and no more than half a step is lost.
-/

namespace RouteWeaver.Binary64

def value (x : Binary64) : ℚ :=
  x.mantissa * 2 ^ x.exponent

theorem value_nonneg (x : Binary64) : 0 ≤ x.value := by
  unfold value
  positivity

theorem ratio_scaled (num den : Nat) (e : Int) :
    ((scaled num den e).1 : ℚ) / (scaled num den e).2 = num / den / 2 ^ e := by
  rw [scaled]
  split
  · rename_i negative
    have power : (2 : ℚ) ^ e = (2 ^ (-e).toNat)⁻¹ := by
      rw [← zpow_natCast, ← zpow_neg, Int.toNat_of_nonneg (by omega), neg_neg]
    rw [power]
    push_cast [Nat.pow_eq]
    field_simp
  · have power : (2 : ℚ) ^ e = 2 ^ e.toNat := by
      rw [← zpow_natCast, Int.toNat_of_nonneg (by omega)]
    rw [power]
    push_cast [Nat.pow_eq]
    field_simp

theorem scaled_pos {den : Nat} (positive : 0 < den) (num : Nat) (e : Int) :
    0 < (scaled num den e).2 := by
  rw [scaled]
  split
  · exact positive
  · exact Nat.mul_pos positive (Nat.pow_pos (by decide))

theorem ratio_fraction (x : Binary64) : (x.fraction.1 : ℚ) / x.fraction.2 = x.value := by
  rw [fraction, ratio_scaled, value, zpow_neg]
  simp

theorem fraction_pos (x : Binary64) : 0 < x.fraction.2 :=
  scaled_pos Nat.one_pos _ _

theorem roundHalfEven_bounds {den : Nat} (positive : 0 < den) (num : Nat) :
    (num : ℚ) / den - 1 / 2 ≤ roundHalfEven num den ∧
      (roundHalfEven num den : ℚ) ≤ num / den + 1 / 2 := by
  have cut := Nat.div_add_mod num den
  have less := Nat.mod_lt num positive
  have whole : 2 * num ≤ 2 * (den * roundHalfEven num den) + den ∧
      2 * (den * roundHalfEven num den) ≤ 2 * num + den := by
    have next : den * (num / den + 1) = den * (num / den) + den := Nat.mul_succ _ _
    simp only [roundHalfEven]
    split_ifs <;> omega
  have lower : (2 * num : ℚ) ≤ 2 * (den * roundHalfEven num den) + den := by exact_mod_cast whole.1
  have upper : (2 * (den * roundHalfEven num den) : ℚ) ≤ 2 * num + den := by exact_mod_cast whole.2
  have above : (0 : ℚ) < den := by exact_mod_cast positive
  constructor
  · rw [sub_le_iff_le_add, div_le_iff₀ above]
    linarith
  · rw [← sub_le_iff_le_add, le_div_iff₀ above]
    linarith

section Nearest

variable {num den : Nat}

/-- A fraction against the leading bits of its two parts. -/
theorem ratio_bounds (some : num ≠ 0) (positive : 0 < den) :
    (2 : ℚ) ^ ((Nat.log2 num : Int) - Nat.log2 den - 1) ≤ num / den ∧
      (num / den : ℚ) < 2 ^ ((Nat.log2 num : Int) - Nat.log2 den + 1) := by
  have above : (0 : ℚ) < den := by exact_mod_cast positive
  have numLower : (2 : ℚ) ^ (Nat.log2 num : Int) ≤ num := by
    exact_mod_cast Nat.log2_self_le some
  have numUpper : (num : ℚ) < 2 ^ (Nat.log2 num + 1 : Int) := by
    exact_mod_cast Nat.lt_log2_self
  have denLower : (2 : ℚ) ^ (Nat.log2 den : Int) ≤ den := by
    exact_mod_cast Nat.log2_self_le (Nat.ne_of_gt positive)
  have denUpper : (den : ℚ) < 2 ^ (Nat.log2 den + 1 : Int) := by
    exact_mod_cast Nat.lt_log2_self
  constructor
  · rw [le_div_iff₀ above]
    calc (2 : ℚ) ^ ((Nat.log2 num : Int) - Nat.log2 den - 1) * den
      _ ≤ 2 ^ ((Nat.log2 num : Int) - Nat.log2 den - 1) * 2 ^ (Nat.log2 den + 1 : Int) := by gcongr
      _ = 2 ^ (Nat.log2 num : Int) := by
        rw [← zpow_add₀ two_ne_zero]
        congr 1
        omega
      _ ≤ num := numLower
  · rw [div_lt_iff₀ above]
    calc (num : ℚ)
      _ < 2 ^ (Nat.log2 num + 1 : Int) := numUpper
      _ = 2 ^ ((Nat.log2 num : Int) - Nat.log2 den + 1) * 2 ^ (Nat.log2 den : Int) := by
        rw [← zpow_add₀ two_ne_zero]
        congr 1
        omega
      _ ≤ 2 ^ ((Nat.log2 num : Int) - Nat.log2 den + 1) * den := by gcongr

theorem leading_bounds (some : num ≠ 0) (positive : 0 < den) :
    (2 : ℚ) ^ leading num den ≤ num / den ∧ (num / den : ℚ) < 2 ^ (leading num den + 1) := by
  obtain ⟨below, beyond⟩ := ratio_bounds some positive
  generalize guessed : (Nat.log2 num : Int) - Nat.log2 den = guess at below beyond
  have bottom : (0 : ℚ) < (scaled num den guess).2 := by
    exact_mod_cast scaled_pos positive num guess
  have decides : (scaled num den guess).1 < (scaled num den guess).2 ↔
      (num / den : ℚ) < 2 ^ guess := by
    rw [← Nat.cast_lt (α := ℚ), ← div_lt_one bottom, ratio_scaled, div_lt_one (by positivity)]
  have leads : leading num den =
      if (scaled num den guess).1 < (scaled num den guess).2 then guess - 1 else guess := by
    rw [← guessed]
    rfl
  rw [leads]
  split
  · rename_i less
    rw [Int.sub_add_cancel]
    exact ⟨below, decides.mp less⟩
  · rename_i enough
    exact ⟨not_lt.mp (mt decides.mpr enough), beyond⟩

/-- The exponent of the grid that a fraction lies on. -/
def grid (num den : Nat) : Int :=
  max leastExponent (leading num den - 52)

/-- The whole number of steps that is nearest to a fraction on its grid. -/
def steps (num den : Nat) : Nat :=
  roundHalfEven (scaled num den (grid num den)).1 (scaled num den (grid num den)).2

theorem steps_bounds (num : Nat) (positive : 0 < den) :
    (num / den : ℚ) / 2 ^ grid num den - 1 / 2 ≤ steps num den ∧
      (steps num den : ℚ) ≤ num / den / 2 ^ grid num den + 1 / 2 := by
  rw [← ratio_scaled]
  exact roundHalfEven_bounds (scaled_pos positive _ _) _

theorem nearest_eq (some : num ≠ 0) :
    nearest num den =
      let x : Binary64 := if steps num den = Nat.pow 2 53 then ⟨Nat.pow 2 52, grid num den + 1⟩
        else ⟨steps num den, grid num den⟩
      if x.exponent > greatestExponent then none else .some x := by
  rw [nearest, if_neg some]
  rfl

theorem value_of_nearest (some : num ≠ 0) {x : Binary64} (near : nearest num den = .some x) :
    x.value = steps num den * 2 ^ grid num den := by
  rw [nearest_eq some] at near
  simp only [Option.ite_none_left_eq_some, Option.some.injEq] at near
  rw [← near.2]
  split
  · rename_i full
    rw [value, full, zpow_add₀ two_ne_zero]
    norm_num
    ring
  · rfl

/-- From one on, a fraction is at least two to the power of 52 steps. -/
theorem steps_of_one_le (some : num ≠ 0) (positive : 0 < den) (one : (1 : ℚ) ≤ num / den) :
    (2 : ℚ) ^ 52 ≤ num / den / 2 ^ grid num den := by
  obtain ⟨lower, upper⟩ := leading_bounds some positive
  have whole : 0 < leading num den + 1 := by
    rw [← zpow_lt_zpow_iff_right₀ (one_lt_two : (1 : ℚ) < 2), zpow_zero]
    exact one.trans_lt upper
  have normal : grid num den = leading num den - 52 := by
    rw [grid, leastExponent]
    omega
  rw [le_div_iff₀ (by positivity), normal, ← zpow_natCast, ← zpow_add₀ two_ne_zero]
  refine le_of_eq_of_le ?_ lower
  congr 1
  omega

variable {x : Binary64}

theorem value_nearest_le (positive : 0 < den) (near : nearest num den = some x) :
    x.value ≤ 2 * (num / den) := by
  by_cases zero : num = 0
  · rw [nearest, if_pos zero] at near
    obtain rfl := Option.some.inj near
    simp [value, Binary64.zero, zero]
  · obtain ⟨-, upper⟩ := steps_bounds num positive
    have lies : (0 : ℚ) ≤ num / den / 2 ^ grid num den := by positivity
    -- A fraction of less than half a step goes to zero.
    have double : (steps num den : ℚ) ≤ 2 * (num / den / 2 ^ grid num den) := by
      rcases Nat.eq_zero_or_pos (steps num den) with none | any
      · rw [none]
        simpa using lies
      · have one : (1 : ℚ) ≤ steps num den := by exact_mod_cast any
        linarith
    calc x.value
      _ = steps num den * 2 ^ grid num den := value_of_nearest zero near
      _ ≤ 2 * (num / den / 2 ^ grid num den) * 2 ^ grid num den := by gcongr
      _ = 2 * (num / den) := by rw [mul_assoc, div_mul_cancel₀ _ (by positivity)]

theorem ne_zero_of_one_le (one : (1 : ℚ) ≤ num / den) : num ≠ 0 := by
  rintro rfl
  norm_num at one

theorem half_le_value_nearest (positive : 0 < den) (one : (1 : ℚ) ≤ num / den)
    (near : nearest num den = some x) : (num / den : ℚ) / 2 ≤ x.value := by
  have some := ne_zero_of_one_le one
  obtain ⟨lower, -⟩ := steps_bounds num positive
  have many := steps_of_one_le some positive one
  have half : num / den / 2 ^ grid num den / 2 ≤ (steps num den : ℚ) := by linarith
  calc (num / den : ℚ) / 2
    _ = num / den / 2 ^ grid num den / 2 * 2 ^ grid num den := by field_simp
    _ ≤ steps num den * 2 ^ grid num den := by gcongr
    _ = x.value := (value_of_nearest some near).symm

theorem value_nearest_le_of_one_le (positive : 0 < den) (one : (1 : ℚ) ≤ num / den)
    (near : nearest num den = some x) : x.value ≤ num / den * (1 + 1 / 2 ^ 53) := by
  have some := ne_zero_of_one_le one
  obtain ⟨-, upper⟩ := steps_bounds num positive
  have many := steps_of_one_le some positive one
  have close : (steps num den : ℚ) ≤ num / den / 2 ^ grid num den * (1 + 1 / 2 ^ 53) := by
    linarith
  calc x.value
    _ = steps num den * 2 ^ grid num den := value_of_nearest some near
    _ ≤ num / den / 2 ^ grid num den * (1 + 1 / 2 ^ 53) * 2 ^ grid num den := by gcongr
    _ = num / den * (1 + 1 / 2 ^ 53) := by field_simp

/-- Below the middle between the greatest number and the next power of two there is a nearest
number. -/
theorem nearest_isSome (positive : 0 < den) (below : (num / den : ℚ) < 2 ^ 1024 - 2 ^ 970) :
    (nearest num den).isSome := by
  by_cases zero : num = 0
  · rw [nearest, if_pos zero]
    rfl
  obtain ⟨lower, -⟩ := leading_bounds zero positive
  obtain ⟨-, upper⟩ := steps_bounds num positive
  have leads : leading num den < 1024 := by
    rw [← zpow_lt_zpow_iff_right₀ (one_lt_two : (1 : ℚ) < 2)]
    refine lower.trans_lt (below.trans ?_)
    norm_num
  have within : grid num den ≤ 971 := by
    rw [grid, leastExponent]
    omega
  rw [nearest_eq zero]
  dsimp only
  split
  · rename_i full
    -- On the last grid, not all steps are taken.
    have inner : grid num den ≠ 971 := by
      intro last
      have most : (steps num den : ℚ) = 2 ^ 53 := by exact_mod_cast full
      have middle (k : Nat) : ((2 : ℚ) ^ 53 - 1 / 2) * 2 ^ (k + 1) = 2 ^ (k + 54) - 2 ^ k := by
        ring
      rw [last, most, ← sub_le_iff_le_add, le_div_iff₀ (by positivity)] at upper
      exact (below.trans_le ((middle 970).symm.trans_le upper)).false
    rw [if_neg (show ¬ grid num den + 1 > greatestExponent by rw [greatestExponent]; omega)]
    rfl
  · rw [if_neg (show ¬ grid num den > greatestExponent by rw [greatestExponent]; omega)]
    rfl

end Nearest

theorem ratio_product (x y : Binary64) :
    ((x.fraction.1 * y.fraction.1 : Nat) : ℚ) / (x.fraction.2 * y.fraction.2 : Nat) =
      x.value * y.value := by
  rw [← ratio_fraction x, ← ratio_fraction y, div_mul_div_comm]
  push_cast
  rfl

theorem ratio_quotient (x y : Binary64) :
    ((x.fraction.1 * y.fraction.2 : Nat) : ℚ) / (x.fraction.2 * y.fraction.1 : Nat) =
      x.value / y.value := by
  rw [← ratio_fraction x, ← ratio_fraction y, div_div_div_eq]
  push_cast
  rfl

theorem mul_isSome {x y : Binary64} (below : x.value * y.value < 2 ^ 1024 - 2 ^ 970) :
    (x.mul y).isSome := by
  refine nearest_isSome (Nat.mul_pos x.fraction_pos y.fraction_pos) ?_
  rwa [ratio_product]

section Quotient

variable {x y z : Binary64} (divisor : 0 < y.value)
include divisor

theorem divisor_pos : 0 < x.fraction.2 * y.fraction.1 := by
  refine Nat.mul_pos x.fraction_pos (Nat.pos_of_ne_zero fun zero => ?_)
  rw [← ratio_fraction, zero, Nat.cast_zero, zero_div] at divisor
  exact divisor.false

theorem div_isSome (below : x.value / y.value < 2 ^ 1024 - 2 ^ 970) : (x.div y).isSome := by
  refine nearest_isSome (divisor_pos divisor) ?_
  rwa [ratio_quotient]

theorem value_div_le (quotient : x.div y = some z) : z.value ≤ 2 * (x.value / y.value) := by
  rw [← ratio_quotient]
  exact value_nearest_le (divisor_pos divisor) quotient

end Quotient
end RouteWeaver.Binary64
