import RouteWeaver.Json.Number
import RouteWeaver.Proofs.NearestNumbers

/-!
Numbers of JSON texts that are read. What is left of the digits is never more than what is written,
and the two roundings behind it move the number by less than what keeps it from the next power of
two.
-/

namespace RouteWeaver.Json.Number

def power (n : Number) : Int :=
  match n.exponent with
  | none => 0
  | some (below, ds) => if below then -Text.natOf 10 ds else Text.natOf 10 ds

/-- The number that is written, without its sign. -/
def magnitude (n : Number) : ℚ :=
  Text.natOf 10 (n.whole ++ n.fraction.getD []) * 10 ^ (n.power - (n.fraction.getD []).length)

/-- The greatest floating-point number is `2 ^ 1024 - 2 * 2 ^ 970`, and its neighbour `2 ^ 971`
below it. -/
structure InRange (n : Number) : Prop where
  bounded : n.magnitude ≤ 2 ^ 1024 - 5 * 2 ^ 970
  short : ∀ ds, n.exponent = some (false, ds) → n.magnitude ≠ 0 → Text.natOf 10 ds < exponentLimit

def appended (significand : Nat) (ds : List Char) : Nat :=
  ds.foldl (fun n d => n * 10 + (Text.digitValue? d).getD 0) significand

theorem appended_append (s : Nat) (ds ds' : List Char) :
    appended s (ds ++ ds') = appended (appended s ds) ds' :=
  List.foldl_append

theorem le_appended (s : Nat) (ds : List Char) : s * 10 ^ ds.length ≤ appended s ds := by
  induction ds generalizing s with
  | nil => exact Nat.le_of_eq (Nat.mul_one s)
  | cons d ds ih =>
    calc s * 10 ^ (ds.length + 1)
      _ = s * 10 * 10 ^ ds.length := by ring
      _ ≤ (s * 10 + (Text.digitValue? d).getD 0) * 10 ^ ds.length := by
        gcongr
        exact Nat.le_add_right ..
      _ ≤ appended s (d :: ds) := ih _

theorem appended_zeros (zeros : Nat) (ds : List Char) :
    appended 0 (List.replicate zeros '0' ++ ds) = appended 0 ds := by
  induction zeros with
  | zero => rfl
  | succ zeros ih => exact ih

theorem digitValue_lt (c : Char) : (Text.digitValue? c).getD 0 < 16 := by
  have code (a b : Char) : a ≤ b ↔ a.toNat ≤ b.toNat := Iff.rfl
  have digit : c.isDigit = true ↔ '0' ≤ c ∧ c ≤ '9' := by
    simp only [Char.isDigit, Bool.and_eq_true, decide_eq_true_eq]
    rfl
  simp only [Text.digitValue?, digit, Bool.and_eq_true, decide_eq_true_eq, code]
  split_ifs <;> simp only [Option.getD_some, Option.getD_none, Char.reduceToNat] at * <;> omega

theorem gather_zeros (zeros : Nat) (ds : List Char) :
    gather 0 (List.replicate zeros '0' ++ ds) = gather 0 ds := by
  induction zeros with
  | zero => rfl
  | succ zeros ih => exact ih

/-- The digits are taken as long as the significand keeps to 64 bits. -/
theorem gather_spec (s : Nat) (ds : List Char) :
    ∃ taken, ds = taken ++ (gather s ds).2 ∧ (gather s ds).1 = appended s taken ∧
      (s < wordLimit → (gather s ds).1 < wordLimit) ∧
      ∀ d ∈ (gather s ds).2.head?, wordLimit ≤ appended (gather s ds).1 [d] := by
  induction ds generalizing s with
  | nil => exact ⟨[], rfl, rfl, id, nofun⟩
  | cons d ds ih =>
    rw [gather]
    split
    · rename_i fits
      obtain ⟨taken, cut, value, word, stops⟩ := ih (s * 10 + (Text.digitValue? d).getD 0)
      exact ⟨d :: taken, congrArg (d :: ·) cut, value, fun _ => word fits, stops⟩
    · rename_i full
      refine ⟨[], rfl, rfl, id, ?_⟩
      rintro _ ⟨⟩
      exact Nat.le_of_not_lt full

/-- Behind a whole part that is cut off at most one digit of the fraction is taken, and it is less
than the digit that was left. -/
theorem gathered_le (whole fraction : List Char) :
    (gather (gather 0 whole).1 fraction).1 *
        10 ^ ((gather 0 whole).2.length + (gather (gather 0 whole).1 fraction).2.length) ≤
      Text.natOf 10 (whole ++ fraction) := by
  obtain ⟨before, cut, value, word, stops⟩ := gather_spec 0 whole
  obtain ⟨behind, cut', value', word', -⟩ := gather_spec (gather 0 whole).1 fraction
  have small := word' (word (Nat.two_pow_pos 64))
  have all : Text.natOf 10 (whole ++ fraction) =
      appended (appended (gather 0 whole).1 (gather 0 whole).2) fraction := by
    rw [value, ← appended_append 0, ← cut, ← appended_append]
    rfl
  rw [all]
  generalize (gather 0 whole).1 = head, (gather 0 whole).2 = more at *
  generalize (gather head fraction).1 = significand, (gather head fraction).2 = rest at *
  subst cut' value'
  cases more with
  | nil =>
    rw [appended_append, List.length_nil, Nat.zero_add]
    exact le_appended ..
  | cons d more =>
    have full := stops d rfl
    have digit := digitValue_lt d
    have step (s : Nat) (c : Char) : appended s [c] = s * 10 + (Text.digitValue? c).getD 0 := rfl
    rw [step] at full
    rcases behind with - | ⟨f, - | ⟨g, behind⟩⟩
    · calc head * 10 ^ ((d :: more).length + rest.length)
        _ = head * 10 ^ (d :: more).length * 10 ^ rest.length := by ring
        _ ≤ appended head (d :: more) * 10 ^ rest.length := by
          gcongr
          exact le_appended ..
        _ ≤ appended (appended head (d :: more)) rest := le_appended ..
    · have least : appended head [f] ≤ appended head [d] := (small.trans_le full).le
      calc appended head [f] * 10 ^ ((d :: more).length + rest.length)
        _ = appended head [f] * 10 ^ more.length * 10 ^ (f :: rest).length := by
          simp only [List.length_cons]
          ring
        _ ≤ appended head [d] * 10 ^ more.length * 10 ^ (f :: rest).length := by gcongr
        _ ≤ appended (appended head [d]) more * 10 ^ (f :: rest).length := by
          gcongr
          exact le_appended ..
        _ ≤ appended (appended head (d :: more)) (f :: rest) := le_appended ..
    · have hundred : 10 ^ 2 ≤ 10 ^ (f :: g :: behind).length :=
        Nat.pow_le_pow_right (by decide) (Nat.le_add_left 2 _)
      have large : head * 10 ^ 2 ≤ appended head (f :: g :: behind) :=
        (Nat.mul_le_mul_left head hundred).trans (le_appended ..)
      have limit : wordLimit = 18446744073709551616 := rfl
      omega

section Scaling

open Binary64

theorem powerOfTen {k : Nat} (step : k ≤ stepExponent) :
    ∃ p, nearest (Nat.pow 10 k) 1 = some p ∧ (10 : ℚ) ^ k / 2 ≤ p.value ∧
      p.value ≤ 10 ^ k * (1 + 1 / 2 ^ 53) := by
  have ratio : ((Nat.pow 10 k : Nat) : ℚ) / (1 : Nat) = 10 ^ k := by
    rw [Nat.pow_eq]
    push_cast
    rw [div_one]
  have one : (1 : ℚ) ≤ ((Nat.pow 10 k : Nat) : ℚ) / (1 : Nat) := by
    rw [ratio]
    exact one_le_pow₀ (by norm_num)
  have below : ((Nat.pow 10 k : Nat) : ℚ) / (1 : Nat) < 2 ^ 1024 - 2 ^ 970 := by
    have most : 10 ^ stepExponent + 2 ^ 970 < 2 ^ 1024 := by decide +kernel
    rw [ratio, lt_sub_iff_add_lt]
    refine lt_of_le_of_lt (add_le_add_left (pow_le_pow_right₀ (by norm_num) step) _) ?_
    exact_mod_cast most
  obtain ⟨p, near⟩ := Option.isSome_iff_exists.mp (nearest_isSome Nat.one_pos below)
  refine ⟨p, near, ?_, ?_⟩
  · rw [← ratio]
    exact half_le_value_nearest Nat.one_pos one near
  · rw [← ratio]
    exact value_nearest_le_of_one_le Nat.one_pos one near

theorem quotient_le {x p : Binary64} {k : Nat} (divides : (10 : ℚ) ^ k / 2 ≤ p.value) :
    x.value / p.value ≤ 2 * x.value / 10 ^ k := by
  have tens : (0 : ℚ) < 10 ^ k := by positivity
  calc x.value / p.value
    _ ≤ x.value / (10 ^ k / 2) := by
      gcongr
      exact x.value_nonneg
    _ = 2 * x.value / 10 ^ k := by field_simp

theorem fourth_le {v t : ℚ} (nonneg : 0 ≤ v) (four : 4 ≤ t) : 2 * (2 * v / t) ≤ v := by
  rw [← mul_div_assoc, div_le_iff₀ (by linarith)]
  nlinarith only [nonneg, four]

theorem far : (2 : ℚ) ^ 66 < 2 ^ 1024 - 2 ^ 970 := by
  have most : 2 ^ 66 + 2 ^ 970 < 2 ^ 1024 := by decide +kernel
  rw [lt_sub_iff_add_lt]
  exact_mod_cast most

/-- A number that a significand is nearest to never grows while it is divided. -/
theorem scaleDown_isSome (fuel : Nat) {x : Binary64} (bounded : x.value ≤ 2 ^ 65)
    (exponent : Nat) : (scaleDown fuel x exponent).isSome := by
  induction fuel generalizing x exponent with
  | zero => rfl
  | succ fuel ih =>
    have below {p : Binary64} {k : Nat} (divides : (10 : ℚ) ^ k / 2 ≤ p.value) :
        x.value / p.value < 2 ^ 1024 - 2 ^ 970 :=
      calc x.value / p.value
        _ ≤ 2 * x.value / 10 ^ k := quotient_le divides
        _ ≤ 2 * x.value := by
          refine div_le_self ?_ (one_le_pow₀ (by norm_num))
          exact mul_nonneg (by norm_num) x.value_nonneg
        _ ≤ 2 ^ 66 := by linarith
        _ < 2 ^ 1024 - 2 ^ 970 := far
    have divisor {p : Binary64} {k : Nat} (divides : (10 : ℚ) ^ k / 2 ≤ p.value) :
        0 < p.value := lt_of_lt_of_le (by positivity) divides
    rw [scaleDown]
    split
    · rfl
    split
    · rename_i last
      obtain ⟨p, near, divides, -⟩ := powerOfTen last
      rw [near]
      exact div_isSome (divisor divides) (below divides)
    · obtain ⟨p, near, divides, -⟩ := powerOfTen (Nat.le_refl stepExponent)
      obtain ⟨y, quotient⟩ :=
        Option.isSome_iff_exists.mp (div_isSome (divisor divides) (below divides))
      have shrinks : y.value ≤ x.value := by
        have ten : (10 : ℚ) ≤ 10 ^ stepExponent := le_self_pow₀ (by norm_num) (by decide)
        have tens : (4 : ℚ) ≤ 10 ^ stepExponent := le_trans (by norm_num) ten
        have part := (value_div_le (divisor divides) quotient).trans
          (mul_le_mul_of_nonneg_left (quotient_le divides) (by norm_num))
        exact part.trans (fourth_le x.value_nonneg tens)
      rw [near]
      simp only [Option.bind_eq_bind, Option.bind_some, quotient]
      exact ih (shrinks.trans bounded) _

/-- Two roundings of a number that is so small do not reach the middle between the greatest number
and the next power of two. -/
theorem roundings_lt (k : Nat) :
    ((2 : ℚ) ^ (k + 54) - 5 * 2 ^ k) * (1 + 1 / 2 ^ 53) ^ 2 < 2 ^ (k + 54) - 2 ^ k := by
  have positive : (0 : ℚ) < 2 ^ k := by positivity
  rw [pow_add]
  linarith

theorem exponent_le_step {significand k : Nat} (one : 1 ≤ significand)
    (bounded : (significand : ℚ) * 10 ^ k ≤ 2 ^ 1024 - 5 * 2 ^ 970) : k ≤ stepExponent := by
  have most : 2 ^ 1024 < 10 ^ (stepExponent + 1) := by decide +kernel
  have less : (10 : ℚ) ^ k < 10 ^ (stepExponent + 1) :=
    calc (10 : ℚ) ^ k
      _ ≤ significand * 10 ^ k :=
        le_mul_of_one_le_left (by positivity) (by exact_mod_cast one)
      _ ≤ 2 ^ 1024 - 5 * 2 ^ 970 := bounded
      _ ≤ 2 ^ 1024 := sub_le_self _ (by positivity)
      _ < 10 ^ (stepExponent + 1) := by exact_mod_cast most
  exact Nat.lt_succ_iff.mp ((pow_lt_pow_iff_right₀ (by norm_num)).mp less)

/-- The nearest numbers to a significand and to a power of ten have a product. -/
theorem product_lt {significand k : Nat} {x p : Binary64}
    (near : x.value ≤ significand * (1 + 1 / 2 ^ 53))
    (near' : p.value ≤ 10 ^ k * (1 + 1 / 2 ^ 53))
    (bounded : (significand : ℚ) * 10 ^ k ≤ 2 ^ 1024 - 5 * 2 ^ 970) :
    x.value * p.value < 2 ^ 1024 - 2 ^ 970 :=
  calc x.value * p.value
    _ ≤ significand * (1 + 1 / 2 ^ 53) * (10 ^ k * (1 + 1 / 2 ^ 53)) := by
      gcongr
      exact p.value_nonneg
    _ = significand * 10 ^ k * (1 + 1 / 2 ^ 53) ^ 2 := by ring
    _ ≤ (2 ^ 1024 - 5 * 2 ^ 970) * (1 + 1 / 2 ^ 53) ^ 2 := by gcongr
    _ < 2 ^ 1024 - 2 ^ 970 := roundings_lt 970

theorem scale_isSome {significand : Nat} {exponent : Int} (word : significand < wordLimit)
    (bounded : (significand : ℚ) * 10 ^ exponent ≤ 2 ^ 1024 - 5 * 2 ^ 970) :
    (scale significand exponent).isSome := by
  have ratio : ((significand : Nat) : ℚ) / (1 : Nat) = significand := by
    rw [Nat.cast_one, div_one]
  have small : (significand : ℚ) ≤ 2 ^ 64 := by exact_mod_cast Nat.le_of_lt word
  have below : (significand : ℚ) / (1 : Nat) < 2 ^ 1024 - 2 ^ 970 := by
    rw [ratio]
    refine lt_of_le_of_lt (small.trans ?_) far
    norm_num
  obtain ⟨x, near⟩ := Option.isSome_iff_exists.mp (nearest_isSome Nat.one_pos below)
  have start : x.value ≤ 2 ^ 65 := by
    have double := value_nearest_le Nat.one_pos near
    rw [ratio] at double
    linarith
  rw [scale, near]
  simp only [Option.bind_eq_bind, Option.bind_some]
  split
  · exact scaleDown_isSome 8 start _
  rename_i up
  split
  · rfl
  rename_i some
  have one : 1 ≤ significand := by
    refine Nat.one_le_iff_ne_zero.mpr fun zero => some ?_
    rw [zero, nearest, if_pos rfl] at near
    obtain rfl := Option.some.inj near
    rfl
  obtain ⟨k, rfl⟩ := Int.eq_ofNat_of_zero_le (Int.not_lt.mp up)
  rw [zpow_natCast] at bounded
  rw [Int.toNat_natCast]
  have step := exponent_le_step one bounded
  rw [if_pos step]
  obtain ⟨p, near', -, above⟩ := powerOfTen step
  have close := value_nearest_le_of_one_le Nat.one_pos (by rw [ratio]; exact_mod_cast one) near
  rw [ratio] at close
  rw [near']
  exact mul_isSome (product_lt close above bounded)

end Scaling

section Reading

variable {n : Number} {head significand : Nat} {more rest : List Char}

/-- What the significand stands for is not more than what is written. -/
theorem significand_le (first : gather 0 n.whole = (head, more))
    (second : gather head (n.fraction.getD []) = (significand, rest)) :
    (significand : ℚ) *
        10 ^ ((more.length : Int) - ((n.fraction.getD []).length - rest.length : Nat) + n.power) ≤
      n.magnitude := by
  have least := gathered_le n.whole (n.fraction.getD [])
  obtain ⟨taken, cut, -⟩ := gather_spec head (n.fraction.getD [])
  have part := congrArg List.length cut
  rw [List.length_append] at part
  simp only [first, second] at least part
  have exponent : (more.length : Int) - ((n.fraction.getD []).length - rest.length : Nat) +
      n.power = (more.length + rest.length : Nat) + (n.power - (n.fraction.getD []).length) := by
    omega
  rw [exponent, zpow_add₀ (by norm_num), zpow_natCast, ← mul_assoc, magnitude]
  gcongr
  exact_mod_cast least

theorem floating_isSome (inRange : n.InRange) : n.floating.isSome := by
  rw [floating]
  split
  rename_i head more first
  split
  rename_i significand rest second
  obtain ⟨taken, -, -, word, -⟩ := gather_spec 0 n.whole
  obtain ⟨taken', -, -, word', -⟩ := gather_spec head (n.fraction.getD [])
  simp only [first, second] at word word'
  have small : significand < wordLimit := word' (word (Nat.two_pow_pos 64))
  have least := significand_le first second
  have bounded := least.trans inRange.bounded
  rw [Option.isSome_map]
  split
  · rename_i none
    rw [power, none] at bounded
    exact scale_isSome small (by simpa using bounded)
  · rename_i below ds some
    rw [power, some] at bounded
    by_cases short : Text.natOf 10 ds < exponentLimit
    · dsimp only
      rw [if_pos short]
      refine scale_isSome small ?_
      cases below <;> exact bounded
    · have zero : significand = 0 ∨ below = true := by
        rw [or_iff_not_imp_right, Bool.not_eq_true]
        rintro rfl
        by_contra nonzero
        have positive : 0 < n.magnitude := by
          refine lt_of_lt_of_le ?_ least
          have any : 0 < significand := Nat.pos_of_ne_zero nonzero
          positivity
        exact short (inRange.short ds some positive.ne')
      dsimp only
      rw [if_neg short, if_pos (by simpa using zero)]
      rfl

theorem scalar_isSome (inRange : n.InRange) : n.scalar.isSome := by
  rw [scalar]
  split
  have floating := floating_isSome inRange
  split_ifs <;> first | rfl | exact floating

end Reading

end RouteWeaver.Json.Number
