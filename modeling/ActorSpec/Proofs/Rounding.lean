import ActorSpec.Number.Shortest
import Mathlib.Algebra.Group.Nat.Defs

/-!
# Rounding to doubles

The double nearest to a fraction depends on the value of the fraction alone (`codeOfRatio_scale`), so a
decimal may be written with more zeros at its end (`ofDecimal_mul_pow`). A magnitude is nearest to itself
(`codeOfRatio_units`); hence every double is the value of some decimal, and the one that is chosen to
write it down reads back as the double (`ofDecimal_shortest`).
-/

namespace ActorSpec.Binary64

/-! ## Fractions -/

theorem roundHalfEven_scale (num den : Nat) {k : Nat} (hk : 0 < k) :
    roundHalfEven (num * k) (den * k) = roundHalfEven num den := by
  have htwice : 2 * (num % den * k) = 2 * (num % den) * k := by rw [Nat.mul_assoc]
  have hlt : 2 * (num % den) * k < den * k ↔ 2 * (num % den) < den := Nat.mul_lt_mul_right hk
  have heq : 2 * (num % den) * k = den * k ↔ 2 * (num % den) = den := Nat.mul_left_inj (Nat.ne_of_gt hk)
  rw [roundHalfEven, roundHalfEven, Nat.mul_div_mul_right _ _ hk, Nat.mul_mod_mul_right]
  simp only [htwice, hlt, heq]

theorem codeOfRatio_scale (num den : Nat) {k : Nat} (hk : 0 < k) :
    codeOfRatio (num * k) (den * k) = codeOfRatio num den := by
  rw [codeOfRatio, codeOfRatio, Nat.mul_div_mul_right _ _ hk]
  simp only [Nat.mul_right_comm den k, roundHalfEven_scale _ _ hk]

theorem ofUnits_scale (negative : Bool) (num den : Nat) {k : Nat} (hk : 0 < k) :
    ofUnits negative (num * k) (den * k) = ofUnits negative num den := by
  simp only [ofUnits, codeOfRatio_scale num den hk]

theorem roundHalfEven_mul {den : Nat} (h : 0 < den) (n : Nat) : roundHalfEven (n * den) den = n := by
  rw [roundHalfEven, Nat.mul_mod_left, Nat.mul_div_cancel n h]
  exact if_pos (.inl h)

/-! ## Magnitudes -/

theorem units_of_lt {code : Nat} (h : code < 2 ^ 52) : units code = code := if_pos h

/-- From the first normal magnitude on a code is a power of two and a significand below the next. -/
theorem exists_units {code : Nat} (h : 2 ^ 52 ≤ code) :
    ∃ shift rest, rest < 2 ^ 52 ∧ code = 2 ^ 52 * (shift + 1) + rest
      ∧ units code = (2 ^ 52 + rest) * 2 ^ shift := by
  have hbinade : 0 < code / 2 ^ 52 := Nat.div_pos h (Nat.two_pow_pos 52)
  obtain ⟨shift, hshift⟩ : ∃ shift, code / 2 ^ 52 = shift + 1 :=
    ⟨_, (Nat.succ_pred (Nat.ne_of_gt hbinade)).symm⟩
  refine ⟨shift, code % 2 ^ 52, Nat.mod_lt _ (Nat.two_pow_pos 52), ?_, ?_⟩
  · rw [← hshift, Nat.div_add_mod]
  · have hunits : units code = (2 ^ 52 + code % 2 ^ 52) * 2 ^ (code / 2 ^ 52 - 1) :=
      if_neg (Nat.not_lt_of_le h)
    rw [hunits, hshift, Nat.add_sub_cancel]

theorem units_pos {code : Nat} (h : 0 < code) : 0 < units code := by
  by_cases hcode : code < 2 ^ 52
  · rwa [units_of_lt hcode]
  · obtain ⟨shift, rest, -, -, hunits⟩ := exists_units (Nat.le_of_not_lt hcode)
    rw [hunits]
    exact Nat.mul_pos (Nat.add_pos_left (Nat.two_pow_pos 52) _) (Nat.two_pow_pos shift)

theorem one_pos : 0 < one := by decide +kernel

/-- All magnitudes are below `2 ^ 1024`. -/
theorem units_lt {code : Nat} (h : code < 2047 * Nat.pow 2 52) : units code < 2 ^ 1024 * one := by
  have hone : 2 ^ 1024 * one = 2 ^ 53 * 2 ^ 2045 := by decide +kernel
  rw [hone]
  by_cases hcode : code < 2 ^ 52
  · rw [units_of_lt hcode]
    exact Nat.lt_of_lt_of_le hcode (by decide +kernel)
  · obtain ⟨shift, rest, hrest, heq, hunits⟩ := exists_units (Nat.le_of_not_lt hcode)
    have hbelow : ∀ most, shift ≤ most → units code < 2 ^ 53 * 2 ^ most := by
      intro most hmost
      rw [hunits]
      exact Nat.mul_lt_mul_of_lt_of_le' (by omega) (Nat.pow_le_pow_right (by omega) hmost)
        (Nat.two_pow_pos shift)
    refine hbelow 2045 ?_
    change code < 2047 * 2 ^ 52 at h
    omega

/-- A magnitude is its own nearest one. -/
theorem codeOfRatio_units (code : Nat) : codeOfRatio (units code) 1 = code := by
  by_cases hcode : code < 2 ^ 52
  · have hshift : Nat.log2 (code / 1) - 52 = 0 := by
      rw [Nat.div_one]
      by_cases hzero : code = 0
      · subst hzero
        rfl
      · exact Nat.sub_eq_zero_of_le (Nat.le_of_lt ((Nat.log2_lt hzero).mpr hcode))
    have hexact := roundHalfEven_mul Nat.one_pos code
    rw [units_of_lt hcode, codeOfRatio, hshift, Nat.zero_mul, Nat.zero_add]
    rwa [Nat.mul_one] at hexact
  · obtain ⟨shift, rest, hrest, heq, hunits⟩ := exists_units (Nat.le_of_not_lt hcode)
    have hpos : 0 < units code := units_pos (by omega)
    have hlog : Nat.log2 (units code / 1) - 52 = shift := by
      have hbounds : 2 ^ (52 + shift) ≤ units code ∧ units code < 2 ^ (52 + shift + 1) := by
        rw [hunits, Nat.pow_succ (m := 52 + shift), Nat.pow_add, Nat.mul_right_comm]
        exact ⟨Nat.mul_le_mul_right _ (by omega),
          Nat.mul_lt_mul_of_pos_right (by omega) (Nat.two_pow_pos shift)⟩
      rw [Nat.div_one, (Nat.log2_eq_iff (Nat.ne_of_gt hpos)).mpr hbounds, Nat.add_sub_cancel_left]
    have hexact : roundHalfEven (units code) (1 * Nat.pow 2 shift) = 2 ^ 52 + rest := by
      rw [hunits, Nat.one_mul]
      exact roundHalfEven_mul (Nat.two_pow_pos shift) _
    rw [codeOfRatio, hlog, hexact]
    change shift * 2 ^ 52 + (2 ^ 52 + rest) = code
    omega

theorem ofUnits_units (negative : Bool) (code : Fin (2047 * Nat.pow 2 52)) :
    ofUnits negative (units code) 1 = .finite negative code := by
  simp only [ofUnits, codeOfRatio_units, code.isLt, dif_pos]

/-! ## Decimals -/

/-- The sign takes no part in the rounding. -/
theorem ofDecimal_sign {digits : Nat} {exponent : Int} {code : Fin (2047 * Nat.pow 2 52)}
    (h : ofDecimal false digits exponent = .finite false code) (negative : Bool) :
    ofDecimal negative digits exponent = .finite negative code := by
  have hunits : ∀ num den, ofUnits false num den = .finite false code →
      ofUnits negative num den = .finite negative code := by
    intro num den hnear
    rw [ofUnits] at hnear ⊢
    split at hnear
    · next hcode => rw [dif_pos hcode, (Binary64.finite.inj hnear).2]
    · cases hnear
  rw [ofDecimal] at h ⊢
  split at h
  · next hsmall => rw [if_pos hsmall, (Binary64.finite.inj h).2]
  · next hsmall =>
      rw [if_neg hsmall]
      split at h
      · cases h
      · next hlarge =>
          rw [if_neg hlarge]
          split at h
          · next hwhole =>
              rw [if_pos hwhole]
              exact hunits _ _ h
          · next hwhole =>
              rw [if_neg hwhole]
              exact hunits _ _ h

/-- A zero at the end of the digits is a step of the exponent. -/
theorem ofDecimal_mul_ten (negative : Bool) (digits : Nat) (exponent : Int) :
    ofDecimal negative (digits * 10) exponent = ofDecimal negative digits (exponent + 1) := by
  by_cases hzero : digits = 0
  · subst hzero
    rw [ofDecimal, ofDecimal, if_pos (.inl (Nat.zero_mul 10)), if_pos (.inl rfl)]
  have hlength : (Nat.toDigits 10 (digits * 10)).length = (Nat.toDigits 10 digits).length + 1 := by
    have hdigits := Nat.toDigits_append_toDigits (b := 10) (d := 0) (by decide)
      (Nat.pos_of_ne_zero hzero) (by decide)
    rw [Nat.mul_comm, ← Nat.add_zero (10 * digits), ← hdigits, List.length_append]
    rfl
  have htop : ((Nat.toDigits 10 (digits * 10)).length : Int) + exponent =
      (Nat.toDigits 10 digits).length + (exponent + 1) := by
    rw [hlength]
    omega
  have hzero' : digits * 10 ≠ 0 := Nat.mul_ne_zero hzero (by decide)
  simp only [ofDecimal, htop, hzero, hzero', false_or]
  congr 2
  rcases Int.lt_trichotomy exponent (-1) with hbelow | rfl | habove
  · have hpower : (-exponent).toNat = (-(exponent + 1)).toNat + 1 := by omega
    rw [if_neg (by omega), if_neg (by omega), hpower, Nat.mul_right_comm]
    exact ofUnits_scale negative _ _ (by decide)
  · have hscale := ofUnits_scale negative (digits * one) 1 (k := 10) (by decide)
    have hunit : Nat.pow 10 ((-1 : Int) + 1).toNat = 1 := rfl
    rw [if_neg (by decide), if_pos (by decide), Nat.mul_right_comm, hunit, Nat.mul_one]
    exact hscale
  · have hpower : (exponent + 1).toNat = exponent.toNat + 1 := by omega
    have hten : 10 * Nat.pow 10 exponent.toNat = Nat.pow 10 (exponent.toNat + 1) := Nat.mul_comm ..
    rw [if_pos (by omega), if_pos (by omega), hpower, Nat.mul_assoc digits 10, hten]

theorem ofDecimal_mul_pow (negative : Bool) (digits : Nat) (exponent : Int) (zeros : Nat) :
    ofDecimal negative (digits * 10 ^ zeros) exponent =
      ofDecimal negative digits (exponent + zeros) := by
  induction zeros generalizing exponent with
  | zero => rw [Nat.pow_zero, Nat.mul_one, Int.natCast_zero, Int.add_zero]
  | succ zeros ih =>
      rw [Nat.pow_succ, ← Nat.mul_assoc, ofDecimal_mul_ten, ih, Int.natCast_succ, Int.add_assoc,
        Int.add_comm 1]

/-! ## The digits of a double -/

/-- All digits of a magnitude stand for it. -/
theorem ofDecimal_units {code : Fin (2047 * Nat.pow 2 52)} (h : code.val ≠ 0) :
    ofDecimal false (units code * Nat.pow 5 1074) (-1074) = .finite false code := by
  have hpos : 0 < units code := units_pos (Nat.pos_of_ne_zero h)
  have hfive : 0 < Nat.pow 5 1074 := by decide +kernel
  have hlong : 744 < (Nat.toDigits 10 (units code * Nat.pow 5 1074)).length := by
    have hall : Nat.pow 5 1074 ≤ units code * Nat.pow 5 1074 := Nat.le_mul_of_pos_left _ hpos
    rw [← Nat.not_le, Nat.length_toDigits_le_iff (by decide) (by decide), Nat.not_lt]
    exact Nat.le_trans (by decide +kernel) hall
  have hshort : (Nat.toDigits 10 (units code * Nat.pow 5 1074)).length ≤ 1384 := by
    refine (Nat.length_toDigits_le_iff (by decide) (by decide)).mpr ?_
    refine Nat.lt_of_lt_of_le (Nat.mul_lt_mul_of_pos_right (units_lt code.isLt) hfive) ?_
    decide +kernel
  have hten : Nat.pow 5 1074 * one = Nat.pow 10 (-(-1074 : Int)).toNat := by decide +kernel
  have htens : 0 < Nat.pow 10 (-(-1074 : Int)).toNat := by decide +kernel
  have hnonzero : units code * Nat.pow 5 1074 ≠ 0 :=
    Nat.ne_of_gt (Nat.mul_pos hpos hfive)
  rw [ofDecimal, if_neg (by omega), if_neg (by omega), if_neg (by decide), Nat.mul_assoc, hten]
  generalize Nat.pow 10 (-(-1074 : Int)).toNat = tens at htens ⊢
  have hscale := ofUnits_scale false (units code) 1 htens
  rw [Nat.one_mul] at hscale
  rw [hscale]
  exact ofUnits_units false code

/-- The digits that are chosen for a double read back as the double. -/
theorem ofDecimal_shortest {code : Fin (2047 * Nat.pow 2 52)} (h : code.val ≠ 0)
    (negative : Bool) :
    ofDecimal negative (shortest code).1 (shortest code).2 = .finite negative code := by
  refine ofDecimal_sign ?_ negative
  generalize hdecimal : shortest code = decimal
  rcases Option.getD_eq_iff.mp hdecimal with hfound | ⟨-, rfl⟩
  · obtain ⟨n, -, hn⟩ := List.exists_of_findSome?_eq_some hfound
    -- The grid is hidden before its two numbers are taken, or they would be computed.
    generalize leadingExponent (units code) = top at hn
    dsimp -iota only at hn
    generalize onGrid (units code) (top - (n : Int)) = grid at hn
    obtain ⟨num, den⟩ := grid
    obtain ⟨digits, hdigits, rfl⟩ := Option.map_eq_some_iff.mp hn
    have hreads := List.find?_some (p := (readsBack code · _)) hdigits
    exact of_decide_eq_true hreads
  · exact ofDecimal_units h

/-- So a double that is not zero has digits. -/
theorem shortest_ne_zero {code : Fin (2047 * Nat.pow 2 52)} (h : code.val ≠ 0) :
    (shortest code).1 ≠ 0 := by
  intro hzero
  have hread := ofDecimal_shortest h false
  rw [hzero, ofDecimal, if_pos (.inl rfl)] at hread
  exact h (congrArg Fin.val (Binary64.finite.inj hread).2).symm

end ActorSpec.Binary64
