import Mathlib.Data.Nat.Digits.Defs
import Lookup.Number.Shortest

/-!
# The digits of a number that is not zero

The digits that are chosen for a number that is not zero are not zero either: digits of zero would read back
as zero, and rounding to a fixed count starts at the highest digit.

## Main results

* `reaches_decimalOrder` — the highest digit is not zero
* `shortest_coefficient_ne_zero` — the shortest digits of a number that is not zero
-/

namespace Lookup.Number

variable {num den : Nat} {e e' : Int}

/-- Whether `num / den` is at least a power of ten. -/
def Reaches (num den : Nat) (e : Int) : Prop := (unscale 10 e num den).2 ≤ (unscale 10 e num den).1

theorem reaches_of_nonneg (h : 0 ≤ e) : Reaches num den e ↔ den * 10 ^ e.toNat ≤ num := by
  rw [Reaches, unscale, if_pos h]
  rfl

theorem reaches_of_neg (h : e < 0) : Reaches num den e ↔ den ≤ num * 10 ^ (-e).toNat := by
  rw [Reaches, unscale, if_neg (not_le.2 h)]
  rfl

/-- What is at least a power of ten is at least each lower one. -/
theorem Reaches.mono (h : Reaches num den e) (hle : e' ≤ e) : Reaches num den e' := by
  by_cases he' : 0 ≤ e'
  · rw [reaches_of_nonneg (he'.trans hle)] at h
    rw [reaches_of_nonneg he']
    refine le_trans (Nat.mul_le_mul_left den (Nat.pow_le_pow_right (by decide) ?_)) h
    omega
  rw [not_le] at he'
  rw [reaches_of_neg he']
  by_cases he : 0 ≤ e
  · rw [reaches_of_nonneg he] at h
    calc den ≤ den * 10 ^ e.toNat := Nat.le_mul_of_pos_right den (by positivity)
      _ ≤ num := h
      _ ≤ num * 10 ^ (-e').toNat := Nat.le_mul_of_pos_right num (by positivity)
  · rw [reaches_of_neg (not_le.1 he)] at h
    refine h.trans (Nat.mul_le_mul_left num (Nat.pow_le_pow_right (by decide) ?_))
    omega

/-- A number has one digit for each power of ten that it is at least. -/
theorem pow_length_toDigits_le {n : Nat} (h : n ≠ 0) : 10 ^ ((Nat.toDigits 10 n).length - 1) ≤ n := by
  by_cases hone : (Nat.toDigits 10 n).length ≤ 1
  · rw [Nat.sub_eq_zero_of_le hone]
    exact Nat.pos_of_ne_zero h
  · by_contra hlt
    have hlength := (Nat.length_toDigits_le_iff (by decide) (by omega)).2 (not_le.1 hlt)
    omega

theorem lt_pow_length_toDigits (n : Nat) : n < 10 ^ (Nat.toDigits 10 n).length :=
  (Nat.length_toDigits_le_iff (by decide) Nat.length_toDigits_pos).1 le_rfl

/-- The order of a fraction is that of its highest digit. -/
theorem reaches_decimalOrder (h : num ≠ 0) (den : Nat) : Reaches num den (decimalOrder num den) := by
  set guess : Int := ((Nat.toDigits 10 num).length : Int) - (Nat.toDigits 10 den).length with hguess
  have horder : decimalOrder num den = if (unscale 10 guess num den).2 ≤ (unscale 10 guess num den).1
      then guess else guess - 1 := rfl
  rw [horder]
  split
  · next hreaches => exact hreaches
  -- One order lower the counts of digits decide.
  have hpos : 0 < (Nat.toDigits 10 num).length := Nat.length_toDigits_pos
  have hnum := pow_length_toDigits_le h
  have hden := (lt_pow_length_toDigits den).le
  generalize (Nat.toDigits 10 num).length = n at hpos hnum hguess
  generalize (Nat.toDigits 10 den).length = d at hden hguess
  by_cases hsign : 0 ≤ guess - 1
  · rw [reaches_of_nonneg hsign]
    calc den * 10 ^ (guess - 1).toNat ≤ 10 ^ d * 10 ^ (guess - 1).toNat := Nat.mul_le_mul_right _ hden
      _ = 10 ^ (n - 1) := by rw [← pow_add]; congr 1; omega
      _ ≤ num := hnum
  · rw [reaches_of_neg (not_le.1 hsign)]
    calc den ≤ 10 ^ d := hden
      _ = 10 ^ (n - 1) * 10 ^ (-(guess - 1)).toNat := by rw [← pow_add]; congr 1; omega
      _ ≤ num * 10 ^ (-(guess - 1)).toNat := Nat.mul_le_mul_right _ hnum

/-! ### Coefficients -/

theorem div_le_nearest (n d : Nat) : n / d ≤ nearest n d := by
  rw [nearest]
  split_ifs <;> omega

/-- Rounding to a count of digits starts at the highest one. -/
theorem significant_coefficient_ne_zero {count : Nat} (hcount : 0 < count) (hnum : num ≠ 0)
    (hden : den ≠ 0) : (significant count num den).coefficient ≠ 0 := by
  have hreaches : Reaches num den (decimalOrder num den - (count - 1)) :=
    (reaches_decimalOrder hnum den).mono (by omega)
  have hpos : 0 < (unscale 10 (decimalOrder num den - (count - 1)) num den).2 := by
    rw [unscale]
    split
    · exact Nat.mul_pos (Nat.pos_of_ne_zero hden) (Nat.pow_pos (by decide))
    · exact Nat.pos_of_ne_zero hden
  have hle := (Nat.div_pos hreaches hpos).trans_le (div_le_nearest _ _)
  exact Nat.pos_iff_ne_zero.1 hle

/-- Digits of zero read back as zero. -/
theorem value_of_coefficient_eq_zero {digits : Digits} (h : digits.coefficient = 0) :
    digits.value = .finite false 0 binary64.lowest := by
  have hzero : (unscale 10 (-digits.exponent) digits.coefficient 1).1 = 0 := by
    rw [unscale, h]
    split <;> simp
  rw [Digits.value]
  exact if_pos hzero

/-- Digits that read back as a number that is not zero are not zero. -/
theorem onGrid?_coefficient_ne_zero {significand : Nat} (h : significand ≠ 0) {exponent : Int}
    {count : Nat} {digits : Digits}
    (hgrid : onGrid? (.finite false significand exponent) num den count = some digits) :
    digits.coefficient ≠ 0 := by
  have hvalue : ∀ point : Digits, point.value = .finite false significand exponent →
      point.coefficient ≠ 0 := by
    intro point hpoint hzero
    rw [value_of_coefficient_eq_zero hzero] at hpoint
    exact h (Binary.finite.inj hpoint).2.1.symm
  unfold onGrid? at hgrid
  dsimp only at hgrid
  generalize (unscale 10 (decimalOrder num den - (count - 1)) num den).1 = n at hgrid
  generalize (unscale 10 (decimalOrder num den - (count - 1)) num den).2 = d at hgrid
  split at hgrid
  · next hbelow _ =>
    obtain rfl := (Option.some.inj hgrid).symm
    have hquotient : n / d ≠ 0 := hvalue _ (of_decide_eq_true hbelow)
    exact Nat.pos_iff_ne_zero.1 ((Nat.pos_of_ne_zero hquotient).trans_le (div_le_nearest n d))
  · next hbelow _ =>
    obtain rfl := (Option.some.inj hgrid).symm
    exact hvalue _ (of_decide_eq_true hbelow)
  · next _ habove =>
    obtain rfl := (Option.some.inj hgrid).symm
    exact hvalue _ (of_decide_eq_true habove)
  · cases hgrid

theorem trim_coefficient_ne_zero {digits : Digits} (h : digits.coefficient ≠ 0) (fuel : Nat) :
    (digits.trim fuel).coefficient ≠ 0 := by
  induction fuel generalizing digits with
  | zero => exact h
  | succ fuel ih =>
    rw [Digits.trim]
    split
    · next htrim =>
      refine ih ?_
      simp only
      omega
    · exact h

/-- A number that is not zero is a fraction of numbers that are not zero. -/
theorem exists_unscale_two {significand : Nat} (h : significand ≠ 0) (exponent : Int) :
    ∃ num den, unscale 2 (-exponent) significand 1 = (num, den) ∧ num ≠ 0 ∧ den ≠ 0 := by
  have hpow : ∀ n : Nat, Nat.pow 2 n ≠ 0 := fun n => Nat.pos_iff_ne_zero.1 (Nat.pow_pos (by decide))
  rw [unscale]
  split
  · exact ⟨_, _, rfl, h, Nat.mul_ne_zero one_ne_zero (hpow _)⟩
  · exact ⟨_, _, rfl, Nat.mul_ne_zero h (hpow _), one_ne_zero⟩

/-- The shortest digits of a number that is not zero are not zero. -/
theorem shortest_coefficient_ne_zero {significand : Nat} (h : significand ≠ 0) (exponent : Int) :
    (shortest significand exponent).coefficient ≠ 0 := by
  obtain ⟨num, den, hfraction, hnum, hden⟩ := exists_unscale_two h exponent
  simp only [shortest, hfraction]
  refine trim_coefficient_ne_zero ?_ 18
  cases hgrid : ((List.range 17).map (· + 1)).findSome?
      (onGrid? (.finite false significand exponent) num den) with
  | none => exact significant_coefficient_ne_zero (by decide) hnum hden
  | some digits =>
    obtain ⟨count, -, hcount⟩ := List.exists_of_findSome?_eq_some hgrid
    exact onGrid?_coefficient_ne_zero h hcount

end Lookup.Number
