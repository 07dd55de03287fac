import Mathlib.Algebra.Order.Field.Power
import Mathlib.Algebra.Order.Field.Rat
import Mathlib.Tactic.Linarith
import Mathlib.Tactic.Positivity
import Mathlib.Tactic.Ring
import Lookup.Number.Binary

/-!
# The number of a format that is nearest to a rational

A format has a finite number of numbers, each of which has one form. Which of them is nearest to a rational is
decided by the points halfway between neighbours; on such a point the number with the even significand is taken.
The power of two behind the greatest number counts as one more neighbour, and from halfway to it on a rational is
rounded to an infinity.

## Main definitions

* `magnitude`, `signed` — the value of a significand and an exponent, and a rational with a sign
* `halfway` — the point halfway between a number and the next one
* `Format.IsNumber` — the significands and exponents of the numbers of a format
* `Format.IsNearest` — the nearest number of a format, a tie going to the even significand
* `Format.bound`, `Format.Rounds` — what a rational is rounded to

## Main results

* `Format.IsNumber.succ_le` — no number stands between a number and the next one
* `Format.IsNumber.unique` — a number has one form
* `Format.IsNearest.covers`, `Format.Covers.isNearest` — what is nearest, whatever the sign, by halfway points
* `Format.Rounds.unique` — a rational is rounded to one number
-/

namespace Lookup.Number

/-- The number `significand · 2 ^ exponent`. -/
def magnitude (significand : Nat) (exponent : Int) : ℚ := significand * 2 ^ exponent

/-- The point halfway between a number and the next one. -/
def halfway (significand : Nat) (exponent : Int) : ℚ := magnitude (2 * significand + 1) (exponent - 1)

/-- A rational number with its sign turned over, or as it is. -/
def signed (negative : Bool) (q : ℚ) : ℚ := if negative then -q else q

/-- The value of a finite number. -/
def Binary.value? : Binary → Option ℚ
  | .finite negative significand exponent => some (signed negative (magnitude significand exponent))
  | _ => none

namespace Format

/-- A significand and an exponent of a format. The first digit of the significand is set, unless the exponent is
the least. -/
structure IsNumber (format : Format) (significand : Nat) (exponent : Int) : Prop where
  lt : significand < 2 ^ format.digits
  lowest_le : format.lowest ≤ exponent
  le_highest : exponent ≤ format.highest
  leading : format.lowest < exponent → 2 ^ (format.digits - 1) ≤ significand

/-- Of the numbers of a format, of both signs, none is nearer to `q`, and where another one is as near the
significand is even. -/
structure IsNearest (format : Format) (q : ℚ) (negative : Bool) (m : Nat) (e : Int) : Prop where
  isNumber : format.IsNumber m e
  le : ∀ negative' m' e', format.IsNumber m' e' →
    |q - signed negative (magnitude m e)| ≤ |q - signed negative' (magnitude m' e')|
  even : ∀ negative' m' e', format.IsNumber m' e' →
    |q - signed negative (magnitude m e)| = |q - signed negative' (magnitude m' e')| →
      signed negative' (magnitude m' e') ≠ signed negative (magnitude m e) → Even m

/-- Halfway between the greatest number and the power of two behind it. -/
def bound (format : Format) : ℚ := halfway (2 ^ format.digits - 1) format.highest

/-- What a number with a sign and a magnitude is rounded to. The sign is kept, for zero and the infinities too. -/
inductive Rounds (format : Format) (negative : Bool) (q : ℚ) : Binary → Prop
  | finite {m : Nat} {e : Int} (lt_bound : q < format.bound)
      (isNearest : format.IsNearest (signed negative q) negative m e) : Rounds format negative q (.finite negative m e)
  | infinite (bound_le : format.bound ≤ q) : Rounds format negative q (.infinite negative)

end Format

variable {format : Format} {negative : Bool} {m m' : Nat} {e e' : Int} {q x y : ℚ}

/-! ### Magnitudes -/

theorem magnitude_nonneg (m : Nat) (e : Int) : 0 ≤ magnitude m e := by
  unfold magnitude
  positivity

@[simp] theorem magnitude_zero (e : Int) : magnitude 0 e = 0 := by
  rw [magnitude, Nat.cast_zero, zero_mul]

@[simp] theorem magnitude_one (e : Int) : magnitude 1 e = 2 ^ e := by
  rw [magnitude, Nat.cast_one, one_mul]

theorem two_zpow_pos (e : Int) : (0 : ℚ) < 2 ^ e := zpow_pos two_pos e

theorem magnitude_le_iff : magnitude m e ≤ magnitude m' e ↔ m ≤ m' := by
  rw [magnitude, magnitude, mul_le_mul_iff_left₀ (two_zpow_pos e), Nat.cast_le]

theorem magnitude_lt_iff : magnitude m e < magnitude m' e ↔ m < m' := by
  rw [magnitude, magnitude, mul_lt_mul_iff_left₀ (two_zpow_pos e), Nat.cast_lt]

theorem magnitude_inj : magnitude m e = magnitude m' e ↔ m = m' := by
  rw [magnitude, magnitude, mul_left_inj' (two_zpow_pos e).ne', Nat.cast_inj]

theorem magnitude_mono (m : Nat) (h : e ≤ e') : magnitude m e ≤ magnitude m e' :=
  mul_le_mul_of_nonneg_left (zpow_le_zpow_right₀ one_le_two h) (Nat.cast_nonneg m)

/-- A lower exponent goes with a greater significand. -/
theorem magnitude_eq_of_le (m : Nat) (h : e ≤ e') : magnitude m e' = magnitude (m * 2 ^ (e' - e).toNat) e := by
  obtain ⟨k, rfl⟩ := Int.le.dest h
  rw [add_sub_cancel_left, Int.toNat_natCast, magnitude, magnitude, zpow_add₀ two_ne_zero, zpow_natCast]
  push_cast
  ring

theorem magnitude_add_one (m : Nat) (e : Int) : magnitude m (e + 1) = magnitude (2 * m) e := by
  rw [magnitude_eq_of_le m (by omega : e ≤ e + 1), add_sub_cancel_left, Int.toNat_one, pow_one, Nat.mul_comm]

theorem magnitude_succ (m : Nat) (e : Int) : magnitude (m + 1) e = magnitude m e + 2 ^ e := by
  unfold magnitude
  push_cast
  ring

theorem magnitude_add_le (h : m < m') : magnitude m e + 2 ^ e ≤ magnitude m' e := by
  rw [← magnitude_succ]
  exact magnitude_le_iff.2 h

theorem magnitude_lt_succ (m : Nat) (e : Int) : magnitude m e < magnitude (m + 1) e :=
  magnitude_lt_iff.2 m.lt_succ_self

theorem two_mul_magnitude (m : Nat) (e : Int) : 2 * magnitude m e = magnitude (2 * m) e := by
  unfold magnitude
  push_cast
  ring

theorem two_mul_halfway (m : Nat) (e : Int) : 2 * halfway m e = magnitude m e + magnitude (m + 1) e := by
  have hstep : magnitude (2 * m + 1) (e - 1 + 1) = magnitude m e + magnitude (m + 1) e := by
    rw [sub_add_cancel]
    unfold magnitude
    push_cast
    ring
  rw [halfway, two_mul_magnitude, ← magnitude_add_one, hstep]

/-! ### Distances -/

theorem abs_signed (negative : Bool) (q : ℚ) : |signed negative q| = |q| := by
  cases negative
  · rfl
  · exact abs_neg q

theorem signed_sub (negative : Bool) (x y : ℚ) : signed negative x - signed negative y = signed negative (x - y) := by
  cases negative
  · rfl
  · simp only [signed, if_true]
    ring

theorem abs_signed_sub_signed (negative : Bool) (x y : ℚ) : |signed negative x - signed negative y| = |x - y| := by
  rw [signed_sub, abs_signed]

theorem signed_inj : signed negative x = signed negative y ↔ x = y := by
  cases negative
  · rfl
  · exact neg_inj

/-- Numbers of different signs are as far apart as they are both from zero. -/
theorem abs_signed_sub_signed_not (hx : 0 ≤ x) (hy : 0 ≤ y) :
    |signed negative x - signed (!negative) y| = x + y := by
  cases negative
  · simp only [signed, Bool.not_false, if_true, Bool.false_eq_true, if_false, sub_neg_eq_add]
    exact abs_of_nonneg (add_nonneg hx hy)
  · simp only [signed, Bool.not_true, if_true, Bool.false_eq_true, if_false]
    rw [abs_of_nonpos (by linarith)]
    ring

section Halfway

variable (h : x < y)

include h

/-- The lesser of two numbers is nearer to what lies before the point halfway between them. -/
theorem abs_sub_le_abs_sub_iff : |q - x| ≤ |q - y| ↔ 2 * q ≤ x + y := by
  rw [← sq_le_sq]
  constructor
  · intro hle
    nlinarith
  · intro hle
    nlinarith

theorem abs_sub_ge_abs_sub_iff : |q - y| ≤ |q - x| ↔ x + y ≤ 2 * q := by
  rw [← sq_le_sq]
  constructor
  · intro hle
    nlinarith
  · intro hle
    nlinarith

theorem abs_sub_eq_abs_sub_iff : |q - x| = |q - y| ↔ 2 * q = x + y := by
  rw [le_antisymm_iff, abs_sub_le_abs_sub_iff h, abs_sub_ge_abs_sub_iff h, le_antisymm_iff]

end Halfway

/-! ### The numbers of a format -/

namespace Format

/-- A power of two with one digit too many has a higher exponent. -/
theorem magnitude_two_pow_digits (hdigits : format.digits ≠ 0) (e : Int) :
    magnitude (2 ^ format.digits) e = magnitude (2 ^ (format.digits - 1)) (e + 1) := by
  rw [magnitude_add_one, ← pow_succ', Nat.sub_add_cancel (Nat.pos_of_ne_zero hdigits)]

namespace IsNumber

/-- A number with a lower exponent is less than all numbers with the higher one. -/
theorem lt_of_exponent_lt (h : format.IsNumber m e) (hdigits : format.digits ≠ 0) (hlt : e < e') :
    magnitude m e < magnitude (2 ^ (format.digits - 1)) e' := by
  calc magnitude m e < magnitude (2 ^ format.digits) e := magnitude_lt_iff.2 h.lt
    _ = magnitude (2 ^ (format.digits - 1)) (e + 1) := magnitude_two_pow_digits hdigits e
    _ ≤ magnitude (2 ^ (format.digits - 1)) e' := magnitude_mono _ hlt

/-- No number stands between a number and the next one. -/
theorem succ_le (h : format.IsNumber m e) (h' : format.IsNumber m' e') (hdigits : format.digits ≠ 0)
    (hlt : magnitude m e < magnitude m' e') : magnitude (m + 1) e ≤ magnitude m' e' := by
  by_cases hexponent : e ≤ e'
  · -- Both are whole multiples of the same power of two.
    rw [magnitude_eq_of_le m' hexponent] at hlt ⊢
    exact magnitude_le_iff.2 (magnitude_lt_iff.1 hlt)
  · have hlower := not_le.1 hexponent
    have hleading := h.leading (h'.lowest_le.trans_lt hlower)
    have hless := hlt.trans (h'.lt_of_exponent_lt hdigits hlower)
    exact absurd hleading (not_le.2 (magnitude_lt_iff.1 hless))

theorem exponent_le_of_magnitude_eq (h : format.IsNumber m e) (h' : format.IsNumber m' e')
    (hdigits : format.digits ≠ 0) (heq : magnitude m e = magnitude m' e') : e' ≤ e := by
  by_contra hexponent
  have hlower := not_le.1 hexponent
  have hleading := h'.leading (h.lowest_le.trans_lt hlower)
  have hless := h.lt_of_exponent_lt hdigits hlower
  rw [heq] at hless
  exact absurd hleading (not_le.2 (magnitude_lt_iff.1 hless))

/-- A number has one form. -/
theorem unique (h : format.IsNumber m e) (h' : format.IsNumber m' e') (hdigits : format.digits ≠ 0)
    (heq : magnitude m e = magnitude m' e') : m = m' ∧ e = e' := by
  obtain rfl : e = e' :=
    le_antisymm (h'.exponent_le_of_magnitude_eq h hdigits heq.symm) (h.exponent_le_of_magnitude_eq h' hdigits heq)
  exact ⟨magnitude_inj.1 heq, rfl⟩

theorem zero (h : format.lowest ≤ format.highest) : format.IsNumber 0 format.lowest :=
  ⟨Nat.two_pow_pos _, le_rfl, h, fun hlt => absurd hlt (lt_irrefl _)⟩

/-- Behind an even significand there is room for the next one. -/
theorem succ (h : format.IsNumber m e) (hdigits : format.digits ≠ 0) (heven : Even m) : format.IsNumber (m + 1) e where
  lt := by
    have hpow : Even (2 ^ format.digits) := even_two.pow_of_ne_zero hdigits
    have hlt := h.lt
    refine lt_of_le_of_ne hlt fun heq => ?_
    rw [← heq] at hpow
    exact (Nat.even_add_one.1 hpow) heven
  lowest_le := h.lowest_le
  le_highest := h.le_highest
  leading hlt := (h.leading hlt).trans m.le_succ

end IsNumber

/-! ### Neighbours -/

section Neighbours

variable (hdigits : format.digits ≠ 0)

include hdigits

theorem two_pow_digits_sub_one_lt : 2 ^ (format.digits - 1) < 2 ^ format.digits :=
  Nat.pow_lt_pow_right one_lt_two (Nat.sub_lt (Nat.pos_of_ne_zero hdigits) Nat.one_pos)

theorem not_even_greatest : ¬ Even (2 ^ format.digits - 1) := by
  have hpow : Even (2 ^ format.digits) := even_two.pow_of_ne_zero hdigits
  rw [Nat.even_sub' Nat.one_le_two_pow]
  simp [hpow]

/-- The greatest number of a format. -/
theorem IsNumber.greatest (hrange : format.lowest ≤ format.highest) :
    format.IsNumber (2 ^ format.digits - 1) format.highest where
  lt := Nat.sub_lt (Nat.two_pow_pos _) Nat.one_pos
  lowest_le := hrange
  le_highest := le_rfl
  leading _ := Nat.le_sub_one_of_lt (two_pow_digits_sub_one_lt hdigits)

/-- Behind each number but the greatest stands another one. -/
theorem IsNumber.exists_succ (h : format.IsNumber m e) :
    (∃ m' e', format.IsNumber m' e' ∧ magnitude m' e' = magnitude (m + 1) e) ∨
      m = 2 ^ format.digits - 1 ∧ e = format.highest := by
  obtain ⟨hlt, hlowest, hhighest, hleading⟩ := h
  rcases (Nat.succ_le_of_lt hlt).lt_or_eq with hroom | hfull
  · exact .inl ⟨m + 1, e, ⟨hroom, hlowest, hhighest, fun hless => (hleading hless).trans m.le_succ⟩, rfl⟩
  rcases hhighest.lt_or_eq with hless | heq
  · refine .inl ⟨2 ^ (format.digits - 1), e + 1, ⟨?_, by omega, by omega, fun _ => le_rfl⟩, ?_⟩
    · exact two_pow_digits_sub_one_lt hdigits
    · rw [← Nat.succ_eq_add_one m, hfull, magnitude_two_pow_digits hdigits]
  · exact .inr ⟨Nat.eq_sub_of_add_eq hfull, heq⟩

/-- Before each number but zero stands another one, and of the two significands one is odd. -/
theorem IsNumber.exists_pred (h : format.IsNumber m e) (hpos : 0 < m) :
    ∃ m' e', format.IsNumber m' e' ∧ magnitude (m' + 1) e' = magnitude m e ∧ (Even m → ¬ Even m') := by
  obtain ⟨hlt, hlowest, hhighest, hleading⟩ := h
  by_cases hfirst : format.lowest < e ∧ m = 2 ^ (format.digits - 1)
  · obtain ⟨hless, rfl⟩ := hfirst
    have hgreatest := Nat.le_sub_one_of_lt hlt
    refine ⟨2 ^ format.digits - 1, e - 1, ⟨?_, by omega, by omega, fun _ => hgreatest⟩, ?_, fun _ => ?_⟩
    · exact Nat.sub_lt (Nat.two_pow_pos _) Nat.one_pos
    · rw [Nat.sub_add_cancel Nat.one_le_two_pow, magnitude_two_pow_digits hdigits, sub_add_cancel]
    · exact not_even_greatest hdigits
  · refine ⟨m - 1, e, ⟨by omega, hlowest, hhighest, fun hless => ?_⟩, ?_, fun heven => ?_⟩
    · have hle := hleading hless
      have hne : m ≠ 2 ^ (format.digits - 1) := fun heq => hfirst ⟨hless, heq⟩
      omega
    · rw [Nat.sub_add_cancel hpos]
    · rw [Nat.even_iff] at heven ⊢
      omega

end Neighbours

theorem IsNumber.magnitude_le_greatest (h : format.IsNumber m e) :
    magnitude m e ≤ magnitude (2 ^ format.digits - 1) format.highest :=
  (magnitude_mono m h.le_highest).trans (magnitude_le_iff.2 (Nat.le_sub_one_of_lt h.lt))

/-! ### What a number covers -/

/-- A rational that is not negative lies on this number's side of the points halfway to the other numbers. On such a
point it lies only where the significand is even. -/
structure Covers (format : Format) (m : Nat) (e : Int) (q : ℚ) : Prop where
  isNumber : format.IsNumber m e
  above : ∀ {m' e'}, format.IsNumber m' e' → magnitude m e < magnitude m' e' →
    2 * q < magnitude m e + magnitude m' e' ∨ 2 * q = magnitude m e + magnitude m' e' ∧ Even m
  below : ∀ {m' e'}, format.IsNumber m' e' → magnitude m' e' < magnitude m e →
    magnitude m' e' + magnitude m e < 2 * q ∨ magnitude m' e' + magnitude m e = 2 * q ∧ Even m

theorem IsNearest.covers (h : format.IsNearest (signed negative q) negative m e) : format.Covers m e q where
  isNumber := h.isNumber
  above {m' e'} h' hlt := by
    have hle := h.le negative m' e' h'
    have heven := h.even negative m' e' h'
    simp only [abs_signed_sub_signed] at hle heven
    rcases ((abs_sub_le_abs_sub_iff hlt).1 hle).lt_or_eq with hless | heq
    · exact .inl hless
    · exact .inr ⟨heq, heven ((abs_sub_eq_abs_sub_iff hlt).2 heq) fun hsame => hlt.ne' (signed_inj.1 hsame)⟩
  below {m' e'} h' hlt := by
    have hle := h.le negative m' e' h'
    have heven := h.even negative m' e' h'
    simp only [abs_signed_sub_signed] at hle heven
    rcases ((abs_sub_ge_abs_sub_iff hlt).1 hle).lt_or_eq with hless | heq
    · exact .inl hless
    · exact .inr ⟨heq, heven ((abs_sub_eq_abs_sub_iff hlt).2 heq.symm).symm fun hsame => hlt.ne (signed_inj.1 hsame)⟩

namespace Covers

variable (h : format.Covers m e q)

include h

theorem abs_sub_le (h' : format.IsNumber m' e') : |q - magnitude m e| ≤ |q - magnitude m' e'| := by
  rcases lt_trichotomy (magnitude m e) (magnitude m' e') with hlt | heq | hlt
  · rw [abs_sub_le_abs_sub_iff hlt]
    rcases h.above h' hlt with hless | ⟨heq, -⟩
    · exact hless.le
    · exact heq.le
  · rw [heq]
  · rw [abs_sub_ge_abs_sub_iff hlt]
    rcases h.below h' hlt with hless | ⟨heq, -⟩
    · exact hless.le
    · exact heq.le

theorem even_of_abs_sub_eq (h' : format.IsNumber m' e') (heq : |q - magnitude m e| = |q - magnitude m' e'|)
    (hne : magnitude m' e' ≠ magnitude m e) : Even m := by
  rcases lt_or_gt_of_ne hne with hlt | hlt
  · rcases h.below h' hlt with hless | ⟨-, heven⟩
    · exact absurd ((abs_sub_eq_abs_sub_iff hlt).1 heq.symm) hless.ne'
    · exact heven
  · rcases h.above h' hlt with hless | ⟨-, heven⟩
    · exact absurd ((abs_sub_eq_abs_sub_iff hlt).1 heq) hless.ne
    · exact heven

/-- A number of the other sign is as near only if the significand is even, since zero is nearer to it. -/
theorem even_of_abs_sub_eq_add (hq : 0 ≤ q)
    (heq : |q - magnitude m e| = q + magnitude m' e') (hne : ¬ (magnitude m' e' = 0 ∧ magnitude m e = 0)) :
    Even m := by
  have hx := magnitude_nonneg m e
  have hy := magnitude_nonneg m' e'
  have hzero := IsNumber.zero (h.isNumber.lowest_le.trans h.isNumber.le_highest)
  rcases abs_cases (q - magnitude m e) with ⟨habs, -⟩ | ⟨habs, -⟩
  · exact absurd ⟨by linarith, by linarith⟩ hne
  · -- The number is beyond the rational, so that zero is below it.
    have hlt : magnitude 0 format.lowest < magnitude m e := by
      rw [magnitude_zero]
      by_contra hnot
      exact hne ⟨by linarith, by linarith⟩
    rcases h.below hzero hlt with hless | ⟨-, heven⟩
    · rw [magnitude_zero] at hless
      linarith
    · exact heven

theorem isNearest (hq : 0 ≤ q) (negative : Bool) : format.IsNearest (signed negative q) negative m e where
  isNumber := h.isNumber
  le negative' m' e' h' := by
    have hle := h.abs_sub_le h'
    rw [abs_signed_sub_signed]
    rcases Bool.eq_or_eq_not negative' negative with rfl | rfl
    · rwa [abs_signed_sub_signed]
    · have hy := magnitude_nonneg m' e'
      rw [abs_signed_sub_signed_not hq hy]
      exact hle.trans (abs_sub_le_iff.2 ⟨by linarith, by linarith⟩)
  even negative' m' e' h' heq hne := by
    rw [abs_signed_sub_signed] at heq
    rcases Bool.eq_or_eq_not negative' negative with rfl | rfl
    · rw [abs_signed_sub_signed] at heq
      exact h.even_of_abs_sub_eq h' heq fun hsame => hne (congrArg _ hsame)
    · rw [abs_signed_sub_signed_not hq (magnitude_nonneg m' e')] at heq
      refine h.even_of_abs_sub_eq_add hq heq fun hzero => hne ?_
      rw [hzero.1, hzero.2]
      cases negative <;> simp [signed]

end Covers

/-- Two numbers do not cover the same, as between two even significands there is an odd one. -/
theorem Covers.magnitude_le (h : format.Covers m e q) (h' : format.Covers m' e' q) (hdigits : format.digits ≠ 0) :
    magnitude m' e' ≤ magnitude m e := by
  by_contra hnot
  have hlt := not_le.1 hnot
  have habove := h.above h'.isNumber hlt
  have hbelow := h'.below h.isNumber hlt
  obtain ⟨hhalf, heven⟩ : 2 * q = magnitude m e + magnitude m' e' ∧ Even m := by
    rcases habove with hless | heq
    · rcases hbelow with hless' | ⟨heq, -⟩ <;> linarith
    · exact heq
  have heven' : Even m' := by
    rcases hbelow with hless | ⟨-, heven'⟩
    · linarith
    · exact heven'
  have hsucc := h.isNumber.succ hdigits heven
  rcases (h.isNumber.succ_le h'.isNumber hdigits hlt).lt_or_eq with hbetween | heq
  · -- The next number would be nearer.
    have hless : magnitude m e < magnitude (m + 1) e := magnitude_lt_succ m e
    rcases h.above hsucc hless with hnear | ⟨hnear, -⟩ <;> linarith
  · obtain ⟨rfl, -⟩ := hsucc.unique h'.isNumber hdigits heq
    exact Nat.even_add_one.1 heven' heven

theorem Covers.unique (h : format.Covers m e q) (h' : format.Covers m' e' q) (hdigits : format.digits ≠ 0) :
    m = m' ∧ e = e' :=
  h.isNumber.unique h'.isNumber hdigits
    (le_antisymm (h'.magnitude_le h hdigits) (h.magnitude_le h' hdigits))

/-- A rational is rounded to one number. -/
theorem Rounds.unique {x y : Binary} (hx : format.Rounds negative q x) (hy : format.Rounds negative q y)
    (hdigits : format.digits ≠ 0) : x = y := by
  cases hx with
  | finite hlt hnearest =>
    cases hy with
    | finite _ hnearest' =>
      obtain ⟨rfl, rfl⟩ := hnearest.covers.unique hnearest'.covers hdigits
      rfl
    | infinite hle => exact absurd hlt (not_lt.2 hle)
  | infinite hle =>
    cases hy with
    | finite hlt _ => exact absurd hlt (not_lt.2 hle)
    | infinite => rfl

end Format

end Lookup.Number
