import Mathlib.Tactic.NormNum
import Lookup.Number.Decimal
import Lookup.Proofs.Number.Nearest
import Lookup.Proofs.Number.Shortest

/-!
# Rounding to the nearest number

A fraction is rounded at the exponent of its highest digits: the whole multiple of that power of two that is nearest
to it is the nearest number, and where rounding up makes one digit too many the power of two behind. A decimal
numeral is rounded as the fraction that it is. Far outside the range of double precision its order alone decides.

## Main definitions

* `IsMultiple` — the nearest multiple of a power of two, a tie going to the even one

## Main results

* `unscale_div` — a fraction divided by a power
* `isMultiple_nearest` — the nearest multiple of a power of two
* `zpow_binaryOrder_le_and_lt` — the order of a fraction
* `Format.rounds_round` — a fraction is rounded to the nearest number
* `Numeral.rounds_round` — and so is a decimal numeral
-/

namespace Lookup.Number

variable {format : Format} {negative : Bool} {num den base s : Nat} {e : Int} {q : ℚ}

/-! ### Fractions -/

section Fraction

variable (hbase : 0 < base)

include hbase

theorem unscale_snd_pos (hden : 0 < den) (e : Int) (num : Nat) : 0 < (unscale base e num den).2 := by
  unfold unscale
  split
  · exact Nat.mul_pos hden (Nat.pow_pos hbase)
  · exact hden

/-- The parts of a fraction after a division have the quotient of the division. -/
theorem unscale_div (e : Int) (num den : Nat) :
    ((unscale base e num den).1 : ℚ) / (unscale base e num den).2 = num / den / base ^ e := by
  have hne : (base : ℚ) ≠ 0 := Nat.cast_ne_zero.2 hbase.ne'
  unfold unscale
  split
  · next h =>
    obtain ⟨k, rfl⟩ := Int.eq_ofNat_of_zero_le h
    simp only [Int.toNat_natCast, Nat.pow_eq, zpow_natCast]
    push_cast
    rw [div_div]
  · next h =>
    obtain ⟨k, hk⟩ := Int.eq_ofNat_of_zero_le (by omega : 0 ≤ -e)
    obtain rfl : e = -(k : Int) := by omega
    simp only [neg_neg, Int.toNat_natCast, Nat.pow_eq, zpow_neg, zpow_natCast]
    push_cast
    rw [div_inv_eq_mul, mul_div_right_comm]

theorem unscale_le_iff (hden : 0 < den) (e : Int) (num : Nat) :
    (unscale base e num den).2 ≤ (unscale base e num den).1 ↔ (base : ℚ) ^ e ≤ num / den := by
  have hpos : (0 : ℚ) < (unscale base e num den).2 := Nat.cast_pos.2 (unscale_snd_pos hbase hden e num)
  have hpow : (0 : ℚ) < (base : ℚ) ^ e := zpow_pos (Nat.cast_pos.2 hbase) e
  rw [← Nat.cast_le (α := ℚ), ← one_le_div hpos, unscale_div hbase, one_le_div hpow]

end Fraction

/-! ### Whole multiples -/

/-- The whole multiple of `2 ^ e` that is nearest to a rational, a tie going to the even one. -/
structure IsMultiple (s : Nat) (e : Int) (q : ℚ) : Prop where
  above : 2 * q < 2 * magnitude s e + 2 ^ e ∨ 2 * q = 2 * magnitude s e + 2 ^ e ∧ Even s
  below : 2 * magnitude s e < 2 * q + 2 ^ e ∨ 2 * magnitude s e = 2 * q + 2 ^ e ∧ Even s

namespace IsMultiple

variable (h : IsMultiple s e q) {y : ℚ}

include h

/-- What is at least one multiple behind is on the other side of the point halfway to it, or on that point. -/
theorem above_of_le (hnext : magnitude s e + 2 ^ e ≤ y) :
    2 * q < magnitude s e + y ∨ 2 * q = magnitude s e + y ∧ Even s := by
  rcases h.above with hnear | ⟨hnear, heven⟩
  · exact .inl (by linarith)
  · rcases hnext.lt_or_eq with hfar | heq
    · exact .inl (by linarith)
    · exact .inr ⟨by linarith, heven⟩

theorem below_of_le (hnext : y + 2 ^ e ≤ magnitude s e) :
    y + magnitude s e < 2 * q ∨ y + magnitude s e = 2 * q ∧ Even s := by
  rcases h.below with hnear | ⟨hnear, heven⟩
  · exact .inl (by linarith)
  · rcases hnext.lt_or_eq with hfar | heq
    · exact .inl (by linarith)
    · exact .inr ⟨by linarith, heven⟩

/-- The nearest multiple is not beyond a multiple that is beyond the rational. -/
theorem le_of_lt {k : Nat} (hlt : q < magnitude k e) : s ≤ k := by
  by_contra hover
  have hnext := magnitude_add_le (e := e) (not_le.1 hover)
  have hpos := two_zpow_pos e
  rcases h.below with hnear | ⟨hnear, -⟩ <;> linarith

theorem le_of_le {k : Nat} (hle : magnitude k e ≤ q) : k ≤ s := by
  by_contra hshort
  have hnext := magnitude_add_le (e := e) (not_le.1 hshort)
  have hpos := two_zpow_pos e
  rcases h.above with hnear | ⟨hnear, -⟩ <;> linarith

end IsMultiple

/-- The nearest whole number in whole numbers alone. -/
theorem nearest_spec (num : Nat) {den : Nat} (hden : 0 < den) :
    (2 * num < (2 * nearest num den + 1) * den ∨
      2 * num = (2 * nearest num den + 1) * den ∧ Even (nearest num den)) ∧
    (2 * nearest num den * den < 2 * num + den ∨
      2 * nearest num den * den = 2 * num + den ∧ Even (nearest num den)) := by
  have hdiv := Nat.div_add_mod num den
  have hmod := Nat.mod_lt num hden
  rw [nearest]
  generalize num / den = quotient at *
  generalize num % den = rest at *
  subst hdiv
  split_ifs with hless hgreater heven
  · constructor <;> left <;> nlinarith
  · constructor <;> left <;> nlinarith
  · have htie : 2 * rest = den := by omega
    exact ⟨.inr ⟨by rw [← htie]; ring, Nat.even_iff.2 heven⟩, .inl (by nlinarith)⟩
  · have htie : 2 * rest = den := by omega
    exact ⟨.inl (by nlinarith), .inr ⟨by rw [← htie]; ring, Nat.even_iff.2 (by omega)⟩⟩

theorem div_mul_zpow_compare (n k : Nat) (hden : 0 < den) (e : Int) :
    ((n : ℚ) / den * 2 ^ e < magnitude k e ↔ n < k * den) ∧ (magnitude k e < n / den * 2 ^ e ↔ k * den < n) ∧
      ((n : ℚ) / den * 2 ^ e = magnitude k e ↔ n = k * den) := by
  have hpos : (0 : ℚ) < den := Nat.cast_pos.2 hden
  unfold magnitude
  rw [mul_lt_mul_iff_left₀ (two_zpow_pos e), mul_lt_mul_iff_left₀ (two_zpow_pos e),
    mul_left_inj' (two_zpow_pos e).ne', div_lt_iff₀ hpos, lt_div_iff₀ hpos, div_eq_iff hpos.ne']
  exact ⟨by norm_cast, by norm_cast, by norm_cast⟩

theorem isMultiple_nearest (hden : 0 < den) (e : Int) (num : Nat) :
    IsMultiple (nearest (unscale 2 e num den).1 (unscale 2 e num den).2) e (num / den) := by
  have hpos := unscale_snd_pos two_pos hden e num
  have hquotient := unscale_div two_pos e num den
  generalize (unscale 2 e num den).1 = n at *
  generalize (unscale 2 e num den).2 = d at *
  have hd : (d : ℚ) ≠ 0 := Nat.cast_ne_zero.2 hpos.ne'
  rw [Nat.cast_ofNat, eq_div_iff (two_zpow_pos e).ne'] at hquotient
  have htwice : 2 * ((num : ℚ) / den) = (2 * n : Nat) / d * 2 ^ e := by
    rw [← hquotient]
    push_cast
    ring
  have hsucc : 2 * ((num : ℚ) / den) + 2 ^ e = (2 * n + d : Nat) / d * 2 ^ e := by
    rw [htwice]
    push_cast
    rw [add_div, div_self hd]
    ring
  obtain ⟨habove, hbelow⟩ := nearest_spec n hpos
  generalize nearest n d = s at *
  obtain ⟨hlt, -, heq⟩ := div_mul_zpow_compare (2 * n) (2 * s + 1) hpos e
  obtain ⟨-, hgt', heq'⟩ := div_mul_zpow_compare (2 * n + d) (2 * s) hpos e
  constructor
  · rwa [two_mul_magnitude, ← magnitude_succ, htwice, hlt, heq]
  · rwa [two_mul_magnitude, hsucc, hgt', eq_comm, heq', eq_comm]

/-! ### The order of a fraction -/

theorem zpow_log2_le {n : Nat} (h : n ≠ 0) : (2 : ℚ) ^ (n.log2 : Int) ≤ n := by
  rw [zpow_natCast]
  exact_mod_cast Nat.log2_self_le h

theorem lt_zpow_log2 (n : Nat) : (n : ℚ) < 2 ^ ((n.log2 : Int) + 1) := by
  exact_mod_cast Nat.lt_log2_self (n := n)

section Order

variable (hnum : num ≠ 0) (hden : den ≠ 0)

include hnum hden

/-- The order is guessed from the binary digits of both parts, and the guess is at most one too high. -/
theorem zpow_binaryOrder_le_and_lt :
    (2 : ℚ) ^ binaryOrder num den ≤ num / den ∧ (num / den : ℚ) < 2 ^ (binaryOrder num den + 1) := by
  set guess : Int := (num.log2 : Int) - den.log2 with hguess
  have horder : binaryOrder num den =
      if (unscale 2 guess num den).2 ≤ (unscale 2 guess num den).1 then guess else guess - 1 := rfl
  have hpos : (0 : ℚ) < den := Nat.cast_pos.2 (Nat.pos_of_ne_zero hden)
  have hlow : (2 : ℚ) ^ (guess - 1) ≤ num / den := by
    rw [le_div_iff₀ hpos]
    calc (2 : ℚ) ^ (guess - 1) * den ≤ 2 ^ (guess - 1) * 2 ^ ((den.log2 : Int) + 1) :=
          mul_le_mul_of_nonneg_left (lt_zpow_log2 den).le (two_zpow_pos _).le
      _ = 2 ^ (num.log2 : Int) := by rw [← zpow_add₀ two_ne_zero]; congr 1; omega
      _ ≤ num := zpow_log2_le hnum
  have hhigh : (num / den : ℚ) < 2 ^ (guess + 1) := by
    rw [div_lt_iff₀ hpos]
    calc (num : ℚ) < 2 ^ ((num.log2 : Int) + 1) := lt_zpow_log2 num
      _ = 2 ^ (guess + 1) * 2 ^ (den.log2 : Int) := by rw [← zpow_add₀ two_ne_zero]; congr 1; omega
      _ ≤ 2 ^ (guess + 1) * den := mul_le_mul_of_nonneg_left (zpow_log2_le hden) (two_zpow_pos _).le
  have hreach := unscale_le_iff two_pos (Nat.pos_of_ne_zero hden) guess num
  rw [Nat.cast_ofNat] at hreach
  rw [horder]
  split
  · next hreached => exact ⟨hreach.1 hreached, hhigh⟩
  · next hmissed =>
    rw [sub_add_cancel]
    exact ⟨hlow, not_le.1 fun hle => hmissed (hreach.2 hle)⟩

namespace Format

/-- A fraction has no more digits than a significand where it is cut off. -/
theorem lt_magnitude_exponentOf (format : Format) :
    (num / den : ℚ) < magnitude (2 ^ format.digits) (format.exponentOf num den) := by
  obtain ⟨-, hlt⟩ := zpow_binaryOrder_le_and_lt hnum hden
  refine hlt.trans_le ?_
  rw [magnitude, Nat.cast_pow, Nat.cast_ofNat, ← zpow_natCast, ← zpow_add₀ two_ne_zero]
  refine zpow_le_zpow_right₀ one_le_two ?_
  rw [exponentOf]
  omega

/-- Above the least exponent it has as many digits. -/
theorem magnitude_exponentOf_le (hdigits : format.digits ≠ 0) (h : format.lowest < format.exponentOf num den) :
    magnitude (2 ^ (format.digits - 1)) (format.exponentOf num den) ≤ (num / den : ℚ) := by
  obtain ⟨hle, -⟩ := zpow_binaryOrder_le_and_lt hnum hden
  refine le_trans ?_ hle
  rw [magnitude, Nat.cast_pow, Nat.cast_ofNat, ← zpow_natCast, ← zpow_add₀ two_ne_zero]
  refine zpow_le_zpow_right₀ one_le_two ?_
  rw [exponentOf] at h ⊢
  omega

end Format

end Order

/-! ### Rounding -/

namespace Format

theorem lowest_le_exponentOf (format : Format) (num den : Nat) : format.lowest ≤ format.exponentOf num den :=
  le_max_left _ _

theorem two_mul_bound (format : Format) : 2 * format.bound =
    magnitude (2 ^ format.digits - 1) format.highest + magnitude (2 ^ format.digits) format.highest := by
  rw [bound, two_mul_halfway, Nat.sub_add_cancel Nat.one_le_two_pow]

/-- A lesser number is at least one multiple below, or the rational is above the point halfway to it. -/
theorem IsNumber.add_le_or_add_lt (hnumber : format.IsNumber s e) (hdigits : format.digits ≠ 0)
    (hleading : format.lowest < e → magnitude (2 ^ (format.digits - 1)) e ≤ q) {m' : Nat} {e' : Int}
    (h' : format.IsNumber m' e') (hless : magnitude m' e' < magnitude s e) :
    magnitude m' e' + 2 ^ e ≤ magnitude s e ∨ magnitude m' e' + magnitude s e < 2 * q := by
  by_cases hexponent : e ≤ e'
  · have hnext := h'.succ_le hnumber hdigits hless
    rw [magnitude_succ] at hnext
    have hpow : (2 : ℚ) ^ e ≤ 2 ^ e' := zpow_le_zpow_right₀ one_le_two hexponent
    exact .inl (by linarith)
  · have hlower := not_le.1 hexponent
    have hbelow := h'.lt_of_exponent_lt hdigits hlower
    have hle := hleading (h'.lowest_le.trans_lt hlower)
    by_cases hover : magnitude s e ≤ q
    · exact .inr (by linarith)
    · have hnext := magnitude_add_le (e := e) (magnitude_lt_iff.1 (hle.trans_lt (not_le.1 hover)))
      exact .inl (by linarith)

section Multiple

variable (hmultiple : IsMultiple s e q)

include hmultiple

/-- The nearest multiple is the nearest number, where it has no more digits than a significand. -/
theorem covers_of_isMultiple (hdigits : format.digits ≠ 0) (hlt : s < 2 ^ format.digits) (hlowest : format.lowest ≤ e)
    (hhighest : e ≤ format.highest) (hleading : format.lowest < e → magnitude (2 ^ (format.digits - 1)) e ≤ q) :
    format.Covers s e q := by
  have hnumber : format.IsNumber s e :=
    ⟨hlt, hlowest, hhighest, fun hless => hmultiple.le_of_le (hleading hless)⟩
  refine ⟨hnumber, fun {m' e'} h' hless => ?_, fun {m' e'} h' hless => ?_⟩
  · have hnext := hnumber.succ_le h' hdigits hless
    rw [magnitude_succ] at hnext
    exact hmultiple.above_of_le hnext
  · rcases hnumber.add_le_or_add_lt hdigits hleading h' hless with hfar | hfar
    · exact hmultiple.below_of_le hfar
    · exact .inl hfar

/-- Where the nearest multiple has one digit too many it is a power of two, which has a higher exponent. -/
theorem covers_of_isMultiple_full (hdigits : 1 < format.digits) (hs : s = 2 ^ format.digits)
    (hlowest : format.lowest ≤ e) (hhighest : e + 1 ≤ format.highest) (hlt : q < magnitude s e) :
    format.Covers (2 ^ (format.digits - 1)) (e + 1) q := by
  have heven : Even (2 ^ (format.digits - 1)) := even_two.pow_of_ne_zero (by omega)
  have hnumber : format.IsNumber (2 ^ (format.digits - 1)) (e + 1) :=
    ⟨Nat.pow_lt_pow_right one_lt_two (by omega), by omega, hhighest, fun _ => le_rfl⟩
  have hvalue : magnitude (2 ^ (format.digits - 1)) (e + 1) = magnitude s e := by
    rw [hs, magnitude_two_pow_digits (Nat.ne_zero_of_lt hdigits)]
  refine ⟨hnumber, fun {m' e'} h' hless => .inl ?_, fun {m' e'} h' hless => ?_⟩
  · rw [hvalue] at hless ⊢
    linarith
  · -- The power of two ends the multiples of the lower exponent, so that the number before it is one of them away.
    have hfar : magnitude m' e' + 2 ^ e ≤ magnitude s e := by
      by_cases hexponent : e + 1 ≤ e'
      · have hnext := h'.succ_le hnumber (Nat.ne_zero_of_lt hdigits) hless
        rw [magnitude_succ, hvalue] at hnext
        have hpow : (2 : ℚ) ^ e ≤ 2 ^ e' := zpow_le_zpow_right₀ one_le_two (by omega)
        linarith
      · have hle : magnitude m' e' ≤ magnitude (2 ^ format.digits - 1) e :=
          (magnitude_mono m' (by omega)).trans (magnitude_le_iff.2 (Nat.le_sub_one_of_lt h'.lt))
        rw [hs, ← Nat.sub_add_cancel (Nat.one_le_two_pow (n := format.digits)), magnitude_succ]
        linarith
    rw [hvalue]
    exact (hmultiple.below_of_le hfar).imp_right fun htie => ⟨htie.1, heven⟩

/-- Up to the greatest exponent a multiple with no digit too many is nearest to what lies before the bound. The
greatest significand is odd, so that halfway behind it the next multiple is taken. -/
theorem lt_bound_of_isMultiple (hdigits : format.digits ≠ 0) (hlt : s < 2 ^ format.digits)
    (hhighest : e ≤ format.highest) : q < format.bound := by
  have hmono : halfway (2 ^ format.digits - 1) e ≤ format.bound := magnitude_mono _ (Int.sub_le_sub_right hhighest 1)
  have htwice := two_mul_halfway (2 ^ format.digits - 1) e
  have hle : magnitude s e ≤ magnitude (2 ^ format.digits - 1) e := magnitude_le_iff.2 (Nat.le_sub_one_of_lt hlt)
  rw [magnitude_succ] at htwice
  rcases hmultiple.above with hnear | ⟨hnear, heven⟩
  · linarith
  · have hne : s ≠ 2 ^ format.digits - 1 := fun heq => not_even_greatest hdigits (heq ▸ heven)
    have hless : magnitude s e < magnitude (2 ^ format.digits - 1) e :=
      magnitude_lt_iff.2 (lt_of_le_of_ne (Nat.le_sub_one_of_lt hlt) hne)
    linarith

/-- A multiple with one digit too many reaches the bound at the greatest exponent. -/
theorem bound_le_of_isMultiple_full (hs : s = 2 ^ format.digits) (hhighest : format.highest ≤ e) :
    format.bound ≤ q := by
  subst hs
  have hmono : format.bound ≤ halfway (2 ^ format.digits - 1) e := magnitude_mono _ (Int.sub_le_sub_right hhighest 1)
  have htwice := two_mul_halfway (2 ^ format.digits - 1) e
  have hstep := magnitude_succ (2 ^ format.digits - 1) e
  rw [Nat.sub_add_cancel Nat.one_le_two_pow] at htwice hstep
  rcases hmultiple.below with hnear | ⟨hnear, -⟩ <;> linarith

end Multiple

theorem lt_bound_of_lt_full (hlt : q < magnitude (2 ^ format.digits) e) (hhighest : e < format.highest) :
    q < format.bound := by
  have hmono := magnitude_mono (2 ^ format.digits) (Int.add_one_le_of_lt hhighest)
  have hnonneg := magnitude_nonneg (2 ^ format.digits - 1) format.highest
  rw [magnitude_add_one, ← two_mul_magnitude] at hmono
  linarith [two_mul_bound format]

theorem bound_le_of_highest_lt (hdigits : format.digits ≠ 0) (hhighest : format.highest < e)
    (hle : magnitude (2 ^ (format.digits - 1)) e ≤ q) : format.bound ≤ q := by
  have hless := magnitude_lt_succ (2 ^ format.digits - 1) format.highest
  have hmono := magnitude_mono (2 ^ (format.digits - 1)) (Int.add_one_le_of_lt hhighest)
  rw [Nat.sub_add_cancel Nat.one_le_two_pow] at hless
  rw [← magnitude_two_pow_digits hdigits] at hmono
  linarith [two_mul_bound format]

/-- Zero is nearest to what is less than half of the least number. -/
theorem covers_zero (hrange : format.lowest ≤ format.highest) (hlt : 2 * q < 2 ^ format.lowest) :
    format.Covers 0 format.lowest q := by
  refine ⟨.zero hrange, fun {m' e'} h' hless => .inl ?_, fun {m' e'} h' hless => ?_⟩
  · rw [magnitude_zero] at hless ⊢
    have hpos : 1 ≤ m' := by
      by_contra hnot
      rw [Nat.lt_one_iff.1 (not_le.1 hnot), magnitude_zero] at hless
      exact lt_irrefl _ hless
    have hleast := (magnitude_le_iff.2 hpos).trans (magnitude_mono m' h'.lowest_le)
    rw [magnitude_one] at hleast
    linarith
  · rw [magnitude_zero] at hless
    exact absurd hless (not_lt.2 (magnitude_nonneg m' e'))

theorem rounds_zero (hrange : format.lowest ≤ format.highest) (hq : 0 ≤ q) (hlt : 2 * q < 2 ^ format.lowest)
    (negative : Bool) : format.Rounds negative q (.finite negative 0 format.lowest) := by
  refine .finite ?_ ((covers_zero hrange hlt).isNearest hq negative)
  have hmono := (magnitude_mono 1 hrange).trans (magnitude_le_iff.2 (Nat.one_le_two_pow (n := format.digits)))
  have hnonneg := magnitude_nonneg (2 ^ format.digits - 1) format.highest
  rw [magnitude_one] at hmono
  linarith [two_mul_bound format]

/-- A fraction is rounded to the nearest number. -/
theorem rounds_round (hdigits : 1 < format.digits) (hrange : format.lowest ≤ format.highest) (hden : den ≠ 0)
    (negative : Bool) (num : Nat) : format.Rounds negative (num / den) (format.round negative num den) := by
  by_cases hnum : num = 0
  · simp only [hnum, Nat.cast_zero, zero_div, Format.round, if_true]
    exact rounds_zero hrange le_rfl (by rw [mul_zero]; exact two_zpow_pos _) negative
  have hq : (0 : ℚ) ≤ num / den := by positivity
  have hdigits' := Nat.ne_zero_of_lt hdigits
  have hmultiple := isMultiple_nearest (Nat.pos_of_ne_zero hden) (format.exponentOf num den) num
  have hlowest := format.lowest_le_exponentOf num den
  have hlt := format.lt_magnitude_exponentOf hnum hden
  have hleading := magnitude_exponentOf_le hnum hden hdigits'
  rw [Format.round, if_neg hnum]
  simp only [Nat.pow_eq]
  generalize format.exponentOf num den = e at *
  generalize nearest (unscale 2 e num den).1 (unscale 2 e num den).2 = s at *
  generalize (num / den : ℚ) = q at *
  by_cases hfull : s = 2 ^ format.digits
  · simp only [if_pos hfull]
    rw [← hfull] at hlt
    split
    · next hover => exact .infinite (bound_le_of_isMultiple_full hmultiple hfull (by omega))
    · next hwithin =>
      have hcovers := covers_of_isMultiple_full hmultiple hdigits hfull hlowest (not_lt.1 hwithin) hlt
      rw [hfull] at hlt
      exact .finite (lt_bound_of_lt_full hlt (by omega)) (hcovers.isNearest hq negative)
  · simp only [if_neg hfull]
    have hs : s < 2 ^ format.digits := lt_of_le_of_ne (hmultiple.le_of_lt hlt) hfull
    split
    · next hover => exact .infinite (bound_le_of_highest_lt hdigits' hover (hleading (by omega)))
    · next hwithin =>
      have hcovers := covers_of_isMultiple hmultiple hdigits' hs hlowest (not_lt.1 hwithin) hleading
      exact .finite (lt_bound_of_isMultiple hmultiple hdigits' hs (not_lt.1 hwithin)) (hcovers.isNearest hq negative)

/-- What a numeral is rounded to. -/
inductive RoundsNumeral (format : Format) : Numeral → Binary → Prop
  | nan : RoundsNumeral format .nan .nan
  | infinite {negative : Bool} : RoundsNumeral format (.infinite negative) (.infinite negative)
  | decimal {negative : Bool} {coefficient : Nat} {exponent : Int} {x : Binary}
      (rounds : format.Rounds negative (coefficient * 10 ^ exponent) x) :
      RoundsNumeral format (.decimal negative coefficient exponent) x

theorem RoundsNumeral.unique {numeral : Numeral} {x y : Binary} (hx : format.RoundsNumeral numeral x)
    (hy : format.RoundsNumeral numeral y) (hdigits : format.digits ≠ 0) : x = y := by
  cases hx with
  | nan =>
    cases hy
    rfl
  | infinite =>
    cases hy
    rfl
  | decimal rounds =>
    obtain _ | _ | ⟨rounds'⟩ := hy
    exact rounds.unique rounds' hdigits

end Format

/-! ### Numerals -/

section Numeral

variable {coefficient : Nat} {exponent : Int}

/-- The order of a numeral is the power of ten behind its highest digit. -/
theorem lt_zpow_order (coefficient : Nat) (exponent : Int) :
    (coefficient * 10 ^ exponent : ℚ) < 10 ^ ((Nat.toDigits 10 coefficient).length + exponent : Int) := by
  rw [zpow_add₀ (by norm_num), zpow_natCast]
  have hlt : (coefficient : ℚ) < 10 ^ (Nat.toDigits 10 coefficient).length := by
    exact_mod_cast lt_pow_length_toDigits coefficient
  exact mul_lt_mul_of_pos_right hlt (zpow_pos (by norm_num) exponent)

theorem zpow_order_le (h : coefficient ≠ 0) :
    (10 : ℚ) ^ ((Nat.toDigits 10 coefficient).length + exponent - 1 : Int) ≤ coefficient * 10 ^ exponent := by
  have hpos : 0 < (Nat.toDigits 10 coefficient).length := Nat.length_toDigits_pos
  have horder : ((Nat.toDigits 10 coefficient).length + exponent - 1 : Int) =
      ((Nat.toDigits 10 coefficient).length - 1 : Nat) + exponent := by omega
  rw [horder, zpow_add₀ (by norm_num), zpow_natCast]
  have hle : (10 : ℚ) ^ ((Nat.toDigits 10 coefficient).length - 1) ≤ coefficient := by
    exact_mod_cast pow_length_toDigits_le h
  exact mul_le_mul_of_nonneg_right hle (zpow_pos (by norm_num) exponent).le

/-- A power of ten below all numbers of double precision but zero. -/
theorem two_mul_zpow_lt : 2 * (10 : ℚ) ^ (-401 : Int) < 2 ^ binary64.lowest := by
  have hpow : 2 * 2 ^ 1074 < 10 ^ 401 := by decide +kernel
  have hlowest : binary64.lowest = -1074 := rfl
  rw [hlowest, zpow_neg, zpow_neg, ← div_eq_mul_inv, div_lt_iff₀ (by positivity), inv_mul_eq_div,
    lt_div_iff₀ (by positivity)]
  exact_mod_cast hpow

/-- A power of ten above all numbers of double precision. -/
theorem bound_binary64_le : binary64.bound ≤ (10 : ℚ) ^ (400 : Int) := by
  have hpow : (2 ^ 54 - 1) * 2 ^ 970 ≤ 10 ^ 400 := by decide +kernel
  have hbound : binary64.bound = ((2 ^ 54 - 1 : Nat) : ℚ) * 2 ^ (970 : Int) := rfl
  rw [hbound]
  exact_mod_cast hpow

theorem rounds_binary64 (negative : Bool) (num : Nat) (hden : den ≠ 0) :
    binary64.Rounds negative (num / den) (binary64.round negative num den) :=
  Format.rounds_round (by decide) (by decide) hden negative num

/-- A numeral is rounded to the nearest number of double precision. -/
theorem Numeral.rounds_round (numeral : Numeral) : binary64.RoundsNumeral numeral numeral.round := by
  cases numeral with
  | nan => exact .nan
  | infinite negative => exact .infinite
  | decimal negative coefficient exponent =>
    refine .decimal ?_
    have hnonneg : (0 : ℚ) ≤ coefficient * 10 ^ exponent := by positivity
    have hlt := lt_zpow_order coefficient exponent
    rw [Numeral.round]
    split
    · -- Too small for any number but zero.
      next htiny =>
      refine Format.rounds_zero (by decide) hnonneg ?_ negative
      rcases htiny with rfl | horder
      · simpa using two_zpow_pos _
      · have hten : (10 : ℚ) ^ ((Nat.toDigits 10 coefficient).length + exponent : Int) ≤ 10 ^ (-401 : Int) :=
          zpow_le_zpow_right₀ (by norm_num) (by rw [orderLimit] at horder; omega)
        linarith [two_mul_zpow_lt]
    · next hcoefficient =>
      split
      · -- Too great for any number.
        next horder =>
        refine .infinite (le_trans ?_ (zpow_order_le (not_or.1 hcoefficient).1))
        have hten : (10 : ℚ) ^ (400 : Int) ≤ 10 ^ ((Nat.toDigits 10 coefficient).length + exponent - 1 : Int) :=
          zpow_le_zpow_right₀ (by norm_num) (by rw [orderLimit] at horder; omega)
        exact bound_binary64_le.trans hten
      · have hvalue := unscale_div (by decide : 0 < 10) (-exponent) coefficient 1
        have hden := unscale_snd_pos (by decide : 0 < 10) Nat.one_pos (-exponent) coefficient
        rw [Nat.cast_one, div_one, zpow_neg, div_inv_eq_mul, Nat.cast_ofNat] at hvalue
        rw [← hvalue]
        exact rounds_binary64 negative _ hden.ne'

end Numeral

end Lookup.Number
