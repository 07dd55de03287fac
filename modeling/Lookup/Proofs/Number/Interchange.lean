import Lookup.Proofs.Number.Rounding

/-!
# Double precision numbers as bits

A sign, an exponent and a significand without its leading bit make up the sixty-four bits of a number, so that the
number is found again in them.

## Main definitions

* `Format.Has` — the numbers of a format, the infinities and no number

## Main results

* `Format.Rounds.has`, `Format.RoundsNumeral.has` — what is rounded to is a number of the format
* `Binary.ofBits64_bits64` — a number is found again in its bits
-/

namespace Lookup.Number

variable {format : Format} {negative : Bool} {x : Binary}

/-- The numbers of a format, the infinities and no number. -/
inductive Format.Has (format : Format) : Binary → Prop
  | nan : Has format .nan
  | infinite {negative : Bool} : Has format (.infinite negative)
  | finite {negative : Bool} {m : Nat} {e : Int} (isNumber : format.IsNumber m e) :
      Has format (.finite negative m e)

theorem Format.Rounds.has {q : ℚ} (h : format.Rounds negative q x) : format.Has x := by
  cases h with
  | finite _ isNearest => exact .finite isNearest.isNumber
  | infinite => exact .infinite

theorem Format.RoundsNumeral.has {numeral : Numeral} (h : format.RoundsNumeral numeral x) : format.Has x := by
  cases h with
  | nan => exact .nan
  | infinite => exact .infinite
  | decimal rounds => exact rounds.has

namespace Binary

theorem bits64_lt (h : binary64.Has x) : x.bits64 < 2 ^ 64 := by
  cases h with
  | nan => decide
  | @infinite negative => cases negative <;> decide
  | @finite negative m e isNumber =>
    obtain ⟨hlt, hlowest, hhighest, -⟩ := isNumber
    simp only [binary64] at hlt hlowest hhighest
    simp only [bits64, signBit, leadingBit, binary64]
    split <;> omega

/-- The sign, the exponent and the significand without its leading bit stand side by side. -/
theorem bits64_fields {m k : Nat} (negative : Bool) (hm : m < 2 * leadingBit) (hk : k ≤ 2045) :
    let bits := (if negative then signBit else 0) + k * leadingBit + m
    decide (bits / signBit % 2 = 1) = negative ∧
      bits / leadingBit % 0x800 = k + m / leadingBit ∧ bits % leadingBit = m % leadingBit := by
  simp only [signBit, leadingBit] at hm ⊢
  cases negative with
  | false =>
    simp only [Bool.false_eq_true, if_false]
    exact ⟨decide_eq_false (by omega), by omega, by omega⟩
  | true =>
    simp only [if_true]
    exact ⟨decide_eq_true (by omega), by omega, by omega⟩

/-- A number of double precision is found again in its bits. -/
theorem ofBits64_bits64 (h : binary64.Has x) : ofBits64 x.bits64 = x := by
  cases h with
  | nan => rfl
  | @infinite negative => cases negative <;> rfl
  | @finite negative m e isNumber =>
    obtain ⟨hlt, hlowest, hhighest, hleading⟩ := isNumber
    simp only [binary64] at hlt hlowest hhighest hleading
    obtain ⟨k, rfl⟩ : ∃ k : Nat, e = -1074 + k := ⟨(e + 1074).toNat, by omega⟩
    have hbits : (finite negative m (-1074 + k)).bits64 =
        (if negative then signBit else 0) + k * leadingBit + m := by
      simp [bits64, binary64]
    have hm : m < 2 * leadingBit := hlt
    obtain ⟨hnegative, horder, hfraction⟩ := bits64_fields negative hm (by omega : k ≤ 2045)
    have hmax : k + m / leadingBit ≠ 0x7FF := by
      have hone := Nat.div_lt_of_lt_mul (Nat.mul_comm 2 _ ▸ hm)
      omega
    rw [hbits]
    simp only [ofBits64, hnegative, horder, hfraction, if_neg hmax, binary64]
    by_cases hfull : leadingBit ≤ m
    · have hone : m / leadingBit = 1 := Nat.div_eq_of_lt_le (by omega) (by omega)
      have hmod : leadingBit + m % leadingBit = m := by
        rw [Nat.mod_eq_sub_mod hfull, Nat.mod_eq_of_lt (by omega), Nat.add_sub_cancel' hfull]
      rw [hone, hmod, if_neg (Nat.succ_ne_zero k)]
      congr 1
      omega
    · -- Without a leading bit the exponent is the least one.
      have hless := not_le.1 hfull
      have hk : k = 0 := by
        by_contra hne
        exact hfull (hleading (by omega))
      rw [Nat.div_eq_of_lt hless, Nat.mod_eq_of_lt hless, hk]
      rfl

end Binary

end Lookup.Number
