import Mathlib.Data.Nat.Digits.Defs
import Lookup.Number.Decimal
import Lookup.Proofs.Text.Fields

/-!
# Digits and signs in front of them

The value of digits is the number that the standard library reads from them. It is less than the power of ten
with as many places, and leaving out the last digits divides it by the power with their places.

## Main definitions

* `IsSign` — a sign in front of a number, or none

## Main results

* `isDigit_eq`, `digitsValue_eq` — digits and their value
* `ofDigitChars_lt`, `ofDigitChars_take` — its size, and what is left of it without the last digits
* `eq_of_ofDigitChars_eq` — it tells apart as many digits
* `length_padded`, `ofDigitChars_padded` — a number that is filled up with zeros
* `exists_takeSign`, `takeSign_append` — a sign is taken off where there is one
-/

namespace Lookup.Number

variable {digits sign rest : List Char} {negative : Bool}

theorem isDigit_eq : isDigit = Char.isDigit := by
  funext c
  simp [isDigit, Char.isDigit, Char.le_def]

theorem toNat_zero : '0'.toNat = 48 := rfl

theorem digitsValue_eq (n : Nat) (digits : List Char) : digitsValue n digits = Nat.ofDigitChars 10 digits n := by
  induction digits generalizing n with
  | nil => rfl
  | cons c digits ih =>
    unfold digitsValue
    rw [ih, Nat.ofDigitChars_cons, Nat.mul_comm, toNat_zero]

theorem toNat_sub_lt {c : Char} (h : c.isDigit = true) : c.toNat - '0'.toNat < 10 := by
  have hle : c.toNat ≤ 57 := by
    simp only [Char.isDigit, Bool.and_eq_true, decide_eq_true_eq] at h
    exact UInt32.le_iff_toNat_le.1 h.2
  rw [toNat_zero]
  omega

/-- The first digit counts all places behind it. -/
theorem ofDigitChars_cons_zero (c : Char) (digits : List Char) :
    Nat.ofDigitChars 10 (c :: digits) 0 =
      10 ^ digits.length * (c.toNat - '0'.toNat) + Nat.ofDigitChars 10 digits 0 := by
  rw [Nat.ofDigitChars_cons, Nat.ofDigitChars_eq_ofDigitChars_zero, Nat.mul_zero, Nat.zero_add]

/-- Each digit is a place. -/
theorem ofDigitChars_lt (h : ∀ c ∈ digits, c.isDigit = true) :
    Nat.ofDigitChars 10 digits 0 < 10 ^ digits.length := by
  induction digits with
  | nil => exact Nat.one_pos
  | cons c digits ih =>
    obtain ⟨hc, hdigits⟩ := List.forall_mem_cons.1 h
    have hdigit := toNat_sub_lt hc
    have hrest := ih hdigits
    rw [ofDigitChars_cons_zero]
    calc 10 ^ digits.length * (c.toNat - '0'.toNat) + Nat.ofDigitChars 10 digits 0
        < 10 ^ digits.length * (c.toNat - '0'.toNat) + 10 ^ digits.length := Nat.add_lt_add_left hrest _
      _ = 10 ^ digits.length * (c.toNat - '0'.toNat + 1) := (Nat.mul_succ _ _).symm
      _ ≤ 10 ^ digits.length * 10 := Nat.mul_le_mul_left _ hdigit
      _ = 10 ^ (c :: digits).length := (Nat.pow_succ ..).symm

/-- Without the last digits the value is divided by their places. -/
theorem ofDigitChars_take (h : ∀ c ∈ digits, c.isDigit = true) (n : Nat) :
    Nat.ofDigitChars 10 (digits.take n) 0 = Nat.ofDigitChars 10 digits 0 / 10 ^ (digits.length - n) := by
  have hlast : Nat.ofDigitChars 10 (digits.drop n) 0 < 10 ^ (digits.length - n) := by
    rw [← List.length_drop]
    exact ofDigitChars_lt fun c hc => h c (List.mem_of_mem_drop hc)
  have hpos : 0 < 10 ^ (digits.length - n) := Nat.pow_pos (by decide)
  have hvalue : Nat.ofDigitChars 10 digits 0 =
      10 ^ (digits.length - n) * Nat.ofDigitChars 10 (digits.take n) 0 +
        Nat.ofDigitChars 10 (digits.drop n) 0 := by
    rw [← List.length_drop, ← Nat.ofDigitChars_eq_ofDigitChars_zero, ← Nat.ofDigitChars_append,
      List.take_append_drop]
  rw [hvalue, Nat.mul_add_div hpos, Nat.div_eq_of_lt hlast, Nat.add_zero]

theorem eq_of_toNat_sub_eq {c d : Char} (hc : c.isDigit = true) (hd : d.isDigit = true)
    (h : c.toNat - '0'.toNat = d.toNat - '0'.toNat) : c = d := by
  simp only [Char.isDigit, Bool.and_eq_true, decide_eq_true_eq, ge_iff_le, UInt32.le_iff_toNat_le] at hc hd
  have hlow : 48 ≤ c.toNat := hc.1
  have hlow' : 48 ≤ d.toNat := hd.1
  rw [toNat_zero] at h
  exact Char.toNat_inj.1 (by omega)

/-- As many digits of the same value are the same digits. -/
theorem eq_of_ofDigitChars_eq {digits' : List Char} (h : ∀ c ∈ digits, c.isDigit = true)
    (h' : ∀ c ∈ digits', c.isDigit = true) (hlength : digits.length = digits'.length)
    (hvalue : Nat.ofDigitChars 10 digits 0 = Nat.ofDigitChars 10 digits' 0) : digits = digits' := by
  induction digits generalizing digits' with
  | nil => exact (List.length_eq_zero_iff.1 hlength.symm).symm
  | cons c digits ih =>
    cases digits' with
    | nil => cases hlength
    | cons c' digits' =>
      obtain ⟨hc, hdigits⟩ := List.forall_mem_cons.1 h
      obtain ⟨hc', hdigits'⟩ := List.forall_mem_cons.1 h'
      have hsame : digits.length = digits'.length := Nat.succ.inj hlength
      have hlt := ofDigitChars_lt hdigits
      have hlt' := ofDigitChars_lt hdigits'
      rw [ofDigitChars_cons_zero, ofDigitChars_cons_zero, ← hsame] at hvalue
      rw [← hsame] at hlt'
      -- The quotient by the places behind it is the first digit, and the rest is the remainder.
      have hfirst := congrArg (· / 10 ^ digits.length) hvalue
      have hrest := congrArg (· % 10 ^ digits.length) hvalue
      simp only [Nat.mul_add_div (Nat.pow_pos (by decide : 0 < 10)), Nat.div_eq_of_lt hlt, Nat.div_eq_of_lt hlt',
        Nat.add_zero] at hfirst
      simp only [Nat.mul_add_mod, Nat.mod_eq_of_lt hlt, Nat.mod_eq_of_lt hlt'] at hrest
      rw [eq_of_toNat_sub_eq hc hc' hfirst, ih hdigits hdigits' hsame hrest]

theorem ofDigitChars_replicate_zero (count n : Nat) :
    Nat.ofDigitChars 10 (List.replicate count '0') n = 10 ^ count * n := by
  induction count generalizing n with
  | zero => simp [Nat.ofDigitChars]
  | succ count ih =>
    rw [List.replicate_succ, Nat.ofDigitChars_cons, ih, Nat.sub_self, Nat.add_zero, Nat.pow_succ, Nat.mul_assoc]

/-! ### Numbers filled up with zeros -/

theorem isDigit_of_mem_padded (width n : Nat) : ∀ c ∈ (Text.padded width n).toList, c.isDigit = true := by
  rw [Text.padded, String.toList_ofList]
  refine List.forall_mem_append.2 ⟨fun c hc => ?_, fun c => Nat.isDigit_of_mem_toDigits (by decide) le_rfl⟩
  rw [List.eq_of_mem_replicate hc]
  rfl

theorem length_padded {width n : Nat} (hwidth : 0 < width) (h : n < 10 ^ width) :
    (Text.padded width n).toList.length = width := by
  have hlength : (Nat.toDigits 10 n).length ≤ width := (Nat.length_toDigits_le_iff (by decide) hwidth).2 h
  rw [Text.padded, String.toList_ofList, List.length_append, List.length_replicate]
  exact Nat.sub_add_cancel hlength

theorem ofDigitChars_padded (width n : Nat) : Nat.ofDigitChars 10 (Text.padded width n).toList 0 = n := by
  rw [Text.padded, String.toList_ofList, Nat.ofDigitChars_append, ofDigitChars_replicate_zero, Nat.mul_zero,
    Nat.ofDigitChars_ten_toDigits]

/-! ### Signs -/

/-- What may stand in front of a number, and whether it is a minus. -/
inductive IsSign : Bool → List Char → Prop
  | none : IsSign false []
  | plus : IsSign false ['+']
  | minus : IsSign true ['-']

theorem exists_takeSign (text : List Char) :
    ∃ sign, IsSign (takeSign text).1 sign ∧ text = sign ++ (takeSign text).2 := by
  unfold takeSign
  split
  · exact ⟨['-'], .minus, rfl⟩
  · exact ⟨['+'], .plus, rfl⟩
  · exact ⟨[], .none, rfl⟩

/-- A sign is taken off, and nothing is where the text goes on with no other sign. -/
theorem takeSign_append (h : IsSign negative sign) (hrest : ∀ c ∈ rest.head?, c ≠ '-' ∧ c ≠ '+') :
    takeSign (sign ++ rest) = (negative, rest) := by
  cases h with
  | plus => rfl
  | minus => rfl
  | none =>
    rw [List.nil_append]
    unfold takeSign
    split
    · exact absurd rfl (hrest '-' rfl).1
    · exact absurd rfl (hrest '+' rfl).2
    · rfl

end Lookup.Number
