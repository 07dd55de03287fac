import Mathlib.Data.List.Basic
import Lookup.Proofs.Json.Grammar
import Lookup.Proofs.Number.Shortest

/-!
# Numbers in documents

Whole numbers and finite numbers of double precision are written as numbers of the grammar: at least one
digit stands before a point and behind it, and no zero in front could be left out.

## Main results

* `isNumber_toString` — whole numbers
* `exists_write_eq` — decimal digits in any style
* `isNumber_text`, `isNumber_shortText` — finite numbers of double precision, in full and in six digits
-/

namespace Lookup.Json

open Number

/-! ### Digits -/

theorem isDigits_toDigits (n : Nat) : IsDigits (Nat.toDigits 10 n) :=
  ⟨Nat.toDigits_ne_nil, fun _ => Nat.isDigit_of_mem_toDigits (by decide) le_rfl⟩

theorem IsDigits.append {front back : List Char} (hfront : IsDigits front)
    (hback : ∀ c ∈ back, c.isDigit = true) : IsDigits (front ++ back) :=
  ⟨List.append_ne_nil_of_left_ne_nil hfront.1 back,
    List.forall_mem_append.2 ⟨hfront.2, hback⟩⟩

theorem isDigit_of_mem_replicate {count : Nat} {c : Char} (h : c ∈ List.replicate count '0') :
    c.isDigit = true := by
  rw [List.eq_of_mem_replicate h]
  rfl

/-- A number that is not zero has no zero in front. -/
theorem head?_toDigits_ne {n : Nat} (h : n ≠ 0) : (Nat.toDigits 10 n).head? ≠ some '0' := by
  induction n using Nat.strongRecOn with
  | _ n ih =>
    by_cases hsmall : n < 10
    · rw [Nat.toDigits_of_lt_base hsmall, List.head?_cons, ne_eq, Option.some.injEq,
        Nat.digitChar_eq_zero]
      exact h
    · have hlarge : 10 ≤ n := not_lt.1 hsmall
      rw [Nat.toDigits_of_base_le (by decide) hlarge, List.head?_append_of_ne_nil _ Nat.toDigits_ne_nil]
      exact ih (n / 10) (by omega) (by omega)

theorem isWhole_of_head?_ne {text : List Char} (h : IsDigits text) (hhead : text.head? ≠ some '0') :
    IsWhole text :=
  ⟨h, fun hzero => absurd hzero hhead⟩

theorem isWhole_singleton {d : Char} (h : d.isDigit = true) : IsWhole [d] :=
  ⟨⟨List.cons_ne_nil d [], by simpa using h⟩, fun hzero => by simpa using hzero⟩

theorem isWhole_toDigits (n : Nat) : IsWhole (Nat.toDigits 10 n) := by
  by_cases h : n = 0
  · rw [h]
    exact isWhole_singleton rfl
  · exact isWhole_of_head?_ne (isDigits_toDigits n) (head?_toDigits_ne h)

/-! ### Whole numbers -/

/-- A whole number is written as a number. -/
theorem isNumber_toString (value : Int) : IsNumber (toString value).toList := by
  rw [Int.toString_eq_repr, Int.repr_eq_if]
  split
  · refine ⟨[], Nat.toDigits 10 value.toNat, [], [], .inl rfl, isWhole_toDigits _, trivial, trivial, ?_⟩
    rw [Nat.repr_eq_ofList_toDigits, String.toList_ofList]
    simp
  · refine ⟨['-'], Nat.toDigits 10 (-value).toNat, [], [], .inr rfl, isWhole_toDigits _, trivial,
      trivial, ?_⟩
    rw [Nat.repr_eq_ofList_toDigits, String.toList_append, String.toList_ofList]
    simp

/-! ### Numbers with a point -/

theorem isExponent_exponentText (e : Int) : IsExponent (exponentText e) := by
  have hdigits := isDigits_toDigits e.natAbs
  refine ⟨.inl rfl, ?_⟩
  have hsign : ∀ digits, dropSign ((if e < 0 then '-' else '+') :: digits) = digits := by
    intro digits
    rw [dropSign]
    split <;> simp
  rw [hsign]
  split
  · exact ⟨List.cons_ne_nil _ _, List.forall_mem_cons.2 ⟨rfl, hdigits.2⟩⟩
  · exact hdigits

section Layout

variable {text : List Char} (h : IsDigits text)

include h

/-- Zeros behind digits make a greater whole number. -/
theorem isWhole_append_zeros (hhead : text.head? ≠ some '0') (count : Nat) :
    IsWhole (text ++ List.replicate count '0') := by
  refine isWhole_of_head?_ne (h.append fun _ => isDigit_of_mem_replicate) ?_
  rwa [List.head?_append_of_ne_nil _ h.1]

/-- The digits before a point that stands among them. -/
theorem isWhole_take (hhead : text.head? ≠ some '0') {place : Nat} (hplace : place ≠ 0) :
    IsWhole (text.take place) := by
  have htake : text.take place ≠ [] := by
    rw [ne_eq, List.take_eq_nil_iff]
    exact fun hnone => hnone.elim hplace h.1
  refine isWhole_of_head?_ne ⟨htake, fun c hc => h.2 c (List.mem_of_mem_take hc)⟩ ?_
  rwa [List.head?_take, if_neg hplace]

/-- The digits behind a point that stands among them. -/
theorem isFraction_drop {place : Nat} (hplace : place < text.length) :
    IsFraction ('.' :: text.drop place) := by
  have hdrop : text.drop place ≠ [] := by
    rw [ne_eq, List.drop_eq_nil_iff]
    omega
  exact ⟨rfl, hdrop, fun c hc => h.2 c (List.mem_of_mem_drop hc)⟩

/-- Zeros between the point and the digits. -/
theorem isFraction_zeros (count : Nat) : IsFraction ('.' :: (List.replicate count '0' ++ text)) :=
  ⟨rfl, List.append_ne_nil_of_right_ne_nil _ h.1,
    List.forall_mem_append.2 ⟨fun _ => isDigit_of_mem_replicate, h.2⟩⟩

end Layout

/-- Decimal digits in any style are a whole part, a fraction and an exponent. Zero has to stand without a
power of ten. -/
theorem exists_write_eq (style : Style) (digits : Digits)
    (h : digits.coefficient = 0 → digits.exponent = 0) :
    ∃ whole fraction exponent, IsWhole whole ∧ IsFraction fraction ∧ IsExponent exponent ∧
      style.write digits = whole ++ fraction ++ exponent := by
  have htext := isDigits_toDigits digits.coefficient
  have hwhole := isWhole_toDigits digits.coefficient
  have hlength : 0 < (Nat.toDigits 10 digits.coefficient).length := Nat.length_toDigits_pos
  have hhead : digits.coefficient ≠ 0 → (Nat.toDigits 10 digits.coefficient).head? ≠ some '0' :=
    head?_toDigits_ne
  rw [Style.write.eq_def]
  generalize Nat.toDigits 10 digits.coefficient = text at *
  simp only
  generalize horder : (text.length : Int) + digits.exponent - 1 = order
  split
  · split
    · -- A whole number, which zeros are put behind.
      refine ⟨text ++ List.replicate digits.exponent.toNat '0', if style.pointZero then ['.', '0'] else [],
        [], ?_, ?_, trivial, by simp⟩
      · by_cases hzero : digits.coefficient = 0
        · rw [h hzero]
          simpa using hwhole
        · exact isWhole_append_zeros htext (hhead hzero) _
      · split
        · exact ⟨rfl, (isWhole_singleton rfl).1⟩
        · trivial
    · next hexponent =>
      have hzero : digits.coefficient ≠ 0 := fun hzero => hexponent (by rw [h hzero])
      split
      · -- The point stands among the digits.
        exact ⟨text.take (order + 1).toNat, '.' :: text.drop (order + 1).toNat, [],
          isWhole_take htext (hhead hzero) (by omega), isFraction_drop htext (by omega), trivial, by simp⟩
      · -- The point stands in front of all digits.
        exact ⟨['0'], '.' :: (List.replicate (-order - 1).toNat '0' ++ text), [], isWhole_singleton rfl,
          isFraction_zeros htext _, trivial, by simp⟩
  · -- An exponent is written behind the first digit and the fraction.
    cases text with
    | nil => exact absurd rfl htext.1
    | cons d more =>
      have hd : IsWhole [d] := isWhole_singleton (htext.2 d List.mem_cons_self)
      cases more with
      | nil => exact ⟨[d], [], exponentText order, hd, trivial, isExponent_exponentText _, by simp⟩
      | cons e more =>
        have hfraction : IsFraction ('.' :: (d :: e :: more).drop 1) := isFraction_drop htext (by simp)
        exact ⟨[d], '.' :: e :: more, exponentText order, hd, hfraction, isExponent_exponentText _, by simp⟩

/-- A finite number is written as a number in any style, if digits of zero are chosen for zero alone. -/
theorem isNumber_write {style : Style} {choose : Nat → Int → Digits}
    (hchoose : ∀ significand exponent, significand ≠ 0 → (choose significand exponent).coefficient ≠ 0)
    (negative : Bool) (significand : Nat) (exponent : Int) :
    IsNumber (Binary.write style choose (.finite negative significand exponent)).toList := by
  rw [Binary.write, String.toList_ofList]
  have hzero : ∀ digits : Digits, digits = (if significand = 0 then ⟨0, 0⟩ else
      choose significand exponent) → digits.coefficient = 0 → digits.exponent = 0 := by
    rintro _ rfl
    split
    · exact fun _ => rfl
    · next hsignificand =>
      exact fun hcoefficient => absurd hcoefficient (hchoose significand exponent hsignificand)
  obtain ⟨whole, fraction, power, hwhole, hfraction, hpower, hwrite⟩ :=
    exists_write_eq style _ (hzero _ rfl)
  refine ⟨if negative then ['-'] else [], whole, fraction, power, ?_, hwhole, hfraction, hpower, ?_⟩
  · cases negative
    · exact .inl rfl
    · exact .inr rfl
  · rw [hwrite]
    simp

/-- A finite number is written as a number. -/
theorem isNumber_text (negative : Bool) (significand : Nat) (exponent : Int) :
    IsNumber (Binary.finite negative significand exponent).text.toList :=
  isNumber_write (fun _ exponent h => shortest_coefficient_ne_zero h exponent) negative significand exponent

/-- A finite number is written as a number in six digits. -/
theorem isNumber_shortText (negative : Bool) (significand : Nat) (exponent : Int) :
    IsNumber (Binary.finite negative significand exponent).shortText.toList := by
  refine isNumber_write (fun significand exponent h => ?_) negative significand exponent
  obtain ⟨num, den, hfraction, hnum, hden⟩ := exists_unscale_two h exponent
  simp only [hfraction]
  exact trim_coefficient_ne_zero (significant_coefficient_ne_zero (by decide) hnum hden) 6

end Lookup.Json
