import Lookup.Proofs.Time.Duration
import Lookup.Proofs.Value.Convert
import Lookup.Time.Almanac

/-!
# Whole numbers of a width

A whole number is written as a sign or none and one or more digits, zeros in front among them. It is read as the
number that the digits stand for, whatever the width, and the width only decides whether the number is taken: one
bit is for the sign, so that there is one number more below zero than above. Texts with more digits than are read
are refused like those that are no numbers.

## Main definitions

* `Tag.bits?` — the width of a type of whole numbers
* `Fits` — the numbers of a width
* `IsInteger`, `IsIntegerOf` — the texts of whole numbers, and of those of a width

## Main results

* `isNumber_iff` — a number is a sign that is taken off, and digits behind it
* `readInteger_eq_ok_iff` — which texts are read, and as what
* `Fits.mono` — what fits into a width fits into wider ones
* `Registry.convert_integer_iff_isInteger` — conversion by all widths
-/

namespace Lookup

open Number Time

/-- The number of bits of a type of whole numbers. -/
def Tag.bits? : Tag → Option Nat
  | .int8 => some 8
  | .int16 => some 16
  | .int32 => some 32
  | .int64 => some 64
  | _ => none

/-- A number fits into a number of bits, one of them the sign. -/
def Fits (bits : Nat) (value : Int) : Prop :=
  -2 ^ (bits - 1) ≤ value ∧ value ≤ 2 ^ (bits - 1) - 1

/-- The text of a whole number: a sign or none, and one or more digits. -/
def IsInteger (value : Int) (text : List Char) : Prop :=
  ∃ number, IsNumber number text ∧ signedValue (some number) = value

/-- A text is a whole number of a width, with no more digits than are read. -/
def IsIntegerOf (bits : Nat) (value : Int) (text : String) : Prop :=
  IsInteger value text.toList ∧ Fits bits value ∧ text.toList.countP Char.isDigit ≤ 4300

variable {tag : Tag} {bits : Nat} {value : Int}

instance (bits : Nat) (value : Int) : Decidable (Fits bits value) :=
  inferInstanceAs (Decidable (_ ∧ _))

/-! ### The texts of whole numbers -/

section Texts

variable {number : Bool × List Char} {text : List Char}

/-- A number is a sign that is taken off, and digits that are left. -/
theorem isNumber_iff :
    IsNumber number text ↔ takeSign text = number ∧ number.2 ≠ [] ∧ ∀ c ∈ number.2, c.isDigit = true := by
  constructor
  · rintro @⟨negative, sign, digits, isSign, digits_ne, isDigit⟩
    have hfirst : ∀ c ∈ digits.head?, c ≠ '-' ∧ c ≠ '+' := fun c hc =>
      ne_sign_of_isDigit (isDigit c (List.mem_of_mem_head? hc))
    exact ⟨takeSign_append isSign hfirst, digits_ne, isDigit⟩
  · rintro ⟨rfl, digits_ne, isDigit⟩
    obtain ⟨sign, isSign, htext⟩ := exists_takeSign text
    have hnumber : IsNumber (takeSign text) (sign ++ (takeSign text).2) := .intro isSign digits_ne isDigit
    rwa [← htext] at hnumber

/-- The digits of the text of a number are those behind its sign. -/
theorem countP_isDigit (h : IsNumber number text) : text.countP Char.isDigit = number.2.length := by
  obtain ⟨isSign, -, isDigit⟩ := h
  rw [List.countP_append, List.countP_eq_length.2 isDigit]
  cases isSign <;> simp

end Texts

/-! ### The reader -/

section Reader

variable {text : String}

theorem fits_iff :
    Fits bits value ↔ -((Nat.pow 2 (bits - 1) : Nat) : Int) ≤ value ∧ value < (Nat.pow 2 (bits - 1) : Nat) := by
  rw [Fits, Nat.pow_eq, Nat.cast_pow, Int.le_sub_one_iff]
  rfl

theorem readInteger_of_isNumber {number : Bool × List Char} (h : IsNumber number text.toList) :
    readInteger bits text =
      if digitLimit < number.2.length then .error (.tooManyDigits number.2.length)
      else if Fits bits (signedValue (some number)) then .ok (signedValue (some number))
      else .error (.outOfRange bits text) := by
  obtain ⟨negative, digits⟩ := number
  obtain ⟨htake, digits_ne, isDigit⟩ := isNumber_iff.1 h
  have hform : ¬ (digits = [] ∨ (!digits.all Char.isDigit) = true) := by
    simpa using ⟨digits_ne, isDigit⟩
  simp only [readInteger, htake, isDigit_eq, digitsValue_eq, if_neg hform]
  exact if_congr Iff.rfl rfl (if_congr fits_iff.symm rfl rfl)

theorem readInteger_of_not_isNumber (h : ¬ ∃ number, IsNumber number text.toList) :
    readInteger bits text = .error (.notInteger text) := by
  have hform : (takeSign text.toList).2 = [] ∨ (!(takeSign text.toList).2.all Char.isDigit) = true := by
    by_contra hne
    simp only [not_or, Bool.not_eq_true', Bool.not_eq_false, List.all_eq_true] at hne
    exact h ⟨_, isNumber_iff.2 ⟨rfl, hne⟩⟩
  simp only [readInteger, isDigit_eq, if_pos hform]

/-- A text is read if it is a number of the width, with no more digits than are read. -/
theorem readInteger_eq_ok_iff :
    readInteger bits text = .ok value ↔ IsIntegerOf bits value text := by
  unfold IsIntegerOf
  by_cases h : ∃ number, IsNumber number text.toList
  · obtain ⟨number, hnumber⟩ := h
    have hinteger : IsInteger value text.toList ↔ signedValue (some number) = value := by
      refine ⟨?_, fun hvalue => ⟨number, hnumber, hvalue⟩⟩
      rintro ⟨other, hother, hvalue⟩
      rwa [← (isNumber_iff.1 hnumber).1, (isNumber_iff.1 hother).1]
    have hlimit : digitLimit = 4300 := rfl
    rw [readInteger_of_isNumber hnumber, hinteger, countP_isDigit hnumber, hlimit]
    by_cases hmany : 4300 < number.2.length
    · rw [if_pos hmany]
      exact iff_of_false (by simp) fun h => absurd hmany (not_lt.2 h.2.2)
    rw [if_neg hmany]
    by_cases hfits : Fits bits (signedValue (some number))
    · rw [if_pos hfits, Except.ok.injEq]
      exact ⟨fun h => ⟨h, h ▸ hfits, not_lt.1 hmany⟩, fun h => h.1⟩
    · rw [if_neg hfits]
      exact iff_of_false (by simp) fun h => hfits (h.1 ▸ h.2.1)
  · rw [readInteger_of_not_isNumber h]
    exact iff_of_false (by simp) fun ⟨⟨number, hnumber, _⟩, _⟩ => h ⟨number, hnumber⟩

end Reader

/-! ### Widths and written numbers -/

theorem Tag.bits_le (h : tag.bits? = some bits) : bits ≤ 64 := by
  cases tag <;> simp only [Tag.bits?, Option.some.injEq, reduceCtorEq] at h <;> omega

theorem Fits.mono {wider : Nat} (hle : bits ≤ wider) (h : Fits bits value) : Fits wider value := by
  have hpow : (2 : Int) ^ (bits - 1) ≤ 2 ^ (wider - 1) :=
    pow_le_pow_right₀ (by decide) (Nat.sub_le_sub_right hle 1)
  rw [Fits] at h ⊢
  omega

/-- No number of a width has too many digits to be read. -/
theorem Fits.length_toDigits_le (hbits : bits ≤ 64) (h : Fits bits value) :
    (Nat.toDigits 10 value.natAbs).length ≤ 4300 := by
  have hwidest : Fits 64 value := h.mono hbits
  have hpow : (2 : Int) ^ (64 - 1) = 9223372036854775808 := rfl
  rw [Fits, hpow] at hwidest
  have hlength : (Nat.toDigits 10 value.natAbs).length ≤ 19 :=
    (Nat.length_toDigits_le_iff (by decide) (by decide)).2 (by omega)
  exact hlength.trans (by decide)

/-- A number written with a sign of its own and zeros in front. -/
theorem isNumber_zeros {negative : Bool} {sign : List Char} (isSign : IsSign negative sign) (zeros n : Nat) :
    IsNumber (negative, List.replicate zeros '0' ++ Nat.toDigits 10 n)
      (sign ++ (List.replicate zeros '0' ++ Nat.toDigits 10 n)) := by
  refine .intro isSign (by simp [Nat.toDigits_ne_nil]) (List.forall_mem_append.2 ⟨fun c hc => ?_, fun c => ?_⟩)
  · rw [List.eq_of_mem_replicate hc]
    rfl
  · exact Nat.isDigit_of_mem_toDigits (by decide) le_rfl

/-- Zeros in front do not count. -/
theorem signedValue_zeros (negative : Bool) (zeros : Nat) (digits : List Char) :
    signedValue (some (negative, List.replicate zeros '0' ++ digits)) = signedValue (some (negative, digits)) := by
  have hzeros : Nat.ofDigitChars 10 (List.replicate zeros '0' ++ digits) 0 = Nat.ofDigitChars 10 digits 0 := by
    rw [Nat.ofDigitChars_append, ofDigitChars_replicate_zero, Nat.mul_zero]
  simp only [signedValue, hzeros]

/-! ### Conversion -/

theorem read_integer (zones : ZoneDatabase) (h : tag.bits? = some bits) (text : String) :
    tag.read zones text = ((readInteger bits text).map Value.integer).mapError .refused := by
  cases tag <;> simp only [Tag.bits?, Option.some.injEq, reduceCtorEq] at h <;> subst h <;> rfl

namespace Registry

variable {ε : Type}

theorem takesExactly_integer (registry : Registry ε) (h : tag.bits? = some bits) :
    registry.TakesExactly tag .integer (IsIntegerOf bits) :=
  registry.takesExactly_of_read (read_integer registry.zones h) fun _ _ => readInteger_eq_ok_iff

/-- A type of whole numbers takes just the numbers of its width, each as what it stands for, however it is
written, and refuses all other texts. So a text that one width takes is taken by all wider ones as the same. -/
theorem convert_integer_iff_isInteger (registry : Registry ε) (h : tag.bits? = some bits) :
    registry.TakesExactly tag .integer (IsIntegerOf bits) ∧
    (∀ n sign zeros, Fits bits n → IsSign (decide (n < 0)) sign →
      zeros + (Nat.toDigits 10 n.natAbs).length ≤ 4300 → registry.convert (.tag tag)
        (String.ofList (sign ++ (List.replicate zeros '0' ++ Nat.toDigits 10 n.natAbs))) = .ok (.integer n)) ∧
    (∀ n, Fits bits n → registry.convert (.tag tag) (toString n) = .ok (.integer n)) ∧
    ∀ wider bits', wider.bits? = some bits' → bits ≤ bits' → ∀ text value,
      registry.convert (.tag tag) text = .ok value → registry.convert (.tag wider) text = .ok value := by
  have htakes := registry.takesExactly_integer h
  refine ⟨htakes, fun n sign zeros hfits isSign hlength => ?_, fun n hfits => ?_, ?_⟩
  · have hnumber := isNumber_zeros isSign zeros n.natAbs
    have hcount := countP_isDigit hnumber
    rw [List.length_append, List.length_replicate] at hcount
    have hvalue := (signedValue_zeros _ zeros _).trans (signedValue_toDigits n)
    apply (htakes.convert_iff _ _).2 ⟨n, rfl, ?_⟩
    rw [IsIntegerOf, String.toList_ofList]
    exact ⟨⟨_, hnumber, hvalue⟩, hfits, hcount.trans_le hlength⟩
  · have hcount := countP_isDigit (isNumber_toString n)
    exact (htakes.convert_iff _ _).2 ⟨n, rfl, ⟨_, isNumber_toString n, signedValue_toDigits n⟩, hfits,
      hcount.trans_le (hfits.length_toDigits_le (Tag.bits_le h))⟩
  · intro wider bits' hwider hle text value htext
    obtain ⟨n, rfl, hinteger, hfits, hcount⟩ := (htakes.convert_iff _ _).1 htext
    exact ((registry.takesExactly_integer hwider).convert_iff _ _).2 ⟨n, rfl, hinteger, hfits.mono hle, hcount⟩

/-- The least number of eight bits and the first behind the greatest. -/
theorem convert_integer_int8 :
    Tag.bits? .int8 = some 8 ∧
    (builtin Time.almanac : Registry Empty).convert (.tag .int8) "-0128" = .ok (.integer (-128)) ∧
    (builtin Time.almanac : Registry Empty).Refuses .int8 "+128" ∧
    (builtin Time.almanac : Registry Empty).convert (.tag .int64) "-0128" = .ok (.integer (-128)) := by
  obtain ⟨htakes, hzeros, -, hwider⟩ :=
    convert_integer_iff_isInteger (builtin Time.almanac : Registry Empty) (show Tag.bits? .int8 = some 8 from rfl)
  have hsign : IsSign (decide ((-128 : Int) < 0)) ['-'] := by
    rw [decide_eq_true (by decide)]
    exact .minus
  have hleast : (builtin Time.almanac : Registry Empty).convert (.tag .int8) "-0128" = .ok (.integer (-128)) :=
    hzeros (-128) ['-'] 1 (by decide) hsign (by decide)
  refine ⟨rfl, hleast, (htakes.refuses_iff _).2 ?_, hwider .int64 64 rfl (by decide) _ _ hleast⟩
  rintro ⟨n, ⟨number, hnumber, rfl⟩, hfits, -⟩
  rw [← (isNumber_iff.1 hnumber).1] at hfits
  exact absurd hfits (by decide)

end Registry

end Lookup
