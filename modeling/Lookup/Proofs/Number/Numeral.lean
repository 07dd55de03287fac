import Lookup.Proofs.Text.Fields
import Lookup.Proofs.Value.Integer
import Lookup.Value.Convert

/-!
# Numerals as they are written

A numeral is a sign or none and the word for no number, the word for infinity, or digits with at most one point and
perhaps an exponent. One letter for a type may stand behind it and white space around it. The rules say so apart
from any reader, and give the exact value of the digits as a whole number and a power of ten.

## Main definitions

* `IsMantissa`, `IsExponent`, `IsTypeSuffix` — the parts of a numeral
* `IsNumeral` — the rules for a numeral
* `IsFloat` — a numeral with what may stand behind and around it

## Main results

* `decimal?_append`, `parse?_eq_some_iff` — the reader follows the rules
* `IsFloat.unique` — a text is one numeral
* `readFloat64_eq_ok_iff` — which texts are read, and as what
-/

namespace Lookup.Number

open Text Time

variable {negative : Bool} {whole fraction mantissa exponent sign suffix body front back text : List Char} {k : Int}
  {numeral : Numeral}

/-! ### The rules -/

/-- Digits, or digits with a point among, before or behind them. -/
inductive IsMantissa : List Char → List Char → List Char → Prop
  | whole {whole : List Char} (ne_nil : whole ≠ []) (isDigit : ∀ c ∈ whole, c.isDigit = true) :
      IsMantissa whole [] whole
  | point {whole fraction : List Char} (ne_nil : whole ++ fraction ≠ [])
      (isDigit : ∀ c ∈ whole ++ fraction, c.isDigit = true) : IsMantissa whole fraction (whole ++ '.' :: fraction)

/-- An exponent, which is nothing or an `e` of either case with a number behind it. -/
inductive IsExponent : Int → List Char → Prop
  | none : IsExponent 0 []
  | some {mark : Char} {number : Bool × List Char} {text : List Char} (isMark : mark = 'e' ∨ mark = 'E')
      (isNumber : IsNumber number text) : IsExponent (signedValue (some number)) (mark :: text)

/-- A letter for a type, or none. -/
inductive IsTypeSuffix : List Char → Prop
  | none : IsTypeSuffix []
  | letter {c : Char} (mem : c ∈ ['f', 'F', 'd', 'D']) : IsTypeSuffix [c]

/-- The text of a numeral without its sign. -/
inductive IsUnsigned (negative : Bool) : Numeral → List Char → Prop
  | nan : IsUnsigned negative .nan ['N', 'a', 'N']
  | infinite : IsUnsigned negative (.infinite negative) ['I', 'n', 'f', 'i', 'n', 'i', 't', 'y']
  | decimal {whole fraction mantissa exponent : List Char} {k : Int} (isMantissa : IsMantissa whole fraction mantissa)
      (isExponent : IsExponent k exponent) :
      IsUnsigned negative (.decimal negative (Nat.ofDigitChars 10 (whole ++ fraction) 0) (k - fraction.length))
        (mantissa ++ exponent)

/-- The text of a numeral. -/
inductive IsNumeral : Numeral → List Char → Prop
  | intro {negative : Bool} {numeral : Numeral} {sign body : List Char} (isSign : IsSign negative sign)
      (isUnsigned : IsUnsigned negative numeral body) : IsNumeral numeral (sign ++ body)

/-- The text of a numeral with a letter for a type behind it, or none, and with white space around. -/
inductive IsFloat : Numeral → List Char → Prop
  | intro {numeral : Numeral} {front body suffix back : List Char} (isFront : ∀ c ∈ front, isBlank c = true)
      (isNumeral : IsNumeral numeral body) (isSuffix : IsTypeSuffix suffix)
      (isBack : ∀ c ∈ back, isBlank c = true) : IsFloat numeral (front ++ (body ++ suffix) ++ back)

/-! ### The parts -/

theorem digitsValue?_eq_some_iff {n : Nat} :
    digitsValue? text = some n ↔
      text ≠ [] ∧ (∀ c ∈ text, c.isDigit = true) ∧ Nat.ofDigitChars 10 text 0 = n := by
  simp only [digitsValue?, isDigit_eq, List.all_eq_true, digitsValue_eq, Option.ite_none_right_eq_some, and_assoc,
    Option.some.injEq]

theorem exponentPart?_cons {mark : Char} (isMark : mark = 'e' ∨ mark = 'E') (text : List Char) :
    exponentPart? (mark :: text) =
      (digitsValue? (takeSign text).2).map fun n : Nat => if (takeSign text).1 then -(n : Int) else (n : Int) := by
  simp only [exponentPart?, if_pos isMark]
  cases digitsValue? (takeSign text).2 <;> rfl

theorem exponentPart?_eq_some_iff : exponentPart? text = some k ↔ IsExponent k text := by
  constructor
  · intro h
    cases text with
    | nil =>
      obtain rfl := Option.some.inj h
      exact .none
    | cons mark text =>
      by_cases isMark : mark = 'e' ∨ mark = 'E'
      · rw [exponentPart?_cons isMark] at h
        obtain ⟨n, hn, rfl⟩ := Option.map_eq_some_iff.1 h
        obtain ⟨hne, isDigit, rfl⟩ := digitsValue?_eq_some_iff.1 hn
        exact .some isMark (isNumber_iff.2 ⟨rfl, hne, isDigit⟩)
      · rw [exponentPart?, if_neg isMark] at h
        cases h
  · intro h
    cases h with
    | none => rfl
    | some isMark isNumber =>
      obtain ⟨rfl, hne, isDigit⟩ := isNumber_iff.1 isNumber
      rw [exponentPart?_cons isMark, digitsValue?_eq_some_iff.2 ⟨hne, isDigit, rfl⟩]
      rfl

/-- An exponent does not go on with digits or a point. -/
theorem IsExponent.head? (h : IsExponent k text) : ∀ c ∈ text.head?, c.isDigit = false ∧ c ≠ '.' := by
  cases h with
  | none => simp
  | some isMark isNumber =>
    intro c hc
    obtain rfl := Option.some.inj hc
    rcases isMark with rfl | rfl <;> decide

/-- The decimal of digits, of which some stand behind the point, and of an exponent. -/
def decimalOf? (negative : Bool) (digits : List Char) (places : Nat) (exponent : List Char) : Option Numeral :=
  match digitsValue? digits, exponentPart? exponent with
  | some coefficient, some k => some (.decimal negative coefficient (k - places))
  | _, _ => none

theorem decimalOf?_eq_some_iff {digits : List Char} {places : Nat} :
    decimalOf? negative digits places exponent = some numeral ↔
      digits ≠ [] ∧ (∀ c ∈ digits, c.isDigit = true) ∧ ∃ k, IsExponent k exponent ∧
        numeral = .decimal negative (Nat.ofDigitChars 10 digits 0) (k - places) := by
  unfold decimalOf?
  constructor
  · intro h
    split at h
    · next coefficient k hcoefficient hk =>
      obtain ⟨hne, isDigit, rfl⟩ := digitsValue?_eq_some_iff.1 hcoefficient
      exact ⟨hne, isDigit, k, exponentPart?_eq_some_iff.1 hk, (Option.some.inj h).symm⟩
    · cases h
  · rintro ⟨hne, isDigit, k, isExponent, rfl⟩
    rw [digitsValue?_eq_some_iff.2 ⟨hne, isDigit, rfl⟩, exponentPart?_eq_some_iff.2 isExponent]

section Decimal

variable {rest : List Char} (isWhole : ∀ c ∈ whole, c.isDigit = true)

include isWhole

theorem decimal?_whole (hrest : ∀ c ∈ rest.head?, c.isDigit = false ∧ c ≠ '.') :
    decimal? negative (whole ++ rest) = decimalOf? negative whole 0 rest := by
  obtain ⟨htake, hdrop⟩ := takeWhile_append_eq Char.isDigit isWhole fun c hc => (hrest c hc).1
  rw [decimal?, isDigit_eq, htake, hdrop]
  cases rest with
  | nil =>
    simp only [List.append_nil]
    rfl
  | cons c more =>
    have hpoint : c ≠ '.' := (hrest c rfl).2
    simp only [decimalOf?]
    cases hvalue : digitsValue? whole <;> cases hexponent : exponentPart? (c :: more) <;>
      simp [hpoint, hvalue, hexponent]

theorem decimal?_point (isFraction : ∀ c ∈ fraction, c.isDigit = true) (hrest : ∀ c ∈ rest.head?, c.isDigit = false) :
    decimal? negative (whole ++ '.' :: (fraction ++ rest)) =
      decimalOf? negative (whole ++ fraction) fraction.length rest := by
  have hmark : ∀ c ∈ ('.' :: (fraction ++ rest)).head?, c.isDigit = false := by simp
  obtain ⟨htake, hdrop⟩ := takeWhile_append_eq Char.isDigit isWhole hmark
  obtain ⟨htake', hdrop'⟩ := takeWhile_append_eq Char.isDigit isFraction hrest
  rw [decimal?, isDigit_eq, htake, hdrop]
  simp only [htake', hdrop']
  rfl

end Decimal

theorem exists_takeWhile_isDigit (text : List Char) :
    ∃ digits rest, text = digits ++ rest ∧ (∀ c ∈ digits, c.isDigit = true) ∧
      ∀ c ∈ rest.head?, c.isDigit = false := by
  refine ⟨text.takeWhile Char.isDigit, text.dropWhile Char.isDigit, List.takeWhile_append_dropWhile.symm,
    fun _ => List.mem_takeWhile_imp, fun c hc => ?_⟩
  have hnot := List.head?_dropWhile_not Char.isDigit text
  rw [Option.mem_def.1 hc] at hnot
  simpa using hnot

/-- The decimals are read, each as what its digits and its exponent say. -/
theorem decimal?_append (negative : Bool) (isMantissa : IsMantissa whole fraction mantissa)
    (isExponent : IsExponent k exponent) :
    decimal? negative (mantissa ++ exponent) =
      some (.decimal negative (Nat.ofDigitChars 10 (whole ++ fraction) 0) (k - fraction.length)) := by
  cases isMantissa with
  | whole hne isDigit =>
    rw [decimal?_whole isDigit isExponent.head?, decimalOf?_eq_some_iff]
    simp only [List.append_nil, List.length_nil]
    exact ⟨hne, isDigit, k, isExponent, rfl⟩
  | point hne isDigit =>
    obtain ⟨isWhole, isFraction⟩ := List.forall_mem_append.1 isDigit
    rw [List.append_assoc, List.cons_append,
      decimal?_point isWhole isFraction fun c hc => (isExponent.head? c hc).1, decimalOf?_eq_some_iff]
    exact ⟨hne, isDigit, k, isExponent, rfl⟩

/-- A text that is read as a decimal follows the rules. -/
theorem isUnsigned_of_decimal? (h : decimal? negative text = some numeral) : IsUnsigned negative numeral text := by
  obtain ⟨whole, rest, rfl, isWhole, hrest⟩ := exists_takeWhile_isDigit text
  by_cases hpoint : ∀ c ∈ rest.head?, c ≠ '.'
  · rw [decimal?_whole isWhole fun c hc => ⟨hrest c hc, hpoint c hc⟩] at h
    obtain ⟨hne, isDigit, k, isExponent, rfl⟩ := decimalOf?_eq_some_iff.1 h
    have hdecimal : IsUnsigned negative _ (whole ++ rest) := .decimal (.whole hne isDigit) isExponent
    rwa [List.append_nil] at hdecimal
  · obtain ⟨more, rfl⟩ : ∃ more, rest = '.' :: more := by
      cases rest with
      | nil => exact absurd (by simp) hpoint
      | cons c more => exact ⟨more, by simpa using hpoint⟩
    obtain ⟨fraction, exponent, rfl, isFraction, hexponent⟩ := exists_takeWhile_isDigit more
    rw [decimal?_point isWhole isFraction hexponent] at h
    obtain ⟨hne, isDigit, k, isExponent, rfl⟩ := decimalOf?_eq_some_iff.1 h
    have hdecimal : IsUnsigned negative _ (whole ++ '.' :: fraction ++ exponent) :=
      .decimal (.point hne isDigit) isExponent
    rwa [List.append_assoc, List.cons_append] at hdecimal

/-! ### The characters of a numeral -/

theorem IsMantissa.ne_nil (h : IsMantissa whole fraction mantissa) : mantissa ≠ [] := by
  cases h with
  | whole hne => exact hne
  | point => simp

theorem IsMantissa.mem (h : IsMantissa whole fraction mantissa) :
    ∀ c ∈ mantissa, c.isDigit = true ∨ c ∈ ['.'] := by
  cases h with
  | whole _ isDigit => exact fun c hc => .inl (isDigit c hc)
  | point _ isDigit =>
    obtain ⟨isWhole, isFraction⟩ := List.forall_mem_append.1 isDigit
    refine List.forall_mem_append.2 ⟨fun c hc => .inl (isWhole c hc), List.forall_mem_cons.2 ⟨by simp, ?_⟩⟩
    exact fun c hc => .inl (isFraction c hc)

theorem IsExponent.mem (h : IsExponent k exponent) :
    ∀ c ∈ exponent, c.isDigit = true ∨ c ∈ ['e', 'E', '+', '-'] := by
  cases h with
  | none => simp
  | some isMark isNumber =>
    obtain @⟨negative, sign, digits, isSign, -, isDigit⟩ := isNumber
    refine List.forall_mem_cons.2 ⟨?_, List.forall_mem_append.2 ⟨?_, fun c hc => .inl (isDigit c hc)⟩⟩
    · rcases isMark with rfl | rfl <;> simp
    · cases isSign <;> simp

/-- The characters of a decimal are digits, a point, the mark of an exponent and its sign. -/
theorem mem_decimal (isMantissa : IsMantissa whole fraction mantissa) (isExponent : IsExponent k exponent) :
    ∀ c ∈ mantissa ++ exponent, c.isDigit = true ∨ c ∈ ['.', 'e', 'E', '+', '-'] := by
  refine List.forall_mem_append.2 ⟨fun c hc => ?_, fun c hc => ?_⟩
  · exact (isMantissa.mem c hc).imp_right fun hmem => List.mem_cons.2 (.inl (List.mem_singleton.1 hmem))
  · exact (isExponent.mem c hc).imp_right (List.mem_cons_of_mem _)

theorem isBlank_of_isDigit {c : Char} (h : c.isDigit = true) : isBlank c = false := by
  simp only [Char.isDigit, Bool.and_eq_true, decide_eq_true_eq, UInt32.le_iff_toNat_le, ge_iff_le] at h
  have hlow : 48 ≤ c.toNat := h.1
  have hhigh : c.toNat ≤ 57 := h.2
  simp only [isBlank, Ranges.contains, blanks, List.any_eq_false, List.forall_mem_cons]
  simp
  omega

/-- No white space stands in a numeral. -/
theorem IsUnsigned.isBlank_eq_false (h : IsUnsigned negative numeral body) : ∀ c ∈ body, isBlank c = false := by
  cases h with
  | nan => simp [isBlank, Ranges.contains, blanks]
  | infinite => simp [isBlank, Ranges.contains, blanks]
  | decimal isMantissa isExponent =>
    intro c hc
    rcases mem_decimal isMantissa isExponent c hc with hdigit | hmem
    · exact isBlank_of_isDigit hdigit
    · exact (by simp [isBlank, Ranges.contains, blanks] : ∀ c ∈ ['.', 'e', 'E', '+', '-'], isBlank c = false) c hmem

/-- A numeral does not end in a letter for a type. -/
theorem IsUnsigned.getLast? (h : IsUnsigned negative numeral body) :
    ∀ c ∈ body.getLast?, c ∉ ['f', 'F', 'd', 'D'] := by
  cases h with
  | nan => simp
  | infinite => simp
  | decimal isMantissa isExponent =>
    intro c hc hletter
    rcases mem_decimal isMantissa isExponent c (List.mem_of_getLast? hc) with hdigit | hmem
    · exact (by simp [Char.isDigit] : ∀ c ∈ ['f', 'F', 'd', 'D'], ¬ c.isDigit = true) c hletter hdigit
    · exact (by simp : ∀ c ∈ ['f', 'F', 'd', 'D'], c ∉ ['.', 'e', 'E', '+', '-']) c hletter hmem

/-- Behind its sign a numeral does not go on with another one. -/
theorem IsUnsigned.head? (h : IsUnsigned negative numeral body) :
    body ≠ [] ∧ ∀ c ∈ body.head?, c ≠ '-' ∧ c ≠ '+' := by
  cases h with
  | nan => simp
  | infinite => simp
  | decimal isMantissa isExponent =>
    refine ⟨by simp [isMantissa.ne_nil], fun c hc => ?_⟩
    rw [List.head?_append_of_ne_nil _ isMantissa.ne_nil] at hc
    rcases isMantissa.mem c (List.mem_of_mem_head? hc) with hdigit | hmem
    · exact ne_sign_of_isDigit hdigit
    · rw [List.mem_singleton.1 hmem]
      decide

/-! ### The letter for a type -/

/-- One letter for a type is taken off. -/
theorem dropTypeSuffix_append (isSuffix : IsTypeSuffix suffix)
    (hlast : ∀ c ∈ body.getLast?, c ∉ ['f', 'F', 'd', 'D']) : dropTypeSuffix (body ++ suffix) = body := by
  cases isSuffix with
  | none =>
    rw [List.append_nil, dropTypeSuffix]
    split
    · next c hc =>
      rw [if_neg]
      simpa using hlast c hc
    · rfl
  | letter hmem =>
    rw [dropTypeSuffix, List.getLast?_concat, List.dropLast_concat]
    exact if_pos (by simpa using hmem)

theorem exists_dropTypeSuffix (text : List Char) :
    ∃ suffix, IsTypeSuffix suffix ∧ text = dropTypeSuffix text ++ suffix := by
  unfold dropTypeSuffix
  split
  · next c hc =>
    obtain ⟨front, rfl⟩ := List.getLast?_eq_some_iff.1 hc
    split
    · next hmem => exact ⟨[c], .letter (by simpa using hmem), by rw [List.dropLast_concat]⟩
    · exact ⟨[], .none, (List.append_nil _).symm⟩
  · exact ⟨[], .none, (List.append_nil _).symm⟩

/-! ### The reader -/

/-- A numeral with a letter for a type or none is read as the numeral. -/
theorem parse?_append (isSign : IsSign negative sign) (isUnsigned : IsUnsigned negative numeral body)
    (isSuffix : IsTypeSuffix suffix) : Numeral.parse? (sign ++ (body ++ suffix)) = some numeral := by
  obtain ⟨hne, hhead⟩ := isUnsigned.head?
  have htake : takeSign (sign ++ (body ++ suffix)) = (negative, body ++ suffix) :=
    takeSign_append isSign (by rwa [List.head?_append_of_ne_nil _ hne])
  simp only [Numeral.parse?, htake, dropTypeSuffix_append isSuffix isUnsigned.getLast?]
  cases isUnsigned with
  | nan => rfl
  | infinite => rfl
  | decimal isMantissa isExponent =>
    -- The two words are no decimals, so that a decimal is none of them.
    have hread := decimal?_append negative isMantissa isExponent
    have hnan : decimal? negative "NaN".toList = none := rfl
    have hinfinite : decimal? negative "Infinity".toList = none := rfl
    rw [if_neg fun heq => ?_, if_neg fun heq => ?_, hread]
    · rw [heq, hinfinite] at hread
      cases hread
    · rw [heq, hnan] at hread
      cases hread

/-- A text is read as a numeral if it is the text of one, with a letter for a type or none. -/
theorem parse?_eq_some_iff :
    Numeral.parse? text = some numeral ↔
      ∃ body suffix, IsNumeral numeral body ∧ IsTypeSuffix suffix ∧ text = body ++ suffix := by
  constructor
  · intro h
    obtain ⟨sign, isSign, hsign⟩ := exists_takeSign text
    obtain ⟨suffix, isSuffix, hsuffix⟩ := exists_dropTypeSuffix (takeSign text).2
    refine ⟨sign ++ dropTypeSuffix (takeSign text).2, suffix, .intro isSign ?_, isSuffix, ?_⟩
    · simp only [Numeral.parse?] at h
      split at h
      · next hbody =>
        obtain rfl := Option.some.inj h
        exact hbody ▸ .nan
      split at h
      · next hbody =>
        obtain rfl := Option.some.inj h
        exact hbody ▸ .infinite
      · exact isUnsigned_of_decimal? h
    · rw [List.append_assoc, ← hsuffix, ← hsign]
  · rintro ⟨_, suffix, ⟨isSign, isUnsigned⟩, isSuffix, rfl⟩
    rw [List.append_assoc, parse?_append isSign isUnsigned isSuffix]

theorem isBlank_eq_false_of_isNumeral (isNumeral : IsNumeral numeral body) (isSuffix : IsTypeSuffix suffix) :
    ∀ c ∈ body ++ suffix, isBlank c = false := by
  obtain ⟨isSign, isUnsigned⟩ := isNumeral
  refine List.forall_mem_append.2 ⟨List.forall_mem_append.2 ⟨?_, isUnsigned.isBlank_eq_false⟩, ?_⟩
  · cases isSign <;> simp [isBlank, Ranges.contains, blanks]
  · cases isSuffix with
    | none => simp
    | letter hmem =>
      exact List.forall_mem_singleton.2
        ((by simp [isBlank, Ranges.contains, blanks] : ∀ c ∈ ['f', 'F', 'd', 'D'], isBlank c = false) _ hmem)

/-- White space around a numeral is taken off, and what is left is read. -/
theorem parse?_strip_eq_some_iff : Numeral.parse? (strip text) = some numeral ↔ IsFloat numeral text := by
  constructor
  · intro h
    obtain ⟨front, back, isFront, isBack, htext⟩ := exists_trimBoth isBlank text
    obtain ⟨body, suffix, isNumeral, isSuffix, hstrip⟩ := parse?_eq_some_iff.1 h
    have hfloat := IsFloat.intro isFront isNumeral isSuffix isBack
    rwa [← hstrip, strip, ← htext] at hfloat
  · rintro ⟨isFront, isNumeral, isSuffix, isBack⟩
    rw [strip, trimBoth_append isFront isBack (isBlank_eq_false_of_isNumeral isNumeral isSuffix)]
    exact parse?_eq_some_iff.2 ⟨_, _, isNumeral, isSuffix, rfl⟩

theorem not_isFloat_of_parse? (h : Numeral.parse? (strip text) = none) : ¬ ∃ numeral, IsFloat numeral text := by
  rintro ⟨numeral, hfloat⟩
  rw [parse?_strip_eq_some_iff.2 hfloat] at h
  cases h

/-- A numeral stands by itself, too. -/
theorem IsNumeral.isFloat (h : IsNumeral numeral body) : IsFloat numeral body := by
  have hnone : ∀ c ∈ ([] : List Char), isBlank c = true := by simp
  have hfloat := IsFloat.intro hnone h .none hnone
  rwa [List.append_nil, List.append_nil, List.nil_append] at hfloat

/-- A text is the text of one numeral. -/
theorem IsFloat.unique {other : Numeral} (h : IsFloat numeral text) (h' : IsFloat other text) : numeral = other :=
  Option.some.inj ((parse?_strip_eq_some_iff.2 h).symm.trans (parse?_strip_eq_some_iff.2 h'))

/-- The texts of numerals are read, each as the number that its numeral is rounded to. -/
theorem readFloat64_eq_ok_iff {text : String} {x : Binary} :
    readFloat64 text = .ok x ↔ ∃ numeral, x = numeral.round ∧ IsFloat numeral text.toList := by
  simp only [← parse?_strip_eq_some_iff, readFloat64]
  cases Numeral.parse? (strip text.toList) <;> simp [eq_comm]

end Lookup.Number
