import Mathlib.Data.List.TakeWhile
import Lookup.Number.Loose

/-!
# Loosely written whole numbers

A text that is read as a whole number is read as a number.

## Main results

* `looseFloat?_ne_none_of_looseWhole?` — a whole number is a number
-/

namespace Lookup.Number

open Text

/-- The digits of base ten are the ten ASCII digits. -/
theorem isSome_digitValue?_ten (c : Char) : (digitValue? 10 c).isSome = isDigit c := by
  have hlower : c.isLower = true → 97 ≤ c.toNat := by
    intro h
    obtain ⟨hle, -⟩ := Bool.and_eq_true_iff.1 h
    exact UInt32.le_iff_toNat_le.1 (of_decide_eq_true hle)
  have hupper : c.isUpper = true → 65 ≤ c.toNat := by
    intro h
    obtain ⟨hle, -⟩ := of_decide_eq_true h
    exact UInt32.le_iff_toNat_le.1 hle
  have hdigit : isDigit c = true → c.toNat ≤ 57 := by
    simp only [isDigit, Bool.and_eq_true, decide_eq_true_eq]
    exact fun h => UInt32.le_iff_toNat_le.1 h.2
  rw [digitValue?]
  by_cases h : isDigit c = true
  · have hlt : c.toNat - 48 < 10 := by
      have hle := hdigit h
      omega
    rw [if_pos h]
    simp only [if_pos hlt, h, Option.isSome_some]
  · -- A letter stands for ten at least.
    have hvalue : 10 ≤ if c.isLower = true then c.toNat - 87
        else if c.isUpper = true then c.toNat - 55 else 10 := by
      split
      · have hle := hlower ‹_›
        omega
      split
      · have hle := hupper ‹_›
        omega
      · exact Nat.le_refl 10
    rw [if_neg h]
    simp only [if_neg (Nat.not_lt.2 hvalue), Option.isSome_none]
    simpa using h

/-- Digits alone are a decimal numeral. -/
theorem exists_decimal?_of_digits {text : List Char} (negative : Bool) (hne : text ≠ [])
    (hdigits : ∀ c ∈ text, isDigit c = true) : ∃ numeral, decimal? negative text = some numeral := by
  have htake : text.takeWhile isDigit = text := List.takeWhile_eq_self_iff.2 hdigits
  have hdrop : text.dropWhile isDigit = [] := List.dropWhile_eq_nil_iff.2 hdigits
  have hvalue : digitsValue? text = some (digitsValue 0 text) :=
    if_pos ⟨hne, List.all_eq_true.2 hdigits⟩
  simp only [decimal?, htake, hdrop, List.append_nil, hvalue, exponentPart?]
  exact ⟨_, rfl⟩

/-- Texts that are dropped of their underscores are all of digits if each character has a value. -/
theorem isDigit_of_mapM {digits : List Char} {values : List Nat}
    (h : digits.mapM (digitValue? 10) = some values) : ∀ c ∈ digits, isDigit c = true := by
  induction digits generalizing values with
  | nil => exact fun c hc => absurd hc List.not_mem_nil
  | cons first rest ih =>
    rw [List.mapM_cons] at h
    obtain ⟨value, hvalue, h⟩ := Option.bind_eq_some_iff.1 h
    obtain ⟨others, hothers, -⟩ := Option.bind_eq_some_iff.1 h
    intro c hc
    rcases List.mem_cons.1 hc with rfl | hc
    · rw [← isSome_digitValue?_ten, hvalue]
      rfl
    · exact ih hothers c hc

/-- A whole number is a number. -/
theorem looseFloat?_ne_none_of_looseWhole? {text : List Char} (h : (looseWhole? 10 text).isSome = true) :
    looseFloat? text ≠ none := by
  have hbase : ∀ body : List Char, dropBaseMark 10 body = body := by
    intro body
    unfold dropBaseMark
    split
    · exact if_neg (by simp [baseLetter?])
    · rfl
  rw [looseWhole?] at h
  rw [looseFloat?]
  generalize takeSign ((dropSpace text).map plainDigit) = signed at h ⊢
  obtain ⟨negative, body⟩ := signed
  simp only [hbase, isSome_digitValue?_ten] at h ⊢
  split
  · simp
  split
  · simp
  split at h
  · simp at h
  · next digits hdigits =>
    split at h
    · simp at h
    · next hne =>
      rw [not_or] at hne
      rw [Option.isSome_map] at h
      obtain ⟨values, hvalues⟩ := Option.isSome_iff_exists.1 h
      obtain ⟨numeral, hnumeral⟩ := exists_decimal?_of_digits negative hne.1 (isDigit_of_mapM hvalues)
      rw [show dropUnderscores? isDigit false body = some digits from hdigits]
      simp [hnumeral]

end Lookup.Number
