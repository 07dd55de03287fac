import Lookup.Error.Basic
import Lookup.Proofs.Number.Loose
import Lookup.Proofs.Text.Token
import Lookup.Table

/-!
# What is known of printers of tables

A table is printed with a header, a rule, and a line for each row, which is read back as its cells. What stands in
a column of decimal numbers, which are not all whole, is written as a number in six digits; all else is
printed as it is. A truth value has no number, so that a table with one in such a column is not printed.

## Main definitions

* `IsClean` — texts that are one token and hold no control characters
* `AreDecimals` — the texts of a column of decimal numbers
* `shownAmong` — a clean text as it is shown in a column
* `IsVerbatim` — the columns that show their texts as they are
* `readRows`, `PrintsAs` — the rows of a printed table
* `Tabulates` — what is known of a printer of tables with two columns of clean texts

## Main results

* `isVerbatim_iff` — columns that can be printed and show each text as it is
-/

namespace Lookup

open Number Text

/-! ### Clean texts -/

/-- A control character. -/
def IsControl (c : Char) : Prop := c.toNat < 0x20 ∨ 0x7F ≤ c.toNat ∧ c.toNat < 0xA0

instance (c : Char) : Decidable (IsControl c) := inferInstanceAs (Decidable (_ ∨ _))

/-- A text that is not empty and holds neither white space nor control characters. -/
structure IsClean (text : List Char) : Prop extends IsToken text where
  notControl : ∀ c ∈ text, ¬ IsControl c

theorem isClean_iff_all {text : List Char} :
    IsClean text ↔ text ≠ [] ∧ text.all (fun c => !isBlank c && !decide (IsControl c)) = true := by
  simp only [List.all_eq_true, Bool.and_eq_true, Bool.not_eq_true', decide_eq_false_iff_not]
  exact ⟨fun h => ⟨h.ne_nil, fun c hc => ⟨h.notBlank c hc, h.notControl c hc⟩⟩,
    fun ⟨hne, h⟩ => ⟨⟨hne, fun c hc => (h c hc).1⟩, fun c hc => (h c hc).2⟩⟩

instance (text : List Char) : Decidable (IsClean text) := decidable_of_iff _ isClean_iff_all.symm

/-! ### What columns show -/

/-- The word that stands for not-a-number, and the words for truth values, are told apart. -/
theorem looseFloat?_of_isTruth {cell : List Char} (h : isTruth cell = true) :
    looseFloat? cell = none := by
  rw [isTruth, List.contains_iff_mem, List.mem_cons, List.mem_singleton] at h
  rcases h with h | h
  · rw [← String.toList_ofList (l := cell), h]
    decide
  · rw [← String.toList_ofList (l := cell), h]
    decide

/-- The texts of a column of decimal numbers: each is a truth value or a number, and one is neither a truth value nor
whole. -/
structure AreDecimals (texts : List String) : Prop where
  all : ∀ text ∈ texts, isTruth text.toList = true ∨ isWhole text.toList = true ∨ isNumber text.toList = true
  decimal : ∃ text ∈ texts, isTruth text.toList = false ∧ isWhole text.toList = false ∧
    isNumber text.toList = true

instance (texts : List String) : Decidable (AreDecimals texts) :=
  decidable_of_iff (_ ∧ _) ⟨fun h => ⟨h.1, h.2⟩, fun h => ⟨h.all, h.decimal⟩⟩

/-- A truth value stands in a column of decimal numbers. -/
structure TruthAmongDecimals (texts : List String) : Prop extends AreDecimals texts where
  truth : ∃ text ∈ texts, isTruth text.toList = true

/-- A text as it is shown in the column of certain texts. -/
def shownAmong (texts : List String) (text : String) : String :=
  if AreDecimals texts then ((looseFloat? text.toList).map Binary.shortText).getD text else text

/-- If texts are decimal numbers, then each of them is the number in six digits. -/
def IsVerbatim (texts : List String) : Prop :=
  AreDecimals texts → ∀ text ∈ texts, ∃ number, looseFloat? text.toList = some number ∧ number.shortText = text

variable {texts : List String}

/-- A text among decimal numbers is a truth value, or there is a number that it is read as. -/
theorem AreDecimals.looseFloat?_eq_none_iff {text : String} (h : AreDecimals texts) (htext : text ∈ texts) :
    looseFloat? text.toList = none ↔ isTruth text.toList = true := by
  refine ⟨fun hnone => ?_, looseFloat?_of_isTruth⟩
  rcases h.all text htext with htruth | hwhole | hnumber
  · exact htruth
  · exact absurd hnone (looseFloat?_ne_none_of_looseWhole? hwhole)
  · simp [isNumber, hnone] at hnumber

/-- Texts have a column that can be printed and shows each of them as it is exactly if they are verbatim. -/
theorem isVerbatim_iff :
    IsVerbatim texts ↔ ¬ TruthAmongDecimals texts ∧ ∀ text ∈ texts, shownAmong texts text = text := by
  by_cases hdecimals : AreDecimals texts
  · constructor
    · intro h
      refine ⟨fun htruth => ?_, fun text htext => ?_⟩
      · obtain ⟨text, htext, hword⟩ := htruth.truth
        obtain ⟨number, hnumber, -⟩ := h hdecimals text htext
        rw [looseFloat?_of_isTruth hword] at hnumber
        cases hnumber
      · obtain ⟨number, hnumber, hshort⟩ := h hdecimals text htext
        simp [shownAmong, hdecimals, hnumber, hshort]
    · rintro ⟨htruth, hshown⟩ - text htext
      cases hnumber : looseFloat? text.toList with
      | none => exact absurd ⟨hdecimals, text, htext, (hdecimals.looseFloat?_eq_none_iff htext).1 hnumber⟩ htruth
      | some number => exact ⟨number, rfl, by simpa [shownAmong, hdecimals, hnumber] using hshown text htext⟩
  · refine iff_of_true (fun h => absurd h hdecimals) ⟨fun h => hdecimals h.toAreDecimals, fun text _ => ?_⟩
    rw [shownAmong, if_neg hdecimals]

/-! ### Reading tables -/

/-- A stretch of a rule. -/
def dashes (width : Nat) : String := String.ofList (List.replicate width '-')

/-- The rows of a printed table: the tokens of its lines, apart from lines without tokens. -/
def readRows (output : String) : List (List String) :=
  (((fields '\n' output.toList).map tokens).filter fun row => row ≠ []).map (·.map String.ofList)

/-- A printed table of two columns with certain headers, a rule, and certain rows. -/
def PrintsAs (output first second : String) (rows : List (List String)) : Prop :=
  ∃ left right, 0 < left ∧ 0 < right ∧
    readRows output = [first, second] :: [dashes left, dashes right] :: rows

/-- What is known of a printer of tables with two columns of clean texts. -/
structure Tabulates (tabulate : Table → Except Fault String) : Prop where
  /-- A table is not printed exactly if a truth value is to be written as a number. -/
  fails_iff : ∀ {first second : String} {pairs : List (String × String)},
    IsClean first.toList → IsClean second.toList →
    (∀ pair ∈ pairs, IsClean pair.1.toList ∧ IsClean pair.2.toList) →
    ((∃ fault, tabulate ⟨[first, second], pairs.map fun pair => [pair.1, pair.2]⟩ = .error fault) ↔
      TruthAmongDecimals (pairs.map (·.1)) ∨ TruthAmongDecimals (pairs.map (·.2)))
  /-- What is printed is plain text, and each line of it is read as the cells of a row. -/
  prints : ∀ {first second text : String} {pairs : List (String × String)},
    IsClean first.toList → IsClean second.toList →
    (∀ pair ∈ pairs, IsClean pair.1.toList ∧ IsClean pair.2.toList) →
    tabulate ⟨[first, second], pairs.map fun pair => [pair.1, pair.2]⟩ = .ok text →
    escapeChar ∉ text.toList ∧ PrintsAs (text ++ "\n") first second
      (pairs.map fun pair => [shownAmong (pairs.map (·.1)) pair.1, shownAmong (pairs.map (·.2)) pair.2])

end Lookup
