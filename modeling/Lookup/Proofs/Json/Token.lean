import Lookup.Proofs.Json.Grammar
import Lookup.Proofs.Text.Fields

/-!
# The tokens of JSON

Numbers are told by their characters, whose run ends where the number does. A text is read up to the quote
that closes it, and the units that it spells are put together to characters.

## Main definitions

* `Json.skip` — what stands behind white space
* `Json.isNumber` — numbers, decided
* `Json.readUnits`, `Json.ofUnits`, `Json.readText` — texts

## Main results

* `isNumber_of` — numbers of the grammar
* `readText_of_quotes` — texts of the grammar
-/

namespace Lookup.Json

open Text

variable {text rest : List Char}

/-- The text without white space in front. -/
def skip (text : List Char) : List Char := text.dropWhile isWhite

theorem skip_append (h : IsWhite text) (rest : List Char) : skip (text ++ rest) = skip rest :=
  List.dropWhile_append_of_pos h

theorem skip_eq_self (h : ∀ c ∈ text.head?, isWhite c = false) : skip text = text := by
  cases text with
  | nil => rfl
  | cons c rest => exact List.dropWhile_cons_of_neg (by simp [h c rfl])

/-! ### Numbers -/

instance (text : List Char) : Decidable (IsDigits text) :=
  inferInstanceAs (Decidable (text ≠ [] ∧ ∀ c ∈ text, c.isDigit = true))

instance (text : List Char) : Decidable (IsWhole text) :=
  inferInstanceAs (Decidable (IsDigits text ∧ (text.head? = some '0' → text = ['0'])))

instance : (text : List Char) → Decidable (IsFraction text)
  | [] => inferInstanceAs (Decidable True)
  | c :: digits => inferInstanceAs (Decidable (c = '.' ∧ IsDigits digits))

instance : (text : List Char) → Decidable (IsExponent text)
  | [] => inferInstanceAs (Decidable True)
  | c :: digits => inferInstanceAs (Decidable ((c = 'e' ∨ c = 'E') ∧ IsDigits (dropSign digits)))

/-- Whether a character occurs in numbers. -/
def isNumeric (c : Char) : Bool := c.isDigit || c = '-' || c = '+' || c = '.' || c = 'e' || c = 'E'

/-- Whether a text is a number. Its parts are told apart by the point and the mark of the exponent. -/
def isNumber (text : List Char) : Bool :=
  let unsigned := if text.head? = some '-' then text.tail else text
  let whole := unsigned.takeWhile Char.isDigit
  let rest := unsigned.dropWhile Char.isDigit
  let fraction := rest.takeWhile fun c => c.isDigit || c = '.'
  let exponent := rest.dropWhile fun c => c.isDigit || c = '.'
  decide (IsWhole whole) && decide (IsFraction fraction) && decide (IsExponent exponent)

section Parts

variable {fraction exponent digits : List Char}

theorem mem_fraction (h : IsFraction fraction) : ∀ c ∈ fraction, c.isDigit = true ∨ c = '.' := by
  cases fraction with
  | nil => simp
  | cons point digits =>
    obtain ⟨rfl, -, hdigits⟩ := h
    intro c hc
    exact (List.mem_cons.1 hc).elim .inr fun hc => .inl (hdigits c hc)

theorem head?_exponent (h : IsExponent exponent) : ∀ c ∈ exponent.head?, c = 'e' ∨ c = 'E' := by
  cases exponent with
  | nil => simp
  | cons mark digits =>
    intro c hc
    obtain rfl : mark = c := by simpa using hc
    exact h.1

/-- What comes behind the digits before the point begins with no digit. -/
theorem head?_fraction_append (hfraction : IsFraction fraction) (hexponent : IsExponent exponent) :
    ∀ c ∈ (fraction ++ exponent).head?, c.isDigit = false := by
  intro c hc
  cases fraction with
  | nil => rcases head?_exponent hexponent c hc with rfl | rfl <;> decide
  | cons point digits =>
    obtain ⟨rfl, -⟩ := hfraction
    obtain rfl : '.' = c := by simpa using hc
    decide

end Parts

theorem isNumber_of (h : IsNumber text) : isNumber text = true := by
  obtain ⟨sign, whole, fraction, exponent, hsign, hwhole, hfraction, hexponent, rfl⟩ := h
  obtain ⟨first, more, hfirst⟩ := List.exists_cons_of_ne_nil hwhole.1.1
  have hminus : first ≠ '-' := by
    rintro rfl
    have hdigit := hwhole.1.2 '-' (by simp [hfirst])
    exact absurd hdigit (by decide)
  -- Each part ends where the next one begins.
  have hunsigned : (if (sign ++ whole ++ fraction ++ exponent).head? = some '-' then
      (sign ++ whole ++ fraction ++ exponent).tail else sign ++ whole ++ fraction ++ exponent) =
        whole ++ (fraction ++ exponent) := by
    rcases hsign with rfl | rfl
    · simp [hfirst, hminus]
    · simp
  obtain ⟨htake, hdrop⟩ :=
    takeWhile_append_eq Char.isDigit hwhole.1.2 (head?_fraction_append hfraction hexponent)
  have hpoint : ∀ c ∈ exponent.head?, (c.isDigit || decide (c = '.')) = false := by
    intro c hc
    rcases head?_exponent hexponent c hc with rfl | rfl <;> decide
  obtain ⟨htake', hdrop'⟩ := takeWhile_append_eq (fun c => c.isDigit || c = '.')
    (fun c hc => by simpa using mem_fraction hfraction c hc) hpoint
  simp only [isNumber, hunsigned, htake, hdrop, htake', hdrop', decide_eq_true hwhole,
    decide_eq_true hfraction, decide_eq_true hexponent, Bool.and_self]

theorem isNumeric_of_mem (h : IsNumber text) : ∀ c ∈ text, isNumeric c = true := by
  obtain ⟨sign, whole, fraction, exponent, hsign, hwhole, hfraction, hexponent, rfl⟩ := h
  have hdigit : ∀ c : Char, c.isDigit = true → isNumeric c = true := fun c hc => by simp [isNumeric, hc]
  intro c hc
  simp only [List.mem_append] at hc
  rcases hc with ((hc | hc) | hc) | hc
  · rcases hsign with rfl | rfl
    · simp at hc
    · simp [isNumeric, List.mem_singleton.1 hc]
  · exact hdigit c (hwhole.1.2 c hc)
  · rcases mem_fraction hfraction c hc with hc | rfl
    · exact hdigit c hc
    · decide
  · cases exponent with
    | nil => simp at hc
    | cons mark digits =>
      obtain ⟨hmark, -, hdigits⟩ := hexponent
      rcases List.mem_cons.1 hc with rfl | hc
      · rcases hmark with rfl | rfl <;> decide
      · cases digits with
        | nil => simp at hc
        | cons d digits =>
          rw [dropSign] at hdigits
          split at hdigits
          · next hsign =>
            rcases List.mem_cons.1 hc with rfl | hc
            · rcases hsign with rfl | rfl <;> decide
            · exact hdigit c (hdigits c hc)
          · exact hdigit c (hdigits c hc)

/-! ### Texts -/

/-- The units between quotes up to the closing one, and what comes behind it. -/
def readUnits : List Char → Option (List Nat × List Char)
  | [] => none
  | c :: rest =>
    if c = doubleQuote then some ([], rest)
    else if c = '\\' then
      match rest with
      | [] => none
      | mark :: rest =>
        if mark = 'u' then
          match rest with
          | a :: b :: c :: d :: rest =>
            (hexUnit? a b c d).bind fun unit => (readUnits rest).map fun p => (unit :: p.1, p.2)
          | _ => none
        else (shortEscape? mark).bind fun unit => (readUnits rest).map fun p => (unit :: p.1, p.2)
    else if 0x20 ≤ c.toNat then (readUnits rest).map fun p => (units c ++ p.1, p.2)
    else none

theorem readUnits_of_spells {spelled : List Nat} (h : Spells text spelled) (rest : List Char) :
    readUnits (text ++ doubleQuote :: rest) = some (spelled, rest) := by
  have hquote : '\\' ≠ doubleQuote := by decide
  induction h with
  | nil =>
    rw [List.nil_append, readUnits.eq_def]
    exact if_pos rfl
  | plain ne_quote ne_backslash not_control _ ih =>
    rw [List.cons_append, readUnits.eq_def]
    simp only [if_neg ne_quote, if_neg ne_backslash, if_pos not_control, ih, Option.map_some]
  | @short c _ unit _ escape _ ih =>
    have hmark : c ≠ 'u' := by
      rintro rfl
      have hnone : shortEscape? 'u' = none := by decide
      rw [hnone] at escape
      cases escape
    rw [List.cons_append, List.cons_append, readUnits.eq_def]
    simp only [if_neg hquote, if_true, if_neg hmark, escape, ih, Option.bind_some, Option.map_some]
  | hex escape _ ih =>
    simp only [List.cons_append]
    rw [readUnits.eq_def]
    simp only [if_neg hquote, if_true, escape, ih, Option.bind_some, Option.map_some]

/-- The characters that units of sixteen bits stand for. Two surrogates make up one character. -/
def ofUnits : List Nat → Option (List Char)
  | [] => some []
  | unit :: rest =>
    if unit < 0xD800 ∨ 0xE000 ≤ unit then (ofUnits rest).map fun text => Char.ofNat unit :: text
    else
      match rest with
      | low :: rest =>
        (ofUnits rest).map fun text =>
          Char.ofNat (0x10000 + (unit - 0xD800) * 0x400 + (low - 0xDC00)) :: text
      | [] => none

/-- The units of a character are read as the character. -/
theorem ofUnits_units (c : Char) (spelled : List Nat) :
    ofUnits (units c ++ spelled) = (ofUnits spelled).map fun text => c :: text := by
  have hchar : Char.ofNat c.toNat = c := Char.ofNat_toNat c
  have hvalid : c.toNat < 0xD800 ∨ 0xE000 ≤ c.toNat ∧ c.toNat < 0x110000 := by
    rcases c.valid with h | ⟨hlow, hhigh⟩
    · exact .inl h
    · exact .inr ⟨hlow, hhigh⟩
  rw [units]
  split
  · have hplain : c.toNat < 0xD800 ∨ 0xE000 ≤ c.toNat := hvalid.imp_right And.left
    rw [List.singleton_append, ofUnits.eq_def]
    simp only [if_pos hplain, hchar]
  · next hlarge =>
    have hsurrogate : ¬ (0xD800 + (c.toNat - 0x10000) / 0x400 < 0xD800 ∨
        0xE000 ≤ 0xD800 + (c.toNat - 0x10000) / 0x400) := by omega
    simp only [List.cons_append, List.nil_append]
    rw [ofUnits.eq_def]
    simp only [if_neg hsurrogate]
    have hsum : 0x10000 + (0xD800 + (c.toNat - 0x10000) / 0x400 - 0xD800) * 0x400 +
        (0xDC00 + (c.toNat - 0x10000) % 0x400 - 0xDC00) = c.toNat := by
      omega
    simp only [hsum, hchar]

theorem ofUnits_flatMap_units (text : List Char) : ofUnits (text.flatMap units) = some text := by
  induction text with
  | nil => rfl
  | cons c rest ih => rw [List.flatMap_cons, ofUnits_units, ih, Option.map_some]

/-- The text between quotes up to the closing one, and what comes behind it. -/
def readText (text : List Char) : Option (String × List Char) :=
  (readUnits text).bind fun p => (ofUnits p.1).map fun value => (String.ofList value, p.2)

theorem readText_of_quotes {value : String} (h : Quotes text value) (rest : List Char) :
    readText (text ++ doubleQuote :: rest) = some (value, rest) := by
  rw [readText, readUnits_of_spells h, Option.bind_some, ofUnits_flatMap_units, Option.map_some,
    String.ofList_toList]

end Lookup.Json
