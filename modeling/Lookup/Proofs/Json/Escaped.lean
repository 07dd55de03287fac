import Mathlib.Data.Nat.Digits.Defs
import Lookup.Proofs.Json.Grammar
import Lookup.Text.Terminal

/-!
# Texts in documents

A text is written between quotes in ASCII: each character is written by itself, by a mark behind a
backslash, or by the digits of its units.

## Main definitions

* `Json.isPlain` — the characters of written documents

## Main results

* `hexUnit?_digits` — four digits stand for the unit that they are the digits of
* `quotes_escaped` — a text is written by what it stands for
* `all_isPlain_quoted` — a text is written in ASCII
-/

namespace Lookup.Json

open Text

/-! ### Units -/

/-- A further digit on the left is that of the next power of sixteen. -/
theorem hex_succ {width : Nat} (h : 0 < width) (n : Nat) :
    hex (width + 1) n = hex width (n / 16) ++ [Nat.digitChar (n % 16)] := by
  by_cases hsmall : n < 16
  · obtain ⟨width, rfl⟩ := Nat.exists_eq_succ_of_ne_zero h.ne'
    rw [hex, hex, Nat.toDigits_of_lt_base hsmall, Nat.div_eq_of_lt hsmall, Nat.mod_eq_of_lt hsmall]
    simp [List.replicate_succ']
  · rw [hex, hex, Nat.toDigits_of_base_le (by decide) (not_lt.1 hsmall)]
    simp

theorem hexValue?_digitChar {d : Nat} (h : d < 16) : hexValue? (Nat.digitChar d) = some d := by
  revert d
  decide

theorem hex_four {unit : Nat} (h : unit < 0x10000) :
    hex 4 unit = [Nat.digitChar (unit / 16 / 16 / 16), Nat.digitChar (unit / 16 / 16 % 16),
      Nat.digitChar (unit / 16 % 16), Nat.digitChar (unit % 16)] := by
  have hfirst : hex 1 (unit / 16 / 16 / 16) = [Nat.digitChar (unit / 16 / 16 / 16)] := by
    rw [hex, Nat.toDigits_of_lt_base (by omega)]
    rfl
  rw [hex_succ (by decide), hex_succ (by decide), hex_succ (by decide), hfirst]
  rfl

/-- The digits of a unit stand for it. -/
theorem hexUnit?_digits {unit : Nat} (h : unit < 0x10000) :
    hexUnit? (Nat.digitChar (unit / 16 / 16 / 16)) (Nat.digitChar (unit / 16 / 16 % 16))
      (Nat.digitChar (unit / 16 % 16)) (Nat.digitChar (unit % 16)) = some unit := by
  simp only [hexUnit?, hexValue?_digitChar (by omega : unit / 16 / 16 / 16 < 16),
    hexValue?_digitChar (Nat.mod_lt _ (by decide))]
  congr 1
  omega

theorem lt_of_mem_units {c : Char} {unit : Nat} (h : unit ∈ units c) : unit < 0x10000 := by
  have hchar : c.toNat < 0x110000 := by
    rcases c.valid with hvalid | ⟨-, hvalid⟩
    · exact Nat.lt_trans hvalid (by decide)
    · exact hvalid
  rw [units] at h
  split at h
  · next hsmall => exact List.mem_singleton.1 h ▸ hsmall
  · simp only [List.mem_cons, List.not_mem_nil, or_false] at h
    omega

/-! ### What a text is written by -/

section Texts

variable {text : List Char} {rest : List Nat}

/-- Units that are written by their digits. -/
theorem spells_hex {spelled : List Nat} (h : ∀ unit ∈ spelled, unit < 0x10000)
    (tail : Spells text rest) :
    Spells ((spelled.flatMap fun unit => '\\' :: 'u' :: hex 4 unit) ++ text) (spelled ++ rest) := by
  induction spelled with
  | nil => exact tail
  | cons unit spelled ih =>
    obtain ⟨hunit, hspelled⟩ := List.forall_mem_cons.1 h
    rw [List.flatMap_cons, hex_four hunit]
    exact .hex (hexUnit?_digits hunit) (ih hspelled)

/-- A character is written as its units. -/
theorem spells_escaped (c : Char) (tail : Spells text rest) :
    Spells (escaped c ++ text) (units c ++ rest) := by
  have hshort : ∀ {mark c : Char}, shortEscape? mark = some c.toNat → c.toNat < 0x10000 →
      Spells ('\\' :: mark :: text) (units c ++ rest) := by
    intro mark c hmark hsmall
    rw [units, if_pos hsmall]
    exact .short hmark tail
  rw [escaped]
  split_ifs with hquote hbackslash hn hr ht hb hf hplain
  · subst hquote
    exact hshort (by decide) (by decide)
  · subst hbackslash
    exact hshort (by decide) (by decide)
  · subst hn
    exact hshort (by decide) (by decide)
  · subst hr
    exact hshort (by decide) (by decide)
  · subst ht
    exact hshort (by decide) (by decide)
  · subst hb
    exact hshort (by decide) (by decide)
  · subst hf
    exact hshort (by decide) (by decide)
  · exact .plain hquote hbackslash hplain.1 tail
  · exact spells_hex (fun _ => lt_of_mem_units) tail

end Texts

/-- A text is written by what it stands for. -/
theorem quotes_escaped (value : String) : Quotes (value.toList.flatMap escaped) value := by
  rw [Quotes]
  induction value.toList with
  | nil => exact .nil
  | cons c text ih =>
    rw [List.flatMap_cons, List.flatMap_cons]
    exact spells_escaped c ih

/-! ### Characters -/

/-- Whether a character is a line break or is shown in ASCII. -/
def isPlain (c : Char) : Bool := c = '\n' || within 0x20 0x7E c

theorem isPlain_digitChar {d : Nat} (h : d < 16) : isPlain (Nat.digitChar d) = true := by
  revert d
  decide

theorem all_isPlain_escaped (c : Char) : (escaped c).all isPlain = true := by
  rw [escaped]
  split_ifs with hquote hbackslash hn hr ht hb hf hplain
  · decide
  · decide
  · decide
  · decide
  · decide
  · decide
  · decide
  · simp only [List.all_cons, List.all_nil, isPlain, within, Bool.and_true, Bool.or_eq_true,
      Bool.and_eq_true, decide_eq_true_eq]
    omega
  · refine List.all_eq_true.2 fun d hd => ?_
    obtain ⟨unit, hunit, hd⟩ := List.mem_flatMap.1 hd
    rw [hex_four (lt_of_mem_units hunit)] at hd
    simp only [List.mem_cons, List.not_mem_nil, or_false] at hd
    rcases hd with rfl | rfl | rfl | rfl | rfl | rfl
    · decide
    · decide
    · exact isPlain_digitChar (by have := lt_of_mem_units hunit; omega)
    · exact isPlain_digitChar (by omega)
    · exact isPlain_digitChar (by omega)
    · exact isPlain_digitChar (by omega)

theorem all_isPlain_quoted (text : String) : (quoted text).all isPlain = true := by
  have hquote : isPlain doubleQuote = true := by decide
  simp [quoted, List.all_flatMap, all_isPlain_escaped, hquote]

end Lookup.Json
