import Lookup.Text.Terminal

/-!
# Texts without control sequences

Sequences for colours and the cursor begin with the escape character. A text without it is left as it is.

## Main results

* `dropColours_eq_self` — texts without the escape character
-/

namespace Lookup.Text

theorem colourLength?_eq_none {c : Char} (h : c ≠ escapeChar) (rest : List Char) :
    colourLength? (c :: rest) = none := by
  rw [colourLength?.eq_def]
  split
  · next heq => exact absurd (List.cons.inj heq).1 h
  · rfl

theorem dropColoursAfter_eq_self {text : List Char} (h : escapeChar ∉ text) :
    dropColoursAfter 0 text = text := by
  induction text with
  | nil => rfl
  | cons c rest ih =>
    have hc : c ≠ escapeChar := fun heq => h (heq ▸ List.mem_cons_self)
    rw [dropColoursAfter]
    simp only [colourLength?_eq_none hc, ih fun hrest => h (List.mem_cons_of_mem c hrest)]

/-- A text without the escape character has no sequences for colours or the cursor. -/
theorem dropColours_eq_self {text : String} (h : escapeChar ∉ text.toList) : dropColours text = text := by
  rw [dropColours, dropColoursAfter_eq_self h, String.ofList_toList]

end Lookup.Text
