import Lookup.Proofs.Text.Fields
import Lookup.Text.Blank

/-!
# Tokens of a line

The tokens of a text are its longest stretches without white space. White space in front of a text, behind
it or between two texts does not change their tokens, so padded cells of a line have the tokens that they
have without the padding.

## Main definitions

* `tokens` — the tokens of a text
* `IsToken` — texts that are one token

## Main results

* `tokens_append_cons` — white space parts tokens
* `tokens_strip`, `tokens_stripEnd` — white space at the ends does not count
* `tokens_of_isToken` — a token is its only one
-/

namespace Lookup.Text

variable {c : Char} {text white : List Char}

/-- The longest stretches of a text without white space. -/
def tokens (text : List Char) : List (List Char) :=
  (text.splitOnP isBlank).filter fun part => part ≠ []

/-- A text that is not empty and has no white space. -/
structure IsToken (text : List Char) : Prop where
  ne_nil : text ≠ []
  notBlank : ∀ c ∈ text, isBlank c = false

@[simp] theorem tokens_nil : tokens [] = [] := rfl

/-- White space parts tokens. -/
theorem tokens_append_cons (h : isBlank c = true) (text rest : List Char) :
    tokens (text ++ c :: rest) = tokens text ++ tokens rest := by
  rw [tokens, List.splitOnP_append_cons text rest h, List.filter_append]
  rfl

/-- White space behind a text does not change its tokens. -/
theorem tokens_append_white (h : ∀ c ∈ white, isBlank c = true) (text : List Char) :
    tokens (text ++ white) = tokens text := by
  induction white generalizing text with
  | nil => rw [List.append_nil]
  | cons c white ih =>
    obtain ⟨hc, hwhite⟩ := List.forall_mem_cons.1 h
    have hnone : tokens white = [] := ih hwhite []
    rw [tokens_append_cons hc, hnone, List.append_nil]

/-- White space in front of a text does not change its tokens. -/
theorem tokens_white_append (h : ∀ c ∈ white, isBlank c = true) (text : List Char) :
    tokens (white ++ text) = tokens text := by
  induction white with
  | nil => rw [List.nil_append]
  | cons c white ih =>
    obtain ⟨hc, hwhite⟩ := List.forall_mem_cons.1 h
    have hparted : tokens ([] ++ c :: (white ++ text)) = tokens [] ++ tokens (white ++ text) :=
      tokens_append_cons hc [] (white ++ text)
    exact hparted.trans (ih hwhite)

/-- White space between two texts parts their tokens. -/
theorem tokens_append_white_append (h : ∀ c ∈ white, isBlank c = true) (hne : white ≠ [])
    (text rest : List Char) : tokens (text ++ white ++ rest) = tokens text ++ tokens rest := by
  obtain ⟨c, white, rfl⟩ := List.exists_cons_of_ne_nil hne
  obtain ⟨hc, hwhite⟩ := List.forall_mem_cons.1 h
  rw [List.append_assoc, List.cons_append, tokens_append_cons hc, tokens_white_append hwhite]

theorem tokens_strip (text : List Char) : tokens (strip text) = tokens text := by
  obtain ⟨front, back, hfront, hback, htext⟩ := exists_trimBoth isBlank text
  conv_rhs => rw [htext, List.append_assoc, tokens_white_append hfront, tokens_append_white hback]
  rfl

theorem tokens_stripEnd (text : List Char) : tokens (stripEnd text) = tokens text := by
  obtain ⟨back, hback, htext⟩ := exists_trimEnd isBlank text
  conv_rhs => rw [htext, tokens_append_white hback]
  rfl

theorem tokens_of_isToken (h : IsToken text) : tokens text = [text] := by
  rw [tokens, List.splitOnP_eq_singleton h.notBlank]
  exact List.filter_cons_of_pos (by simpa using h.ne_nil)

end Lookup.Text
