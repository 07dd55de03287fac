import Mathlib.Data.List.Infix
import Lookup.Proofs.Text.Utf8
import Lookup.Uri.Percent

/-!
# Percent coding reads back what it writes

An encoded text consists of ASCII characters in which each byte is found again, so decoding yields the
text. Decoding is not the identity on other texts: a percent sign with two hexadecimal digits after it
is an escape, and a text with an escape is decoded to a shorter one.

## Main definitions

* `HasEscape` — a percent sign with two hexadecimal digits occurs in a text

## Main results

* `decodePercent_encodePercent` — decoding reads back an encoded text
* `decodePercent_eq_self_iff` — a text is decoded to itself exactly if it has no escape
* `length_decodePercent_lt` — an escape makes the decoded text shorter
-/

namespace Lookup.Uri

open Text

/-- A percent sign with two hexadecimal digits after it occurs in a text. -/
def HasEscape (text : List Char) : Prop :=
  ∃ a b, ['%', a, b] <:+: text ∧ (hexValue? a).isSome ∧ (hexValue? b).isSome

/-! ### Bytes of an encoded stretch -/

section

variable {c a b : Char} {rest : List Char}

theorem percentBytes_cons (h : c ≠ '%') :
    percentBytes (c :: rest) = UInt8.ofNat c.toNat :: percentBytes rest := by
  rw [percentBytes.eq_3]
  rintro a b more rfl -
  exact h rfl

theorem percentBytes_escape {high low : Nat} (ha : hexValue? a = some high)
    (hb : hexValue? b = some low) :
    percentBytes ('%' :: a :: b :: rest) =
      UInt8.ofNat (high * 16 + low) :: percentBytes rest := by
  simp only [percentBytes, ha, hb]

end

/-- A digit in base sixteen, as a capital letter from ten on, has its value. -/
theorem hexValue?_toUpper_digitChar {d : Nat} (h : d < 16) :
    hexValue? (Nat.digitChar d).toUpper = some d := by
  revert d
  decide

/-- A byte has two digits. -/
theorem hexUpper_two {n : Nat} (h : n < 256) :
    hexUpper 2 n = [(Nat.digitChar (n / 16)).toUpper, (Nat.digitChar (n % 16)).toUpper] := by
  rcases Nat.lt_or_ge n 16 with hlt | hge
  · have hdiv : n / 16 = 0 := Nat.div_eq_of_lt hlt
    rw [hexUpper, hex, Nat.toDigits_of_lt_base hlt, hdiv, Nat.mod_eq_of_lt hlt]
    rfl
  · have hdiv : n / 16 < 16 := Nat.div_lt_of_lt_mul h
    rw [hexUpper, hex, Nat.toDigits_of_base_le (by decide) hge, Nat.toDigits_of_lt_base hdiv]
    rfl

theorem isPlain_percent : isPlain '%' = false := by decide

theorem toNat_lt_of_isAlphanum {c : Char} (h : c.isAlphanum = true) : c.toNat < 128 := by
  have below : ∀ last : Char, last.toNat < 128 → c.val ≤ last.val → c.toNat < 128 :=
    fun last hlast hle => Nat.lt_of_le_of_lt (UInt32.le_iff_toNat_le.1 hle) hlast
  rcases Bool.or_eq_true_iff.1 h with hletter | hdigit
  · rcases Bool.or_eq_true_iff.1 hletter with hupper | hlower
    · exact below 'Z' (by decide) (of_decide_eq_true hupper).2
    · exact below 'z' (by decide) (of_decide_eq_true (Bool.and_eq_true_iff.1 hlower).2)
  · exact below '9' (by decide) (of_decide_eq_true (Bool.and_eq_true_iff.1 hdigit).2)

theorem toNat_lt_of_isPlain {c : Char} (h : isPlain c = true) : c.toNat < 128 := by
  rw [isPlain, Bool.or_eq_true_iff] at h
  rcases h with halphanum | hmark
  · exact toNat_lt_of_isAlphanum halphanum
  · have hmarks : ∀ d ∈ ['_', '.', '-', '~', '/'], d.toNat < 128 := by simp
    exact hmarks c (of_decide_eq_true hmark)

/-- Each byte is found again where it is encoded. -/
theorem percentBytes_encodeByte (b : UInt8) (rest : List Char) :
    percentBytes (encodeByte b ++ rest) = b :: percentBytes rest := by
  have hlt : b.toNat < 256 := b.toNat_lt
  by_cases h : b.toNat < 128 ∧ isPlain (Char.ofNat b.toNat) = true
  · have hchar : (Char.ofNat b.toNat).toNat = b.toNat := char_toNat_ofNat (by omega)
    have hplain : Char.ofNat b.toNat ≠ '%' := fun heq => by simp [heq, isPlain_percent] at h
    rw [encodeByte, if_pos (by simpa using h), List.singleton_append, percentBytes_cons hplain,
      hchar, UInt8.ofNat_toNat]
  · have hhigh := hexValue?_toUpper_digitChar (Nat.div_lt_of_lt_mul hlt : b.toNat / 16 < 16)
    have hlow := hexValue?_toUpper_digitChar (Nat.mod_lt b.toNat (by decide) : b.toNat % 16 < 16)
    rw [encodeByte, if_neg (by simpa using h), hexUpper_two hlt, List.cons_append, List.cons_append,
      List.singleton_append, percentBytes_escape hhigh hlow, Nat.div_add_mod', UInt8.ofNat_toNat]

theorem percentBytes_encode (bytes : Bytes) : percentBytes (bytes.flatMap encodeByte) = bytes := by
  induction bytes with
  | nil => rfl
  | cons b bytes ih => rw [List.flatMap_cons, percentBytes_encodeByte, ih]

/-- Encoding yields characters that stand for themselves and percent signs. -/
theorem isPlain_or_eq_of_mem_encodePercent {text : List Char} {c : Char}
    (h : c ∈ encodePercent text) : isPlain c = true ∨ c = '%' := by
  obtain ⟨b, -, hb⟩ := List.mem_flatMap.1 h
  by_cases hplain : b.toNat < 128 ∧ isPlain (Char.ofNat b.toNat) = true
  · rw [encodeByte, if_pos (by simpa using hplain)] at hb
    obtain rfl := List.mem_singleton.1 hb
    exact .inl hplain.2
  · have hdigit : ∀ d < 16, isPlain (Nat.digitChar d).toUpper = true := by decide
    have hlt : b.toNat < 256 := b.toNat_lt
    rw [encodeByte, if_neg (by simpa using hplain), hexUpper_two hlt] at hb
    rcases List.mem_cons.1 hb with rfl | hb
    · exact .inr rfl
    rcases List.mem_cons.1 hb with rfl | hb
    · exact .inl (hdigit _ (by omega))
    · obtain rfl := List.mem_singleton.1 hb
      exact .inl (hdigit _ (by omega))

theorem notMem_encodePercent {c : Char} (hplain : isPlain c = false) (hne : c ≠ '%')
    (text : List Char) : c ∉ encodePercent text := by
  intro h
  rcases isPlain_or_eq_of_mem_encodePercent h with h | h
  · exact absurd h (by simp [hplain])
  · exact hne h

theorem toNat_lt_of_mem_encodePercent {text : List Char} {c : Char} (h : c ∈ encodePercent text) :
    c.toNat < 128 := by
  rcases isPlain_or_eq_of_mem_encodePercent h with h | rfl
  · exact toNat_lt_of_isPlain h
  · decide

theorem encodePercent_cons_slash (text : List Char) :
    encodePercent ('/' :: text) = '/' :: encodePercent text := by
  rw [encodePercent, encodeUtf8, List.flatMap_cons, List.flatMap_append]
  rfl

/-! ### Decoding -/

/-- An ASCII text is decoded in one stretch. -/
theorem decodeFrom_ascii {text : List Char} (h : ∀ c ∈ text, c.toNat < 128) (held : List Char) :
    decodeFrom held text = decodeUtf8Lossy (percentBytes (held.reverse ++ text)) := by
  induction text generalizing held with
  | nil => rw [decodeFrom, List.append_nil]
  | cons c text ih =>
    rw [decodeFrom, if_pos (h c List.mem_cons_self), ih fun d hd => h d (List.mem_cons_of_mem c hd),
      List.reverse_cons, List.append_assoc, List.singleton_append]

/-- Decoding reads back an encoded text. -/
@[simp] theorem decodePercent_encodePercent (text : List Char) :
    decodePercent (encodePercent text) = text := by
  rw [decodePercent, decodeFrom_ascii fun _ => toNat_lt_of_mem_encodePercent, List.reverse_nil,
    List.nil_append, encodePercent, percentBytes_encode, decodeUtf8Lossy_encodeUtf8]

/-! ### Texts with and without an escape -/

theorem HasEscape.cons {c : Char} {text : List Char} (h : HasEscape text) : HasEscape (c :: text) := by
  obtain ⟨a, b, hpart, ha, hb⟩ := h
  exact ⟨a, b, hpart.trans (List.infix_cons_iff.2 (.inr List.infix_rfl)), ha, hb⟩

/-- The first escape is at the front of a text or behind its first character. -/
theorem hasEscape_cons_iff {c : Char} {text : List Char} :
    HasEscape (c :: text) ↔
      (∃ a b rest, c = '%' ∧ text = a :: b :: rest ∧ (hexValue? a).isSome ∧ (hexValue? b).isSome) ∨
        HasEscape text := by
  constructor
  · rintro ⟨a, b, hpart, ha, hb⟩
    rcases List.infix_cons_iff.1 hpart with hfront | hpart
    · obtain ⟨rest, hrest⟩ := hfront
      obtain ⟨hc, htext⟩ := List.cons.inj hrest
      exact .inl ⟨a, b, rest, hc.symm, htext.symm, ha, hb⟩
    · exact .inr ⟨a, b, hpart, ha, hb⟩
  · rintro (⟨a, b, rest, rfl, rfl, ha, hb⟩ | h)
    · exact ⟨a, b, (List.prefix_append ['%', a, b] rest).isInfix, ha, hb⟩
    · exact h.cons

theorem HasEscape.mono {text text' : List Char} (h : HasEscape text) (hpart : text <:+: text') :
    HasEscape text' := by
  obtain ⟨a, b, hab, ha, hb⟩ := h
  exact ⟨a, b, hab.trans hpart, ha, hb⟩

theorem toNat_lt_of_hexValue? {c : Char} (h : (hexValue? c).isSome) : c.toNat < 128 := by
  have hle : ∀ d : Char, c ≤ d → d.toNat < 128 → c.toNat < 128 := fun d hcd hd => Nat.lt_of_le_of_lt hcd hd
  by_contra hge
  have h₁ : ¬ ('0' ≤ c ∧ c ≤ '9') := fun hc => hge (hle _ hc.2 (by decide))
  have h₂ : ¬ ('a' ≤ c ∧ c ≤ 'f') := fun hc => hge (hle _ hc.2 (by decide))
  have h₃ : ¬ ('A' ≤ c ∧ c ≤ 'F') := fun hc => hge (hle _ hc.2 (by decide))
  rw [hexValue?, if_neg h₁, if_neg h₂, if_neg h₃] at h
  exact absurd h (by simp)

/-- An escape does not reach across a character that is not ASCII. -/
theorem HasEscape.of_append_cons {text rest : List Char} {c : Char} (hc : ¬ c.toNat < 128)
    (h : HasEscape (text ++ c :: rest)) : HasEscape text ∨ HasEscape rest := by
  have hhex : ¬ (hexValue? c).isSome := fun h => hc (toNat_lt_of_hexValue? h)
  induction text with
  | nil =>
    rcases hasEscape_cons_iff.1 h with ⟨_, _, _, rfl, -⟩ | h
    · exact absurd (by decide) hc
    · exact .inr h
  | cons d text ih =>
    rcases hasEscape_cons_iff.1 h with ⟨a, b, more, rfl, hmore, ha, hb⟩ | h
    · -- The character is no digit, so it is neither of the two that follow the percent sign.
      match text, hmore with
      | [], hmore => exact absurd ((List.cons.inj hmore).1 ▸ ha) hhex
      | [_], hmore => exact absurd ((List.cons.inj (List.cons.inj hmore).2).1 ▸ hb) hhex
      | a' :: b' :: text, hmore =>
        change a' :: b' :: (text ++ c :: rest) = a :: b :: more at hmore
        simp only [List.cons.injEq] at hmore
        obtain ⟨rfl, rfl, -⟩ := hmore
        exact .inl (hasEscape_cons_iff.2 (.inl ⟨_, _, text, rfl, rfl, ha, hb⟩))
    · exact (ih h).imp_left HasEscape.cons

/-- Without an escape the bytes are those of the characters. -/
theorem percentBytes_of_not_hasEscape {text : List Char} (h : ¬ HasEscape text) :
    percentBytes text = text.map fun c => UInt8.ofNat c.toNat := by
  fun_induction percentBytes text with
  | case1 => rfl
  | case2 a b rest high low hb ha =>
    have ha := Option.isSome_of_eq_some ha
    have hb := Option.isSome_of_eq_some hb
    exact absurd (hasEscape_cons_iff.2 (.inl ⟨a, b, rest, rfl, rfl, ha, hb⟩)) h
  | case3 a b rest _ ih => rw [ih (mt HasEscape.cons h), List.map_cons (l := a :: b :: rest)]
  | case4 c rest _ ih => rw [ih (mt HasEscape.cons h), List.map_cons]

theorem encodeUtf8_ascii {text : List Char} (h : ∀ c ∈ text, c.toNat < 128) :
    encodeUtf8 text = text.map fun c => UInt8.ofNat c.toNat := by
  rw [encodeUtf8, List.map_eq_flatMap]
  exact List.flatMap_congr fun c hc => encodeChar₁ (Nat.le_of_lt_succ (h c hc))

/-- A stretch of ASCII characters without an escape is decoded to itself. -/
theorem decode_percentBytes_of_not_hasEscape {text : List Char} (hascii : ∀ c ∈ text, c.toNat < 128)
    (h : ¬ HasEscape text) : decodeUtf8Lossy (percentBytes text) = text := by
  rw [percentBytes_of_not_hasEscape h, ← encodeUtf8_ascii hascii, decodeUtf8Lossy_encodeUtf8]

/-- Without an escape a text is decoded to itself. -/
theorem decodeFrom_of_not_hasEscape {held text : List Char} (hheld : ∀ c ∈ held, c.toNat < 128)
    (h : ¬ HasEscape (held.reverse ++ text)) : decodeFrom held text = held.reverse ++ text := by
  induction text generalizing held with
  | nil =>
    rw [List.append_nil] at h ⊢
    exact decode_percentBytes_of_not_hasEscape (by simpa using hheld) h
  | cons c rest ih =>
    by_cases hc : c.toNat < 128
    · have hcons : held.reverse ++ c :: rest = (c :: held).reverse ++ rest := by simp
      have hheld' : ∀ d ∈ c :: held, d.toNat < 128 := fun d hd =>
        (List.mem_cons.1 hd).elim (fun heq => heq ▸ hc) (hheld d)
      rw [decodeFrom, if_pos hc, hcons]
      exact ih hheld' (hcons ▸ h)
    · -- The character parts two stretches, neither of which has an escape of its own.
      have hleft : ¬ HasEscape held.reverse := fun hl => h (hl.mono (List.prefix_append _ _).isInfix)
      have hright : ¬ HasEscape rest := fun hr =>
        h (hr.mono ((List.suffix_cons c rest).trans (List.suffix_append _ _)).isInfix)
      have hrest : decodeFrom [] rest = rest := ih (by simp) hright
      have hstretch := decode_percentBytes_of_not_hasEscape (by simpa using hheld) hleft
      rw [decodeFrom, if_neg hc, hstretch, hrest]

theorem length_percentBytes_le (text : List Char) : (percentBytes text).length ≤ text.length := by
  fun_induction percentBytes text with
  | case1 => exact Nat.le_refl 0
  | case2 => simp only [List.length_cons]; omega
  | case3 | case4 => simp only [List.length_cons] at *; omega

theorem length_percentBytes_lt {text : List Char} (h : HasEscape text) :
    (percentBytes text).length < text.length := by
  fun_induction percentBytes text with
  | case1 => simp [HasEscape] at h
  | case2 a b rest high low _ _ =>
    have hle := length_percentBytes_le rest
    simp only [List.length_cons]
    omega
  | case3 a b rest hhex ih =>
    rcases hasEscape_cons_iff.1 h with ⟨a', b', rest', -, htext, ha, hb⟩ | h
    · simp only [List.cons.injEq] at htext
      obtain ⟨rfl, rfl, -⟩ := htext
      obtain ⟨high, hhigh⟩ := Option.isSome_iff_exists.1 ha
      obtain ⟨low, hlow⟩ := Option.isSome_iff_exists.1 hb
      exact absurd hlow (hhex high low hhigh)
    · simpa using ih h
  | case4 c rest hshape ih =>
    rcases hasEscape_cons_iff.1 h with ⟨a, b, more, hc, hmore, -⟩ | h
    · exact absurd hmore (hshape a b more hc)
    · simpa using ih h

/-- Decoding a stretch does not lengthen it. -/
theorem length_decode_percentBytes_le (text : List Char) :
    (decodeUtf8Lossy (percentBytes text)).length ≤ text.length :=
  (length_decodeUtf8Lossy_le _).trans (length_percentBytes_le text)

theorem length_decode_percentBytes_lt {text : List Char} (h : HasEscape text) :
    (decodeUtf8Lossy (percentBytes text)).length < text.length :=
  (length_decodeUtf8Lossy_le _).trans_lt (length_percentBytes_lt h)

theorem length_decodeFrom_le (held text : List Char) :
    (decodeFrom held text).length ≤ held.length + text.length := by
  induction text generalizing held with
  | nil => simpa [decodeFrom] using length_decode_percentBytes_le held.reverse
  | cons c rest ih =>
    by_cases hc : c.toNat < 128
    · have hrest := ih (c :: held)
      rw [decodeFrom, if_pos hc]
      simp only [List.length_cons] at hrest ⊢
      omega
    · have hrest := ih []
      have hheld := length_decode_percentBytes_le held.reverse
      rw [decodeFrom, if_neg hc]
      simp only [List.length_append, List.length_cons, List.length_reverse, List.length_nil]
        at hrest hheld ⊢
      omega

theorem length_decodeFrom_lt {held text : List Char} (h : HasEscape (held.reverse ++ text)) :
    (decodeFrom held text).length < held.length + text.length := by
  induction text generalizing held with
  | nil =>
    rw [List.append_nil] at h
    simpa [decodeFrom] using length_decode_percentBytes_lt h
  | cons c rest ih =>
    by_cases hc : c.toNat < 128
    · have hescape : HasEscape ((c :: held).reverse ++ rest) := by simpa using h
      have hrest := ih hescape
      rw [decodeFrom, if_pos hc]
      simp only [List.length_cons] at hrest ⊢
      omega
    · rw [decodeFrom, if_neg hc]
      -- The escape is on one side of the character, and the other side does not lengthen.
      rcases h.of_append_cons hc with hleft | hright
      · have hheld := length_decode_percentBytes_lt hleft
        have hrest := length_decodeFrom_le [] rest
        simp only [List.length_append, List.length_cons, List.length_reverse, List.length_nil]
          at hrest hheld ⊢
        omega
      · have hheld := length_decode_percentBytes_le held.reverse
        have hrest : (decodeFrom [] rest).length < 0 + rest.length := ih hright
        simp only [List.length_append, List.length_cons, List.length_reverse] at hheld ⊢
        omega

/-- An escape makes the decoded text shorter. -/
theorem length_decodePercent_lt {text : List Char} (h : HasEscape text) :
    (decodePercent text).length < text.length := by
  have hlt : (decodeFrom [] text).length < 0 + text.length := length_decodeFrom_lt h
  rwa [Nat.zero_add] at hlt

/-- A text is decoded to itself exactly if it has no escape. -/
theorem decodePercent_eq_self_iff {text : List Char} : decodePercent text = text ↔ ¬ HasEscape text := by
  constructor
  · intro h hescape
    exact Nat.lt_irrefl _ (h ▸ length_decodePercent_lt hescape)
  · intro h
    have hkept : decodeFrom [] text = [].reverse ++ text := decodeFrom_of_not_hasEscape (by simp) h
    exact hkept

end Lookup.Uri
