import Mathlib.Tactic.SplitIfs
import Lookup.Text.Encoding

/-!
# UTF-8 reads back what it writes

The bytes of a character take the reader from between two characters to between two characters and
make it yield the character. So a text encoded as UTF-8 is decoded to itself, by the strict decoder
and by the lenient one, and the lenient one yields no more characters than there are bytes.

## Main results

* `utf8Pieces_encodeChar` — reading the bytes of a character
* `utf8Pieces_encodeUtf8` — reading the bytes of a text
* `decodeUtf8Lossy_encodeUtf8` — the lenient decoder reads back an encoded text
* `head?_decodeUtf8Lossy_eq_iff` — which bytes are decoded to an ASCII character first
* `length_decodeUtf8Lossy_le` — decoding does not lengthen
-/

namespace Lookup.Text

variable {b : UInt8} {p : Unfinished} {rest : Bytes}

/-! ### One byte -/

section

attribute [local simp] utf8Pieces utf8Start

theorem utf8Pieces_ascii (h : b.toNat < 0x80) :
    utf8Pieces none (b :: rest) = some (Char.ofNat b.toNat) :: utf8Pieces none rest := by
  simp [h]

/-- The first of two bytes. -/
theorem utf8Pieces_lead₂ (hlow : 0xC2 ≤ b.toNat) (hhigh : b.toNat < 0xE0) :
    utf8Pieces none (b :: rest) = utf8Pieces (some ⟨0, 0x80, 0xBF, b.toNat - 0xC0⟩) rest := by
  have h₁ : ¬ b.toNat < 0x80 := by omega
  have h₂ : ¬ b.toNat < 0xC2 := by omega
  simp [h₁, h₂, hhigh]

/-- The first of three bytes. -/
theorem utf8Pieces_lead₃ (hlow : 0xE0 ≤ b.toNat) (hhigh : b.toNat < 0xF0) :
    utf8Pieces none (b :: rest) =
      utf8Pieces (some ⟨1, if b.toNat = 0xE0 then 0xA0 else 0x80,
        if b.toNat = 0xED then 0x9F else 0xBF, b.toNat - 0xE0⟩) rest := by
  have h₁ : ¬ b.toNat < 0x80 := by omega
  have h₂ : ¬ b.toNat < 0xC2 := by omega
  have h₃ : ¬ b.toNat < 0xE0 := by omega
  simp [h₁, h₂, h₃, hhigh]

/-- The first of four bytes. -/
theorem utf8Pieces_lead₄ (hlow : 0xF0 ≤ b.toNat) (hhigh : b.toNat < 0xF5) :
    utf8Pieces none (b :: rest) =
      utf8Pieces (some ⟨2, if b.toNat = 0xF0 then 0x90 else 0x80,
        if b.toNat = 0xF4 then 0x8F else 0xBF, b.toNat - 0xF0⟩) rest := by
  have h₁ : ¬ b.toNat < 0x80 := by omega
  have h₂ : ¬ b.toNat < 0xC2 := by omega
  have h₃ : ¬ b.toNat < 0xE0 := by omega
  have h₄ : ¬ b.toNat < 0xF0 := by omega
  simp [h₁, h₂, h₃, h₄, hhigh]

/-- A byte after which more are owed. -/
theorem utf8Pieces_tail {owed low high value : Nat} (hlow : low ≤ b.toNat) (hhigh : b.toNat ≤ high) :
    utf8Pieces (some ⟨owed + 1, low, high, value⟩) (b :: rest) =
      utf8Pieces (some ⟨owed, 0x80, 0xBF, value * 64 + (b.toNat - 0x80)⟩) rest := by
  simp [hlow, hhigh]

/-- The last byte of a character. -/
theorem utf8Pieces_last {low high value : Nat} (hlow : low ≤ b.toNat) (hhigh : b.toNat ≤ high) :
    utf8Pieces (some ⟨0, low, high, value⟩) (b :: rest) =
      some (Char.ofNat (value * 64 + (b.toNat - 0x80))) :: utf8Pieces none rest := by
  simp [hlow, hhigh]

end

/-! ### One character -/

/-- The value of a character is below `0x110000` and is not that of a surrogate. -/
theorem toNat_char_valid (c : Char) :
    c.toNat < 0xD800 ∨ (0xDFFF < c.toNat ∧ c.toNat < 0x110000) := c.valid

theorem char_toNat_ofNat {n : Nat} (h : n < 0xD800) : (Char.ofNat n).toNat = n := by
  rw [Char.ofNat, dif_pos (.inl h)]
  rfl

theorem toNat_ofNat_of_lt {n : Nat} (h : n < 256) : (UInt8.ofNat n).toNat = n :=
  UInt8.toNat_ofNat_of_lt' h

section

variable {c : Char}

theorem encodeChar₁ (h : c.toNat ≤ 0x7F) :
    String.utf8EncodeChar c = [UInt8.ofNat c.toNat] := if_pos h

theorem encodeChar₂ (hlow : ¬ c.toNat ≤ 0x7F) (hhigh : c.toNat ≤ 0x7FF) :
    String.utf8EncodeChar c =
      [UInt8.ofNat (c.toNat / 64 % 0x20 + 0xC0), UInt8.ofNat (c.toNat % 0x40 + 0x80)] :=
  (if_neg hlow).trans (if_pos hhigh)

theorem encodeChar₃ (hlow : ¬ c.toNat ≤ 0x7FF) (hhigh : c.toNat ≤ 0xFFFF) :
    String.utf8EncodeChar c =
      [UInt8.ofNat (c.toNat / 4096 % 0x10 + 0xE0), UInt8.ofNat (c.toNat / 64 % 0x40 + 0x80),
        UInt8.ofNat (c.toNat % 0x40 + 0x80)] :=
  (if_neg fun h => hlow (Nat.le_trans h (by decide))).trans ((if_neg hlow).trans (if_pos hhigh))

theorem encodeChar₄ (hlow : ¬ c.toNat ≤ 0xFFFF) :
    String.utf8EncodeChar c =
      [UInt8.ofNat (c.toNat / 262144 % 0x08 + 0xF0), UInt8.ofNat (c.toNat / 4096 % 0x40 + 0x80),
        UInt8.ofNat (c.toNat / 64 % 0x40 + 0x80), UInt8.ofNat (c.toNat % 0x40 + 0x80)] :=
  (if_neg fun h => hlow (Nat.le_trans h (by decide))).trans
    ((if_neg fun h => hlow (Nat.le_trans h (by decide))).trans (if_neg hlow))

end

/-- Reading the bytes of a character yields the character. -/
theorem utf8Pieces_encodeChar (c : Char) (rest : Bytes) :
    utf8Pieces none (String.utf8EncodeChar c ++ rest) = some c :: utf8Pieces none rest := by
  have hvalid := toNat_char_valid c
  have hchar : ∀ n, n = c.toNat → Char.ofNat n = c := fun n hn => hn ▸ Char.ofNat_toNat c
  -- The bytes that follow the first one have six bits each.
  have hlast := toNat_ofNat_of_lt (n := c.toNat % 0x40 + 0x80) (by omega)
  have hmiddle := toNat_ofNat_of_lt (n := c.toNat / 64 % 0x40 + 0x80) (by omega)
  have hsecond := toNat_ofNat_of_lt (n := c.toNat / 4096 % 0x40 + 0x80) (by omega)
  by_cases h₁ : c.toNat ≤ 0x7F
  · have hfirst : (UInt8.ofNat c.toNat).toNat = c.toNat := toNat_ofNat_of_lt (by omega)
    rw [encodeChar₁ h₁, List.singleton_append, utf8Pieces_ascii (by omega), hchar _ hfirst]
  by_cases h₂ : c.toNat ≤ 0x7FF
  · have hfirst := toNat_ofNat_of_lt (n := c.toNat / 64 % 0x20 + 0xC0) (by omega)
    rw [encodeChar₂ h₁ h₂, List.cons_append, List.singleton_append,
      utf8Pieces_lead₂ (by omega) (by omega), utf8Pieces_last (by omega) (by omega),
      hchar _ (by omega)]
  by_cases h₃ : c.toNat ≤ 0xFFFF
  · have hfirst := toNat_ofNat_of_lt (n := c.toNat / 4096 % 0x10 + 0xE0) (by omega)
    rw [encodeChar₃ h₂ h₃, List.cons_append, List.cons_append, List.singleton_append,
      utf8Pieces_lead₃ (by omega) (by omega),
      utf8Pieces_tail (by split <;> omega) (by split <;> omega),
      utf8Pieces_last (by omega) (by omega), hchar _ (by omega)]
  · have hfirst := toNat_ofNat_of_lt (n := c.toNat / 262144 % 0x08 + 0xF0) (by omega)
    rw [encodeChar₄ h₃, List.cons_append, List.cons_append, List.cons_append,
      List.singleton_append, utf8Pieces_lead₄ (by omega) (by omega),
      utf8Pieces_tail (by split <;> omega) (by split <;> omega),
      utf8Pieces_tail (by omega) (by omega), utf8Pieces_last (by omega) (by omega),
      hchar _ (by omega)]

/-! ### Texts -/

/-- Reading the bytes of a text yields its characters. -/
theorem utf8Pieces_encodeUtf8 (text : List Char) :
    utf8Pieces none (encodeUtf8 text) = text.map some := by
  induction text with
  | nil => rfl
  | cons c text ih =>
    rw [encodeUtf8, List.flatMap_cons, utf8Pieces_encodeChar]
    exact congrArg (some c :: ·) ih

/-- The lenient decoder reads back an encoded text. -/
@[simp] theorem decodeUtf8Lossy_encodeUtf8 (text : List Char) :
    decodeUtf8Lossy (encodeUtf8 text) = text := by
  rw [decodeUtf8Lossy, utf8Pieces_encodeUtf8, List.map_map]
  exact List.map_id text

/-! ### The first character -/

/-- Inside a character that is not ASCII: the least value that it may have, with the bits of the next byte,
is that of a longer form. -/
structure Unfinished.IsWide (p : Unfinished) : Prop where
  ne_small : 2 ≤ p.value * 64 + (p.low - 0x80)
  last : p.owed = 0 → 0x80 ≤ p.value * 64 + (p.low - 0x80)

theorem isWide_of_utf8Start {n : Nat} (h : utf8Start n = .ok (.inr p)) : p.IsWide := by
  simp only [utf8Start] at h
  split_ifs at h
  · cases Except.ok.inj h
  all_goals
    obtain rfl := Sum.inr.inj (Except.ok.inj h)
    constructor
    all_goals
      dsimp only
      omega

/-- A character that is not ASCII, or is broken, does not begin like one that is. -/
theorem head?_utf8Pieces_ne {c : Char} (hpos : 0 < c.toNat) (hlt : c.toNat < 0x80) (hp : p.IsWide)
    (bytes : Bytes) : (utf8Pieces (some p) bytes).head? ≠ some (some c) := by
  induction bytes generalizing p with
  | nil => simp [utf8Pieces]
  | cons b rest ih =>
    by_cases hrange : p.low ≤ b.toNat ∧ b.toNat ≤ p.high
    · obtain ⟨owed, low, high, value⟩ := p
      obtain ⟨hsmall, hlast⟩ := hp
      dsimp only at hrange hsmall hlast
      cases owed with
      | zero =>
        rw [utf8Pieces_last hrange.1 hrange.2, List.head?_cons]
        -- The value is beyond ASCII, or that of no character.
        intro heq
        have hvalue : 0x80 ≤ value * 64 + (b.toNat - 0x80) := by
          have hle := hlast rfl
          omega
        have hchar := Option.some.inj (Option.some.inj heq)
        by_cases hvalid : (value * 64 + (b.toNat - 0x80)).isValidChar
        · rw [Char.ofNat, dif_pos hvalid] at hchar
          have hnat : value * 64 + (b.toNat - 0x80) = c.toNat := by
            rw [← hchar]
            rfl
          omega
        · rw [Char.ofNat, dif_neg hvalid] at hchar
          rw [← hchar] at hpos
          exact absurd hpos (by decide)
      | succ owed =>
        rw [utf8Pieces_tail hrange.1 hrange.2]
        refine ih ⟨?_, fun _ => ?_⟩
        all_goals
          dsimp only
          omega
    · rw [utf8Pieces, if_neg hrange]
      split <;> simp

/-- The lenient decoder yields an ASCII character first exactly for its byte. -/
theorem head?_decodeUtf8Lossy_eq_iff {c : Char} (hpos : 0 < c.toNat) (hlt : c.toNat < 0x80)
    (bytes : Bytes) :
    (decodeUtf8Lossy bytes).head? = some c ↔ bytes.head? = some (UInt8.ofNat c.toNat) := by
  have hlost : ∀ piece : Option Char, piece.getD (Char.ofNat 0xFFFD) = c ↔ piece = some c := by
    intro piece
    cases piece with
    | some d => simp
    | none =>
      simp only [Option.getD_none, reduceCtorEq, iff_false]
      rintro rfl
      exact absurd hlt (by decide)
  have hpieces : (decodeUtf8Lossy bytes).head? = some c ↔
      (utf8Pieces none bytes).head? = some (some c) := by
    rw [decodeUtf8Lossy, List.head?_map]
    cases (utf8Pieces none bytes).head? with
    | none => simp
    | some piece => simp [hlost]
  rw [hpieces]
  cases bytes with
  | nil => simp [utf8Pieces]
  | cons b rest =>
    have hbyte : b = UInt8.ofNat c.toNat ↔ b.toNat = c.toNat := by
      rw [← UInt8.toNat_inj, toNat_ofNat_of_lt (by omega)]
    rw [List.head?_cons, Option.some_inj, hbyte]
    by_cases hascii : b.toNat < 0x80
    · rw [utf8Pieces_ascii hascii, List.head?_cons, Option.some_inj, Option.some_inj]
      constructor
      · rintro rfl
        exact (char_toNat_ofNat (by omega)).symm
      · rintro heq
        rw [heq, Char.ofNat_toNat]
    · have hne : b.toNat ≠ c.toNat := by omega
      simp only [hne, iff_false]
      rw [utf8Pieces]
      match hstart : utf8Start b.toNat with
      | .ok (.inl d) =>
        simp only [utf8Start, if_neg hascii] at hstart
        split_ifs at hstart
        all_goals cases hstart
      | .ok (.inr p) => exact head?_utf8Pieces_ne hpos hlt (isWide_of_utf8Start hstart) rest
      | .error () => simp

/-! ### Lengths -/

/-- Between two characters no more pieces are left than bytes; inside a character, one more. -/
theorem length_utf8Pieces_le (state : Option Unfinished) (bytes : Bytes) :
    (utf8Pieces state bytes).length ≤ bytes.length + state.toList.length := by
  fun_induction utf8Pieces state bytes <;> simp_all <;> omega

/-- Decoding does not lengthen. -/
theorem length_decodeUtf8Lossy_le (bytes : Bytes) :
    (decodeUtf8Lossy bytes).length ≤ bytes.length := by
  simpa [decodeUtf8Lossy] using length_utf8Pieces_le none bytes

end Lookup.Text
