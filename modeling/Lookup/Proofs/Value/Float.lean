import Lookup.Proofs.Number.Narrowing
import Lookup.Proofs.Number.Numeral
import Lookup.Time.Almanac

/-!
# Floating-point numbers from their texts

The texts of numerals are taken, with white space around and a letter for a type behind, and no others. In double
precision such a text is the number nearest to what the numeral says. In single precision it is the number nearest
to that one, which is the nearest one itself unless double precision has put the numeral halfway between two
numbers of single precision.

## Main results

* `Registry.convert_float64_isNearest` — conversion to double precision
* `Registry.convert_float32_isNearest` — conversion to single precision by way of double precision
* `Registry.not_forall_convert_float32_isNearest` — a numeral of which that is not the nearest number
-/

namespace Lookup

open Number Text

/-! ### The bounds -/

theorem sub_one_mul_two_pow (a b : Nat) : ((2 ^ a - 1 : Nat) : ℚ) * 2 ^ b = 2 ^ (a + b) - 2 ^ b := by
  rw [Nat.cast_sub Nat.one_le_two_pow, pow_add]
  push_cast
  ring

theorem bound_binary64 : binary64.bound = 2 ^ 1024 - 2 ^ 970 := by
  have hbound : binary64.bound = ((2 ^ 54 - 1 : Nat) : ℚ) * 2 ^ 970 := rfl
  rw [hbound, sub_one_mul_two_pow]

theorem bound_binary32 : binary32.bound = 2 ^ 128 - 2 ^ 103 := by
  have hbound : binary32.bound = ((2 ^ 25 - 1 : Nat) : ℚ) * 2 ^ 103 := rfl
  rw [hbound, sub_one_mul_two_pow]

variable {ε : Type} {numeral : Numeral} {x d s : Binary} {text : String}

namespace Registry

variable (registry : Registry ε)

/-- A type that takes the texts of numerals refuses all others. -/
theorem TakesExactly.refuses_iff_not_isFloat {registry : Registry ε} {tag : Tag} {make : Binary → Value}
    {read : Numeral → Binary}
    (h : registry.TakesExactly tag make fun x text => ∃ numeral, x = read numeral ∧ IsFloat numeral text.toList)
    (text : String) : registry.Refuses tag text ↔ ¬ ∃ numeral, IsFloat numeral text.toList := by
  rw [h.refuses_iff, not_iff_not]
  exact ⟨fun ⟨_, numeral, _, hfloat⟩ => ⟨numeral, hfloat⟩, fun ⟨numeral, hfloat⟩ => ⟨_, numeral, rfl, hfloat⟩⟩

theorem takesExactly_float64 :
    registry.TakesExactly .float64 .number fun x text => ∃ numeral, x = numeral.round ∧ IsFloat numeral text.toList :=
  registry.takesExactly_of_read (fun _ => rfl) fun _ _ => readFloat64_eq_ok_iff

theorem readFloat32_eq_ok_iff :
    readFloat32 text = .ok s ↔
      ∃ numeral, s = numeral.round.roundTo binary32 ∧ IsFloat numeral text.toList := by
  rw [readFloat32]
  constructor
  · intro h
    cases hread : readFloat64 text with
    | error reason =>
      rw [hread] at h
      cases h
    | ok x =>
      rw [hread] at h
      obtain ⟨numeral, rfl, hfloat⟩ := readFloat64_eq_ok_iff.1 hread
      exact ⟨numeral, (Except.ok.inj h).symm, hfloat⟩
  · rintro ⟨numeral, rfl, hfloat⟩
    rw [readFloat64_eq_ok_iff.2 ⟨numeral, rfl, hfloat⟩]
    rfl

theorem takesExactly_float32 :
    registry.TakesExactly .float32 (fun s => .number (widen s)) fun s text =>
      ∃ numeral, s = numeral.round.roundTo binary32 ∧ IsFloat numeral text.toList :=
  registry.takesExactly_of_read (fun _ => rfl) fun _ _ => readFloat32_eq_ok_iff

/-! ### Double precision -/

theorem convert_float64_of_isFloat (h : IsFloat numeral text.toList) :
    registry.convert (.tag .float64) text = .ok (.number numeral.round) :=
  (registry.takesExactly_float64.convert_iff _ _).2 ⟨_, rfl, numeral, rfl, h⟩

theorem convert_float64_eq_infinite_iff {negative : Bool} {c : Nat} {k : Int}
    (h : IsFloat (.decimal negative c k) text.toList) :
    registry.convert (.tag .float64) text = .ok (.number (.infinite negative)) ↔
      (2 ^ 1024 - 2 ^ 970 : ℚ) ≤ c * 10 ^ k := by
  have hround := (Numeral.decimal negative c k).rounds_round
  rw [registry.convert_float64_of_isFloat h, ← bound_binary64]
  constructor
  · intro heq
    simp only [Except.ok.injEq, Value.number.injEq] at heq
    rw [heq] at hround
    obtain _ | _ | ⟨⟨⟩ | ⟨hle⟩⟩ := hround
    exact hle
  · intro hle
    rw [hround.unique (.decimal (.infinite hle)) (by decide)]

/-- The texts of numerals are taken, and no others. Each is the number of double precision nearest to what its digits
say, a tie going to the even significand. It is an infinity just from halfway behind the greatest number on. Its bits
stand for it, and white space around and a letter for a type behind make no difference. -/
theorem convert_float64_isNearest :
    (∀ text, registry.Refuses .float64 text ↔ ¬ ∃ numeral, IsFloat numeral text.toList) ∧
    (∀ text numeral, IsFloat numeral text.toList → ∃ x, registry.convert (.tag .float64) text = .ok (.number x) ∧
      binary64.RoundsNumeral numeral x ∧ x.bits64 < 2 ^ 64 ∧ Binary.ofBits64 x.bits64 = x) ∧
    (∀ text negative c k, IsFloat (.decimal negative c k) text.toList →
      (registry.convert (.tag .float64) text = .ok (.number (.infinite negative)) ↔
        (2 ^ 1024 - 2 ^ 970 : ℚ) ≤ c * 10 ^ k)) ∧
    ∀ numeral front body suffix back, (∀ c ∈ front, isBlank c = true) → IsNumeral numeral body →
      IsTypeSuffix suffix → (∀ c ∈ back, isBlank c = true) →
      registry.convert (.tag .float64) (String.ofList (front ++ (body ++ suffix) ++ back)) =
        registry.convert (.tag .float64) (String.ofList body) := by
  refine ⟨registry.takesExactly_float64.refuses_iff_not_isFloat, fun text numeral h => ?_,
    fun text negative c k h => ?_, ?_⟩
  · have hround := numeral.rounds_round
    exact ⟨_, registry.convert_float64_of_isFloat h, hround, Binary.bits64_lt hround.has,
      Binary.ofBits64_bits64 hround.has⟩
  · exact registry.convert_float64_eq_infinite_iff h
  · intro numeral front body suffix back isFront isNumeral isSuffix isBack
    have hfloat : IsFloat numeral (String.ofList (front ++ (body ++ suffix) ++ back)).toList := by
      rw [String.toList_ofList]
      exact .intro isFront isNumeral isSuffix isBack
    have hplain : IsFloat numeral (String.ofList body).toList := by
      rw [String.toList_ofList]
      exact isNumeral.isFloat
    rw [registry.convert_float64_of_isFloat hfloat, registry.convert_float64_of_isFloat hplain]

/-- A numeral beyond all numbers, with a letter for a type behind it and with two. -/
theorem convert_float64_huge :
    IsFloat (.decimal true 1 400) "\t-1e400D ".toList ∧
    (builtin Time.almanac : Registry Empty).convert (.tag .float64) "\t-1e400D " = .ok (.number (.infinite true)) ∧
    (builtin Time.almanac : Registry Empty).Refuses .float64 "1e400DD" := by
  obtain ⟨hrefuses, -, hinfinite, -⟩ := convert_float64_isNearest (builtin Time.almanac : Registry Empty)
  have hfloat : IsFloat (.decimal true 1 400) "\t-1e400D ".toList := parse?_strip_eq_some_iff.1 (by decide)
  refine ⟨hfloat, (hinfinite _ _ _ _ hfloat).2 ?_, (hrefuses _).2 ?_⟩
  · rw [← bound_binary64, Nat.cast_one, one_mul]
    exact bound_binary64_le
  · exact not_isFloat_of_parse? (by decide)

/-! ### Single precision -/

/-- The texts of numerals are taken, and no others. Each decimal is the number of single precision nearest to its
number of double precision, a tie going to the even significand, with the sign that is written. It is an infinity
just if double precision is halfway behind the greatest number or further. So it is the number of single precision
nearest to the decimal, unless double precision is halfway between two numbers and the tie goes to the one on the
other side of the decimal. -/
theorem convert_float32_isNearest :
    (∀ text, registry.Refuses .float32 text ↔ ¬ ∃ numeral, IsFloat numeral text.toList) ∧
    ∀ text negative c k, IsFloat (.decimal negative c k) text.toList → ∃ d s x,
      binary64.Rounds negative (c * 10 ^ k) d ∧ binary32.RoundsBinary d s ∧ x.Same s ∧
      registry.convert (.tag .float32) text = .ok (.number x) ∧ Binary.ofBits64 x.bits64 = x ∧
      (x = .infinite negative ↔ ∀ m e, d = .finite negative m e → (2 ^ 128 - 2 ^ 103 : ℚ) ≤ magnitude m e) ∧
      (binary32.Rounds negative (c * 10 ^ k) s ↔
        ¬ ∃ m e, d = .finite negative m e ∧ binary32.Strays (magnitude m e) (c * 10 ^ k)) := by
  refine ⟨registry.takesExactly_float32.refuses_iff_not_isFloat, fun text negative c k h => ?_⟩
  have hq : (0 : ℚ) ≤ c * 10 ^ k := by positivity
  obtain _ | _ | ⟨hd⟩ := (Numeral.decimal negative c k).rounds_round
  have hconvert := (registry.takesExactly_float32.convert_iff _ _).2 ⟨_, rfl, _, rfl, h⟩
  generalize (Numeral.decimal negative c k).round = d at hd hconvert
  have hs : binary32.RoundsBinary d (d.roundTo binary32) := Format.roundsBinary_roundTo (by decide) (by decide) d
  generalize d.roundTo binary32 = s at hs hconvert
  have hhas : binary64.Has (widen s) := (Format.roundsBinary_roundTo (by decide) (by decide) s).has
  have hsame : (widen s).Same s := same_roundTo hs.has
  refine ⟨d, s, widen s, hd, hs, hsame, hconvert, Binary.ofBits64_bits64 hhas, ?_, rounds_binary32_iff hq hd hs⟩
  rw [← bound_binary32, hsame.eq_infinite_iff]
  exact eq_infinite_binary32_iff hd hs

/-- Zero keeps its sign. -/
theorem convert_float32_zero :
    IsFloat (.decimal true 0 0) "-0f".toList ∧ (builtin Time.almanac : Registry Empty).Refuses .float32 "-f" ∧
    ∃ x, (builtin Time.almanac : Registry Empty).convert (.tag .float32) "-0f" = .ok (.number x) ∧
      x.Same (.finite true 0 binary32.lowest) := by
  obtain ⟨hrefuses, hnearest⟩ := convert_float32_isNearest (builtin Time.almanac : Registry Empty)
  have hfloat : IsFloat (.decimal true 0 0) "-0f".toList := parse?_strip_eq_some_iff.1 (by decide)
  have hzero : ((0 : Nat) : ℚ) * 10 ^ (0 : Int) = 0 := by simp
  obtain ⟨d, s, x, hd, hs, hsame, hconvert, -, -, hrounds⟩ := hnearest _ _ _ _ hfloat
  rw [hzero] at hd hrounds
  have hlow64 : binary64.Rounds true 0 (.finite true 0 binary64.lowest) :=
    Format.rounds_zero (by decide) le_rfl (by simpa using two_zpow_pos _) true
  have hlow32 : binary32.Rounds true 0 (.finite true 0 binary32.lowest) :=
    Format.rounds_zero (by decide) le_rfl (by simpa using two_zpow_pos _) true
  refine ⟨hfloat, (hrefuses _).2 ?_, x, hconvert, ?_⟩
  · exact not_isFloat_of_parse? (by decide)
  · -- Zero is exact, so that double precision is on no side of it.
    have hexact : binary32.Rounds true 0 s := by
      rw [hrounds]
      rintro ⟨m, e, rfl, m₁, e₁, -, -, hside⟩
      obtain ⟨⟩ := hd.unique hlow64 (by decide)
      rw [magnitude_zero] at hside
      split at hside <;> exact lt_irrefl _ hside
    rwa [hexact.unique hlow32 (by decide)] at hsame

/-- A numeral a little above the point halfway from one to the next number, at which double precision puts it. -/
theorem isFloat_aboveHalfway :
    IsFloat (.decimal false 100000005960464477540 (-20)) "1.00000005960464477540".toList :=
  parse?_strip_eq_some_iff.1 (by decide)

/-- It is taken as one. -/
theorem convert_float32_aboveHalfway :
    (builtin Time.almanac : Registry Empty).convert (.tag .float32) "1.00000005960464477540" =
    .ok (.number (.finite false (2 ^ 52) (-52))) := by
  rw [convert_tag_eq_ok_iff]
  rfl

/-- A text is not always taken as the number of single precision that is nearest to what it says. -/
theorem not_forall_convert_float32_isNearest :
    ¬ ∀ text negative c k, IsFloat (.decimal negative c k) text.toList → ∃ s x,
      (builtin Time.almanac : Registry Empty).convert (.tag .float32) text = .ok (.number x) ∧ x.Same s ∧
        binary32.Rounds negative (c * 10 ^ k) s := by
  intro hall
  obtain ⟨s, x, hconvert, hsame, hrounds⟩ := hall _ _ _ _ isFloat_aboveHalfway
  rw [convert_float32_aboveHalfway] at hconvert
  obtain ⟨⟩ := hconvert
  -- The number after one is nearer.
  have hnext : binary32.Rounds false (100000005960464477540 / (10 ^ 20 : Nat)) (.finite false (2 ^ 23 + 1) (-23)) := by
    have hround : binary32.round false 100000005960464477540 (10 ^ 20) = .finite false (2 ^ 23 + 1) (-23) := by
      decide +kernel
    rw [← hround]
    exact Format.rounds_round (by decide) (by decide) (by decide) false _
  have hvalue : ((100000005960464477540 : Nat) : ℚ) * 10 ^ (-20 : Int) = 100000005960464477540 / (10 ^ 20 : Nat) := by
    norm_num
  rw [hvalue] at hrounds
  rw [hrounds.unique hnext (by decide)] at hsame
  obtain _ | _ | ⟨heq⟩ := hsame
  rw [magnitude_eq_of_le _ (by decide : (-52 : Int) ≤ -23), magnitude_inj] at heq
  exact absurd heq (by decide)

end Registry

end Lookup
