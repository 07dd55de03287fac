import Lookup.Proofs.Number.Interchange

/-!
# Rounding once more to a narrower format

The numbers of a narrow format and the points halfway between them are numbers of a format with enough more digits.
So rounding to the wide format first does not carry a rational past such a point. It can carry it onto one, where
the tie then goes to the even significand, whichever side the rational was on. That is the only way in which
rounding twice differs from rounding once.

## Main definitions

* `Format.Bisects` — a format has the points halfway between the numbers of another one
* `Format.Strays` — rounding has carried a rational onto such a point from the side to which the tie does not go
* `Format.RoundsBinary` — what a number of another format is rounded to
* `Binary.Same` — the same number in two formats

## Main results

* `Format.rounds_iff_not_strays` — rounding twice is rounding once, unless the first rounding strays
* `bisects_binary32` — double precision has the points halfway between the numbers of single precision
* `rounds_binary32_iff` — so the second rounding, to single precision, is mostly the nearest number
* `same_roundTo` — a number of single precision is the same in double precision
-/

namespace Lookup.Number

variable {format wide narrow : Format} {negative : Bool} {m m' a : Nat} {e e' b : Int} {q h : ℚ}

namespace Format

/-- A format has the points halfway between the numbers of another one. -/
def Bisects (wide narrow : Format) : Prop :=
  ∀ {m e}, narrow.IsNumber m e → ∃ m' e', wide.IsNumber m' e' ∧ magnitude m' e' = halfway m e

/-- `h` is halfway between two numbers, and `q` is on the side to which the tie does not go. -/
def Strays (format : Format) (h q : ℚ) : Prop :=
  ∃ m e, format.IsNumber m e ∧ h = halfway m e ∧ if Even m then h < q else q < h

/-! ### Covering by neighbours -/

/-- A number covers nothing behind the point halfway to the next one. -/
theorem Covers.le_halfway (h : format.Covers m e q) (hdigits : format.digits ≠ 0) (hlt : q < format.bound) :
    q < halfway m e ∨ q = halfway m e ∧ Even m := by
  have htwice := two_mul_halfway m e
  rcases h.isNumber.exists_succ hdigits with ⟨m', e', h', heq⟩ | ⟨rfl, rfl⟩
  · rcases h.above h' (heq ▸ magnitude_lt_succ m e) with hless | ⟨hsame, heven⟩
    · exact .inl (by linarith)
    · exact .inr ⟨by linarith, heven⟩
  · exact .inl (hlt)

/-- It is enough to look at the points halfway to the two neighbours. -/
theorem covers_of_halfway (hdigits : format.digits ≠ 0) (hnumber : format.IsNumber m e)
    (habove : q < halfway m e ∨ q = halfway m e ∧ Even m)
    (hbelow : ∀ m' e', format.IsNumber m' e' → magnitude (m' + 1) e' = magnitude m e → (Even m → ¬ Even m') →
      halfway m' e' < q ∨ halfway m' e' = q ∧ Even m) : format.Covers m e q where
  isNumber := hnumber
  above {m' e'} h' hless := by
    have htwice := two_mul_halfway m e
    have hnext := hnumber.succ_le h' hdigits hless
    rcases habove with hlt | ⟨heq, heven⟩
    · exact .inl (by linarith)
    · rcases hnext.lt_or_eq with hfar | hsame
      · exact .inl (by linarith)
      · exact .inr ⟨by linarith, heven⟩
  below {m' e'} h' hless := by
    have hpos : 0 < m := by
      refine Nat.pos_of_ne_zero fun hzero => ?_
      rw [hzero, magnitude_zero] at hless
      exact absurd hless (not_lt.2 (magnitude_nonneg m' e'))
    obtain ⟨m₁, e₁, h₁, hsucc, hodd⟩ := hnumber.exists_pred hdigits hpos
    have htwice := two_mul_halfway m₁ e₁
    have hle : magnitude m' e' ≤ magnitude m₁ e₁ := by
      by_contra hnot
      have hnext := h₁.succ_le h' hdigits (not_le.1 hnot)
      linarith
    rcases hbelow m₁ e₁ h₁ hsucc hodd with hlt | ⟨heq, heven⟩
    · exact .inl (by linarith)
    · rcases hle.lt_or_eq with hfar | hsame
      · exact .inl (by linarith)
      · exact .inr ⟨by linarith, heven⟩

/-! ### Rounding twice -/

section Twice

variable (hbisects : wide.Bisects narrow) (hwide : wide.Covers a b q)

include hbisects hwide

/-- Rounding does not carry a rational past a number of the format. -/
theorem halfway_lt (hnumber : narrow.IsNumber m e) (hlt : halfway m e < magnitude a b) : halfway m e < q := by
  obtain ⟨m', e', h', heq⟩ := hbisects hnumber
  rw [← heq] at hlt ⊢
  rcases hwide.below h' hlt with hless | ⟨hsame, -⟩ <;> linarith

theorem lt_halfway (hnumber : narrow.IsNumber m e) (hlt : magnitude a b < halfway m e) : q < halfway m e := by
  obtain ⟨m', e', h', heq⟩ := hbisects hnumber
  rw [← heq] at hlt ⊢
  rcases hwide.above h' hlt with hless | ⟨hsame, -⟩ <;> linarith

variable (hdigits : narrow.digits ≠ 0)

include hdigits

/-- The number that the rounded rational is rounded to covers the rational itself, unless that strayed. -/
theorem covers_of_not_strays (h : narrow.Covers m e (magnitude a b)) (hlt : magnitude a b < narrow.bound)
    (hstrays : ¬ narrow.Strays (magnitude a b) q) : narrow.Covers m e q := by
  have hstays : ∀ m' e', narrow.IsNumber m' e' → magnitude a b = halfway m' e' →
      ¬ if Even m' then magnitude a b < q else q < magnitude a b :=
    fun m' e' h' heq hside => hstrays ⟨m', e', h', heq, hside⟩
  refine covers_of_halfway hdigits h.isNumber ?_ fun m' e' h' hsucc hodd => ?_
  · rcases h.le_halfway hdigits hlt with hless | ⟨heq, heven⟩
    · exact .inl (lt_halfway hbisects hwide h.isNumber hless)
    · have hside := hstays m e h.isNumber heq
      rw [if_pos heven, not_lt, heq] at hside
      exact hside.lt_or_eq.imp_right fun hsame => ⟨hsame, heven⟩
  · have htwice := two_mul_halfway m' e'
    have hless : magnitude m' e' < magnitude m e := hsucc ▸ magnitude_lt_succ m' e'
    rcases h.below h' hless with hfar | ⟨heq, heven⟩
    · exact .inl (halfway_lt hbisects hwide h' (by linarith))
    · have hhalf : magnitude a b = halfway m' e' := by linarith
      have hside := hstays m' e' h' hhalf
      rw [if_neg (hodd heven), not_lt, hhalf] at hside
      exact hside.lt_or_eq.imp_right fun hsame => ⟨hsame, heven⟩

omit hbisects hwide in
/-- A number does not cover both sides of a point from which a tie goes elsewhere. -/
theorem not_covers_of_strays (h : narrow.Covers m e (magnitude a b)) (hlt : magnitude a b < narrow.bound)
    (hstrays : narrow.Strays (magnitude a b) q) : ¬ narrow.Covers m e q := by
  intro hq
  obtain ⟨m₁, e₁, h₁, heq, hside⟩ := hstrays
  have htwice := two_mul_halfway m₁ e₁
  by_cases heven : Even m₁
  · -- The tie goes down, but the rational is above the point.
    rw [if_pos heven] at hside
    have hnext := h₁.succ hdigits heven
    have hle : magnitude m e ≤ magnitude m₁ e₁ := by
      by_contra hnot
      have hover := h₁.succ_le h.isNumber hdigits (not_le.1 hnot)
      rcases h.below h₁ (not_le.1 hnot) with hfar | ⟨hsame, heven'⟩
      · linarith
      · obtain ⟨rfl, -⟩ := hnext.unique h.isNumber hdigits (by linarith)
        exact Nat.even_add_one.1 heven' heven
    have hless := hle.trans_lt (magnitude_lt_succ m₁ e₁)
    rcases hq.above hnext hless with hnear | ⟨hnear, -⟩ <;> linarith
  · -- The tie goes up, but the rational is below the point.
    rw [if_neg heven] at hside
    have hless : magnitude m₁ e₁ < magnitude m e := by
      by_contra hnot
      rcases (not_lt.1 hnot).lt_or_eq with hunder | hsame
      · have hmiddle := magnitude_lt_succ m₁ e₁
        rcases h.above h₁ hunder with hnear | ⟨hnear, -⟩ <;> linarith
      · obtain ⟨rfl, rfl⟩ := h.isNumber.unique h₁ hdigits hsame
        rcases h.le_halfway hdigits hlt with hnear | ⟨-, heven'⟩
        · exact absurd heq hnear.ne
        · exact heven heven'
    have hover := h₁.succ_le h.isNumber hdigits hless
    rcases hq.below h₁ hless with hnear | ⟨hnear, -⟩ <;> linarith

/-- Beyond the greatest number there is one point from which a rational may stray, which is the bound. -/
theorem bound_le_iff_not_strays (hrange : narrow.lowest ≤ narrow.highest) (hle : narrow.bound ≤ magnitude a b) :
    narrow.bound ≤ q ↔ ¬ narrow.Strays (magnitude a b) q := by
  have hgreatest := IsNumber.greatest hdigits hrange
  have hodd := not_even_greatest hdigits
  rw [bound] at hle ⊢
  constructor
  · rintro hover ⟨m₁, e₁, h₁, heq, hside⟩
    have htwice := two_mul_halfway m₁ e₁
    have htwice' := two_mul_halfway (2 ^ narrow.digits - 1) narrow.highest
    have hmiddle := magnitude_lt_succ (2 ^ narrow.digits - 1) narrow.highest
    rcases h₁.magnitude_le_greatest.lt_or_eq with hless | hsame
    · have hnext := h₁.succ_le hgreatest hdigits hless
      linarith
    · obtain ⟨rfl, rfl⟩ := h₁.unique hgreatest hdigits hsame
      rw [if_neg hodd, heq] at hside
      exact absurd hover (not_le.2 hside)
  · intro hstrays
    rcases hle.lt_or_eq with hless | heq
    · exact (halfway_lt hbisects hwide hgreatest hless).le
    · by_contra hunder
      refine hstrays ⟨_, _, hgreatest, heq.symm, ?_⟩
      rw [if_neg hodd, ← heq]
      exact not_le.1 hunder

/-- Rounding to a wider format first makes no difference, unless it strays. -/
theorem rounds_iff_not_strays (hrange : narrow.lowest ≤ narrow.highest) (hq : 0 ≤ q) {x : Binary}
    (hx : narrow.Rounds negative (magnitude a b) x) :
    narrow.Rounds negative q x ↔ ¬ narrow.Strays (magnitude a b) q := by
  constructor
  · intro hq
    cases hx with
    | finite hlt isNearest =>
      cases hq with
      | finite _ isNearest' =>
        exact fun hstrays => not_covers_of_strays hdigits isNearest.covers hlt hstrays isNearest'.covers
    | infinite hle =>
      cases hq with
      | infinite hle' => exact (bound_le_iff_not_strays hbisects hwide hdigits hrange hle).1 hle'
  · intro hstrays
    cases hx with
    | finite hlt isNearest =>
      have hcovers := covers_of_not_strays hbisects hwide hdigits isNearest.covers hlt hstrays
      have hlt' := lt_halfway hbisects hwide (.greatest hdigits hrange) hlt
      exact .finite hlt' (hcovers.isNearest hq negative)
    | infinite hle => exact .infinite ((bound_le_iff_not_strays hbisects hwide hdigits hrange hle).2 hstrays)

end Twice

/-! ### Numbers of another format -/

/-- What a number of another format is rounded to. -/
inductive RoundsBinary (format : Format) : Binary → Binary → Prop
  | nan : RoundsBinary format .nan .nan
  | infinite {negative : Bool} : RoundsBinary format (.infinite negative) (.infinite negative)
  | finite {negative : Bool} {m : Nat} {e : Int} {x : Binary} (rounds : format.Rounds negative (magnitude m e) x) :
      RoundsBinary format (.finite negative m e) x

theorem RoundsBinary.has {x y : Binary} (h : format.RoundsBinary x y) : format.Has y := by
  cases h with
  | nan => exact .nan
  | infinite => exact .infinite
  | finite rounds => exact rounds.has

theorem roundsBinary_roundTo (hdigits : 1 < format.digits) (hrange : format.lowest ≤ format.highest) (x : Binary) :
    format.RoundsBinary x (x.roundTo format) := by
  cases x with
  | nan => exact .nan
  | infinite negative => exact .infinite
  | finite negative m e =>
    have hvalue := unscale_div two_pos (-e) m 1
    have hden := unscale_snd_pos two_pos Nat.one_pos (-e) m
    rw [Nat.cast_one, div_one, zpow_neg, div_inv_eq_mul, Nat.cast_ofNat] at hvalue
    refine .finite ?_
    rw [magnitude, ← hvalue]
    exact rounds_round hdigits hrange hden.ne' negative _

/-- A number of the format is rounded to itself. -/
theorem IsNumber.rounds (h : format.IsNumber m e) (negative : Bool) :
    format.Rounds negative (magnitude m e) (.finite negative m e) := by
  have hcovers : format.Covers m e (magnitude m e) :=
    ⟨h, fun _ hless => .inl (by linarith), fun _ hless => .inl (by linarith)⟩
  have hmiddle := magnitude_lt_succ (2 ^ format.digits - 1) format.highest
  have htwice := two_mul_halfway (2 ^ format.digits - 1) format.highest
  refine .finite ?_ (hcovers.isNearest (magnitude_nonneg m e) negative)
  rw [bound]
  linarith [h.magnitude_le_greatest]

/-- A significand with room below the last digit is the significand of a number, once its first digit is moved to
the front. -/
theorem IsNumber.exists_of_lt (hlt : m < 2 ^ format.digits) (hlowest : format.lowest + format.digits ≤ e)
    (hhighest : e ≤ format.highest) : ∃ m' e', format.IsNumber m' e' ∧ magnitude m' e' = magnitude m e := by
  rcases Nat.eq_zero_or_pos m with rfl | hpos
  · exact ⟨0, format.lowest, .zero (by omega), by simp⟩
  have hlog := (Nat.log2_lt hpos.ne').2 hlt
  obtain ⟨k, hk⟩ : ∃ k, format.digits = m.log2 + 1 + k := Nat.exists_eq_add_of_le hlog
  refine ⟨m * 2 ^ k, e - k, ⟨?_, by omega, by omega, fun _ => ?_⟩, ?_⟩
  · rw [hk, pow_add]
    exact Nat.mul_lt_mul_of_pos_right Nat.lt_log2_self (Nat.two_pow_pos k)
  · rw [hk, Nat.add_right_comm, Nat.add_sub_cancel, pow_add]
    exact Nat.mul_le_mul_right _ (Nat.log2_self_le hpos.ne')
  · rw [magnitude_eq_of_le m (by omega : e - k ≤ e), sub_sub_cancel, Int.toNat_natCast]

end Format

/-- Double precision has all numbers of one digit more than single precision. -/
theorem exists_binary64 (hlt : m < 2 ^ 25) (hlowest : -150 ≤ e) (hhighest : e ≤ 104) :
    ∃ m' e', binary64.IsNumber m' e' ∧ magnitude m' e' = magnitude m e := by
  apply Format.IsNumber.exists_of_lt
  · exact hlt.trans (by decide)
  · exact le_trans (by decide) hlowest
  · exact hhighest.trans (by decide)

/-- Double precision has the points halfway between the numbers of single precision. -/
theorem bisects_binary32 : binary64.Bisects binary32 := by
  rintro m e ⟨hlt, hlowest, hhighest, -⟩
  simp only [binary32] at hlt hlowest hhighest
  exact exists_binary64 (by omega) (by omega) (by omega)

/-- The same number in two formats. -/
inductive Binary.Same : Binary → Binary → Prop
  | nan : Same .nan .nan
  | infinite {negative : Bool} : Same (.infinite negative) (.infinite negative)
  | finite {negative : Bool} {m m' : Nat} {e e' : Int} (eq : magnitude m e = magnitude m' e') :
      Same (.finite negative m e) (.finite negative m' e')

theorem Binary.Same.eq_infinite_iff {x y : Binary} (h : x.Same y) :
    x = .infinite negative ↔ y = .infinite negative := by
  cases h with
  | nan => exact Iff.rfl
  | infinite => exact Iff.rfl
  | finite => simp

/-- A number of single precision is the same in double precision. -/
theorem same_roundTo {x : Binary} (h : binary32.Has x) : (x.roundTo binary64).Same x := by
  have hrounds : binary64.RoundsBinary x (x.roundTo binary64) := Format.roundsBinary_roundTo (by decide) (by decide) x
  cases h with
  | nan => exact .nan
  | infinite => exact .infinite
  | finite isNumber =>
    obtain ⟨hlt, hlowest, hhighest, -⟩ := isNumber
    obtain ⟨m', e', h', heq⟩ :=
      exists_binary64 (hlt.trans (by decide)) (le_trans (by decide) hlowest) hhighest
    generalize hx : Binary.roundTo binary64 _ = y at hrounds ⊢
    obtain _ | _ | ⟨rounds⟩ := hrounds
    rw [← heq] at rounds
    rw [rounds.unique (h'.rounds _) (by decide)]
    exact .finite heq

theorem bound_binary32_le : binary32.bound ≤ binary64.bound := by
  have hpow : (2 ^ 25 - 1) * 2 ^ 103 ≤ (2 ^ 54 - 1) * 2 ^ 970 := by decide +kernel
  have hbound32 : binary32.bound = ((2 ^ 25 - 1 : Nat) : ℚ) * 2 ^ (103 : Int) := rfl
  have hbound64 : binary64.bound = ((2 ^ 54 - 1 : Nat) : ℚ) * 2 ^ (970 : Int) := rfl
  rw [hbound32, hbound64]
  exact_mod_cast hpow

/-- The number of single precision nearest to the nearest number of double precision is the nearest one, unless
double precision has strayed. -/
theorem rounds_binary32_iff {x y : Binary} (hq : 0 ≤ q) (hx : binary64.Rounds negative q x)
    (hy : binary32.RoundsBinary x y) :
    binary32.Rounds negative q y ↔ ¬ ∃ m e, x = .finite negative m e ∧ binary32.Strays (magnitude m e) q := by
  cases hx with
  | @finite a b _ isNearest =>
    obtain _ | _ | ⟨rounds⟩ := hy
    rw [Format.rounds_iff_not_strays bisects_binary32 isNearest.covers (by decide) (by decide) hq rounds, not_iff_not]
    exact ⟨fun h => ⟨a, b, rfl, h⟩, fun ⟨_, _, heq, h⟩ => by obtain ⟨⟩ := heq; exact h⟩
  | infinite hle =>
    obtain _ | _ | _ := hy
    exact iff_of_true (.infinite (bound_binary32_le.trans hle)) (by simp)

theorem eq_infinite_binary32_iff {x y : Binary} (hx : binary64.Rounds negative q x) (hy : binary32.RoundsBinary x y) :
    y = .infinite negative ↔ ∀ m e, x = .finite negative m e → binary32.bound ≤ magnitude m e := by
  cases hx with
  | @finite a b =>
    obtain _ | _ | ⟨rounds⟩ := hy
    cases rounds with
    | finite hlt => exact iff_of_false (by simp) fun hall => not_le.2 hlt (hall a b rfl)
    | infinite hle => exact iff_of_true rfl (by rintro _ _ ⟨⟩; exact hle)
  | infinite =>
    obtain _ | _ | _ := hy
    exact iff_of_true rfl (by simp)

end Lookup.Number
