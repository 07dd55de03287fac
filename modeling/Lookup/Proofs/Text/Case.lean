import Mathlib.Data.List.Basic
import Lookup.Text.Case

/-!
# Lower case is lower case

The runs of the lower-case table lead out of the table: no code point to which a run leads lies in a run itself. So
a text in lower case is its own lower case, whatever the neighbours of a sigma are. Up to U+007F lower case is that of
the characters one by one.

## Main definitions

* `CaseRun.leadsOut` — a run leads to no code point of other runs
* `Settled` — the characters that lower case leaves alone

## Main results

* `leadsOut_lowerRuns` — the runs of the table lead out of it
* `settled_of_mem_lower` — what a text has in lower case is settled
* `lower_lower`, `lowerString_lowerString` — a text in lower case stays as it is
* `lower_of_ascii` — the lower case of ASCII texts
-/

namespace Lookup.Text

variable {run other : CaseRun} {runs : List CaseRun} {n m : Nat} {c d : Char} {text : List Char}

/-! ### Runs -/

namespace CaseRun

/-- The code points from `low` to `high`, or every other one of them, are before or behind a run, or are those that it
leaves out. -/
def misses (run : CaseRun) (low high : Nat) (alternate : Bool) : Bool :=
  high.blt run.first || run.last.blt low || (alternate && run.step.beq 2 && ((low + run.first) % 2).beq 1)

/-- A run leads to code points, none of them that of a capital I with a dot, that all runs miss. -/
def leadsOut (runs : List CaseRun) (run : CaseRun) : Bool :=
  let low := (run.first + run.shift).toNat
  let high := (run.last + run.shift).toNat
  (0).blt low && (high.blt 0xD800 || ((0xDFFF).blt low && high.blt 0x110000)) && (high.blt 0x130 || (0x130).blt low) &&
    runs.all fun other => other.misses low high (run.step.beq 2 || run.first.beq run.last)

theorem apply?_eq_some_iff :
    run.apply? n = some m ↔
      (run.first ≤ n ∧ n ≤ run.last ∧ (n - run.first) % run.step = 0) ∧ (n + run.shift).toNat = m := by
  simp only [ CaseRun.apply?, Bool.and_eq_true, decide_eq_true_eq, beq_iff_eq, Option.ite_none_right_eq_some,
    Option.some.injEq, and_assoc]

/-- A run that leads out leads to characters that no run takes any further. -/
theorem apply?_eq_none_of_leadsOut (h : run.leadsOut runs = true) (hn : run.apply? n = some m) :
    m.isValidChar ∧ m ≠ 0x130 ∧ ∀ other ∈ runs, other.apply? m = none := by
  obtain ⟨⟨hfirst, hlast, hstep⟩, rfl⟩ := apply?_eq_some_iff.1 hn
  simp only [leadsOut, Bool.and_eq_true, Bool.or_eq_true, List.all_eq_true, Nat.blt_eq] at h
  obtain ⟨⟨⟨hpos, hvalid⟩, hdotted⟩, hmisses⟩ := h
  refine ⟨by rw [Nat.isValidChar]; omega, by omega, fun other hother => ?_⟩
  rw [Option.eq_none_iff_forall_ne_some]
  intro k hk
  obtain ⟨⟨hfirst', hlast', hstep'⟩, -⟩ := apply?_eq_some_iff.1 hk
  have hmiss := hmisses other hother
  simp only [misses, Bool.and_eq_true, Bool.or_eq_true, Nat.blt_eq, Nat.beq_eq] at hmiss
  rcases hmiss with (hbefore | hbehind) | ⟨⟨halternate, htwo⟩, hodd⟩
  · omega
  · omega
  · rw [htwo] at hstep'
    rcases halternate with heven | hsingle
    · rw [heven] at hstep
      omega
    · omega

end CaseRun

theorem leadsOut_lowerRuns : lowerRuns.all (CaseRun.leadsOut lowerRuns) = true := by
  decide +kernel

/-! ### Characters -/

theorem toNat_ofNat_of_isValidChar (h : n.isValidChar) : (Char.ofNat n).toNat = n := by
  rw [Char.ofNat, dif_pos h]
  rfl

/-- The code points that the table leaves alone. -/
theorem shiftCase_eq_self (h : ∀ run ∈ lowerRuns, run.apply? n = none) : shiftCase lowerRuns n = n := by
  rw [shiftCase, List.findSome?_eq_none_iff.2 h]
  rfl

/-- What a code point is taken to, if it is not the one that becomes two, is a character that is taken no further. -/
theorem shiftCase_cases (n : Nat) :
    shiftCase lowerRuns n = n ∧ (∀ run ∈ lowerRuns, run.apply? n = none) ∨
      (shiftCase lowerRuns n).isValidChar ∧ shiftCase lowerRuns n ≠ 0x130 ∧
        ∀ run ∈ lowerRuns, run.apply? (shiftCase lowerRuns n) = none := by
  cases h : lowerRuns.findSome? fun run => run.apply? n with
  | none =>
    have hnone := List.findSome?_eq_none_iff.1 h
    exact .inl ⟨shiftCase_eq_self hnone, hnone⟩
  | some m =>
    obtain ⟨run, hrun, hm⟩ := List.exists_of_findSome?_eq_some h
    have hshift : shiftCase lowerRuns n = m := by rw [shiftCase, h, Option.getD_some]
    rw [hshift]
    exact .inr (CaseRun.apply?_eq_none_of_leadsOut (List.all_eq_true.1 leadsOut_lowerRuns run hrun) hm)

/-- A character that lower case leaves alone, whatever stands around it. -/
def Settled (c : Char) : Prop := c.toNat ≠ 0x3A3 ∧ lowerChar c = [c]

theorem settled_of_forall_eq_none (hdotted : c.toNat ≠ 0x130) (h : ∀ run ∈ lowerRuns, run.apply? c.toNat = none) :
    Settled c := by
  constructor
  · intro hsigma
    have hself := shiftCase_eq_self h
    rw [hsigma] at hself
    exact absurd hself (by decide +kernel)
  · rw [lowerChar, if_neg hdotted, shiftCase_eq_self h, Char.ofNat_toNat]

theorem settled_of_mem_lowerChar (hc : c ∈ lowerChar d) : Settled c := by
  by_cases hdotted : d.toNat = 0x130
  · rw [lowerChar, if_pos hdotted] at hc
    rcases List.mem_pair.1 hc with rfl | rfl
    · exact ⟨by decide, by decide +kernel⟩
    · exact ⟨by decide, by decide +kernel⟩
  · rw [lowerChar, if_neg hdotted, List.mem_singleton] at hc
    subst hc
    rcases shiftCase_cases d.toNat with ⟨heq, hnone⟩ | ⟨hvalid, hne, hnone⟩
    · rw [heq, Char.ofNat_toNat]
      exact settled_of_forall_eq_none hdotted hnone
    · rw [← toNat_ofNat_of_isValidChar hvalid] at hne hnone
      exact settled_of_forall_eq_none hne hnone

/-! ### Texts -/

theorem settled_sigma (final : Bool) : Settled (Char.ofNat (if final then 0x3C2 else 0x3C3)) := by
  cases final
  · exact ⟨by decide, by decide +kernel⟩
  · exact ⟨by decide, by decide +kernel⟩

theorem settled_of_mem_lowerFrom {afterCased : Bool} (hc : c ∈ lowerFrom afterCased text) : Settled c := by
  -- Only a sigma looks at its neighbours, and both its images are settled.
  induction text generalizing afterCased with
  | nil => cases hc
  | cons d rest ih =>
    rw [lowerFrom] at hc
    rcases List.mem_append.1 hc with himage | hrest
    · split at himage
      · rw [List.mem_singleton.1 himage]
        exact settled_sigma _
      · exact settled_of_mem_lowerChar himage
    · exact ih hrest

theorem lowerFrom_eq_self {afterCased : Bool} (h : ∀ c ∈ text, Settled c) : lowerFrom afterCased text = text := by
  induction text generalizing afterCased with
  | nil => rfl
  | cons c rest ih =>
    obtain ⟨⟨hsigma, hlower⟩, hrest⟩ := List.forall_mem_cons.1 h
    rw [lowerFrom, if_neg hsigma, hlower, ih hrest]
    rfl

/-- What a text has in lower case is settled. -/
theorem settled_of_mem_lower (hc : c ∈ lower text) : Settled c := settled_of_mem_lowerFrom hc

/-- A text in lower case stays as it is. -/
theorem lower_lower (text : List Char) : lower (lower text) = lower text :=
  lowerFrom_eq_self fun _ => settled_of_mem_lower

theorem lowerString_lowerString (text : String) : lowerString (lowerString text) = lowerString text := by
  rw [lowerString, lowerString, String.toList_ofList, lower_lower]

/-! ### ASCII -/

/-- Of the runs only the first one has ASCII characters. -/
theorem shiftCase_of_ascii (h : n < 128) :
    shiftCase lowerRuns n = if 0x41 ≤ n ∧ n ≤ 0x5A then n + 32 else n := by
  have hruns : lowerRuns = ⟨0x41, 0x5A, 1, 32⟩ :: lowerRuns.tail := rfl
  have hbehind : lowerRuns.tail.all (fun run => Nat.blt 128 run.first) = true := by decide +kernel
  have hnone : lowerRuns.tail.findSome? (fun run => run.apply? n) = none := by
    rw [List.findSome?_eq_none_iff]
    intro run hrun
    have hfirst := List.all_eq_true.1 hbehind run hrun
    rw [Nat.blt_eq] at hfirst
    rw [Option.eq_none_iff_forall_ne_some]
    intro m hm
    obtain ⟨⟨hle, -⟩, -⟩ := CaseRun.apply?_eq_some_iff.1 hm
    omega
  rw [shiftCase, hruns, List.findSome?_cons, hnone]
  simp only [ CaseRun.apply?, Nat.mod_one, beq_self_eq_true, Bool.and_true, Bool.and_eq_true, decide_eq_true_eq]
  by_cases hcapital : 0x41 ≤ n ∧ n ≤ 0x5A
  · simp only [if_pos hcapital]
    rfl
  · simp only [if_neg hcapital]
    rfl

theorem lowerChar_of_ascii (h : c.toNat < 128) : lowerChar c = [c.toLower] := by
  have hlower : ∀ n < 128, Char.ofNat (if 0x41 ≤ n ∧ n ≤ 0x5A then n + 32 else n) = (Char.ofNat n).toLower := by
    decide +kernel
  rw [lowerChar, if_neg (by omega), shiftCase_of_ascii h, hlower c.toNat h, Char.ofNat_toNat]

theorem lowerFrom_of_ascii {afterCased : Bool} (h : ∀ c ∈ text, c.toNat < 128) :
    lowerFrom afterCased text = text.map Char.toLower := by
  induction text generalizing afterCased with
  | nil => rfl
  | cons c rest ih =>
    obtain ⟨hc, hrest⟩ := List.forall_mem_cons.1 h
    rw [lowerFrom, if_neg (by omega), lowerChar_of_ascii hc, ih hrest]
    rfl

/-- The lower case of an ASCII text is that of its characters. -/
theorem lower_of_ascii (h : ∀ c ∈ text, c.toNat < 128) : lower text = text.map Char.toLower := lowerFrom_of_ascii h

end Lookup.Text
