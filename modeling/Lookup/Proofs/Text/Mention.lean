import Mathlib.Data.List.Infix
import Lookup.Proofs.Text.Case
import Lookup.Text.Basic
import Lookup.Text.Quoted

/-!
# Phrases in a text

A text is searched for a phrase in lower case. For a phrase of spaces and small letters this finds the phrase in
small or capital letters, and nothing else. The letters `i` and `k` are left out here, since two characters outside
of ASCII have them in their lower case. A text between quotes has the phrases that it has itself, unless they
begin with a letter that is written behind a backslash.

## Main definitions

* `Mentions` — a text has a phrase, in small or capital letters
* `IsPhrase` — the phrases that are looked at
* `Keeps` — an image of a text neither loses a phrase nor brings one about

## Main results

* `infix_append_cons_iff` — a phrase does not go across a character that it does not have
* `Keeps.infix_iff` — the phrase in an image of a text
* `IsPhrase.occurs_lower_iff` — searching a text in lower case
* `IsPhrase.mentions_append_cons_iff` — a phrase in two parts of a text
* `IsPhrase.mentions_append_quote_iff` — a phrase in a text between quotes
-/

namespace Lookup.Text

/-! ### Parts of a text -/

section

variable {c : Char} {mark start rest text : List Char}

/-- The search for a mark finds it where it is a part of the text. -/
theorem occurs_iff_isInfix : occurs mark text = true ↔ mark <:+: text := by
  rw [occurs]
  induction text with
  | nil => cases mark <;> simp [cutAt]
  | cons c rest ih =>
    rw [cutAt, List.infix_cons_iff, ← ih]
    split
    · next hprefix => simp [List.isPrefixOf_iff_prefix.1 hprefix]
    · next hprefix => simp [mt List.isPrefixOf_iff_prefix.2 hprefix]

/-- A mark does not begin where none of the characters is its first one. -/
theorem infix_append_iff_of_head (h : c ∉ start) : c :: mark <:+: start ++ rest ↔ c :: mark <:+: rest := by
  induction start with
  | nil => rfl
  | cons d start ih =>
    rw [List.cons_append, List.infix_cons_iff, List.cons_prefix_cons, ih (List.not_mem_of_not_mem_cons h)]
    simp [List.ne_of_not_mem_cons h]

/-- The start of a text ends before a character that the mark does not have. -/
theorem prefix_append_cons_iff (h : c ∉ mark) (start rest : List Char) :
    mark <+: start ++ c :: rest ↔ mark <+: start := by
  induction start generalizing mark with
  | nil =>
    cases mark with
    | nil => simp
    | cons d mark => simp [(List.ne_of_not_mem_cons h).symm]
  | cons e start ih =>
    cases mark with
    | nil => simp
    | cons d mark =>
      rw [List.cons_append, List.cons_prefix_cons, List.cons_prefix_cons, ih (List.not_mem_of_not_mem_cons h)]

/-- A mark does not go across a character that it does not have. -/
theorem infix_append_cons_iff (h : c ∉ mark) :
    mark <:+: start ++ c :: rest ↔ mark <:+: start ∨ mark <:+: rest := by
  induction start with
  | nil =>
    have hprefix : mark <+: c :: rest ↔ mark <+: [] := prefix_append_cons_iff h [] rest
    rw [List.nil_append, List.infix_cons_iff, hprefix]
    simp
  | cons d start ih =>
    rw [List.cons_append, List.infix_cons_iff, ih, List.infix_cons_iff, ← List.cons_append,
      prefix_append_cons_iff h, or_assoc]

end

/-! ### Phrases -/

/-- A text has a phrase, in small or capital letters. -/
def Mentions (phrase text : List Char) : Prop := phrase <:+: text.map Char.toLower

instance (phrase text : List Char) : Decidable (Mentions phrase text) :=
  inferInstanceAs (Decidable (phrase <:+: text.map Char.toLower))

/-- The characters that phrases are made of. -/
def isPlain (c : Char) : Bool := c = ' ' || ('a' ≤ c && c ≤ 'z')

/-- What is written behind a backslash between quotes, in lower case. -/
def isBehindBackslash (c : Char) : Bool := c ≤ 'f' || "nrtux".toList.contains c

/-- A phrase of spaces and small letters other than `i` and `k`, which does not begin with a letter that is written
behind a backslash. -/
structure IsPhrase (phrase : List Char) : Prop where
  plain : ∀ c ∈ phrase, isPlain c = true
  own : 'i' ∉ phrase ∧ 'k' ∉ phrase
  first : ∀ c ∈ phrase.head?, isBehindBackslash c = false

variable {phrase text image : List Char}

/-- An image of a text that is made character by character neither loses a phrase nor brings one about: what the phrase
has is taken over, in small letters, and anything else becomes something that does not begin with what the
phrase has and goes on without its first character. -/
inductive Keeps (phrase : List Char) : List Char → List Char → Prop where
  | nil : Keeps phrase [] []
  | same (c : Char) {text image : List Char} (rest : Keeps phrase text image) :
      Keeps phrase (c :: text) (c.toLower :: image)
  | other {c d : Char} {text image : List Char} (more : List Char) (lost : c.toLower ∉ phrase) (first : d ∉ phrase)
      (behind : ∀ e ∈ more, phrase.head? ≠ some e) (rest : Keeps phrase text image) :
      Keeps phrase (c :: text) (d :: more ++ image)

/-- What the phrase has begins an image exactly if it begins the text. -/
theorem Keeps.prefix_iff (h : Keeps phrase text image) {part : List Char} (hpart : ∀ c ∈ part, c ∈ phrase) :
    part <+: image ↔ part <+: text.map Char.toLower := by
  -- The claim is on all texts of characters of the phrase, since the rest of one is what is left for the rest.
  induction h generalizing part with
  | nil => rfl
  | same c rest ih =>
    cases part with
    | nil => simp
    | cons e part =>
      rw [List.map_cons, List.cons_prefix_cons, List.cons_prefix_cons, ih (List.forall_mem_cons.1 hpart).2]
  | other more lost first behind rest ih =>
    cases part with
    | nil => simp
    | cons e part =>
      have he := (List.forall_mem_cons.1 hpart).1
      rw [List.map_cons, List.cons_append, List.cons_prefix_cons, List.cons_prefix_cons]
      simp [ne_of_mem_of_not_mem he lost, ne_of_mem_of_not_mem he first]

/-- An image has the phrase exactly if the text has it. -/
theorem Keeps.infix_iff (h : Keeps phrase text image) : phrase <:+: image ↔ Mentions phrase text := by
  rw [Mentions]
  induction h with
  | nil => rfl
  | same c rest ih =>
    have hprefix := (Keeps.same c rest).prefix_iff fun _ => id
    rw [List.infix_cons_iff, hprefix, ih, List.map_cons, List.infix_cons_iff]
  | @other c d text image more lost first behind rest ih =>
    cases phrase with
    | nil => simp
    | cons head tail =>
      -- The phrase begins neither with this character nor in what it becomes.
      have himage : head ∉ d :: more := by
        intro hmem
        rcases List.mem_cons.1 hmem with heq | hmem
        · exact first (heq ▸ List.mem_cons_self)
        · exact behind head hmem rfl
      have htext : head ∉ [c.toLower] := fun hmem =>
        lost (List.mem_singleton.1 hmem ▸ List.mem_cons_self)
      rw [infix_append_iff_of_head himage, ih, List.map_cons, ← infix_append_iff_of_head htext]
      rfl

/-! ### Lower case -/

theorem toLower_of_not_ascii {c : Char} (h : 128 ≤ c.toNat) : c.toLower = c := by
  apply dif_neg
  rintro ⟨-, hle⟩
  have hcapital : c.toNat ≤ 90 := hle
  omega

theorem toNat_lt_of_isPlain {c : Char} (h : isPlain c = true) : c.toNat < 128 := by
  simp only [isPlain, Bool.or_eq_true, Bool.and_eq_true, decide_eq_true_eq] at h
  rcases h with rfl | ⟨-, hle⟩
  · decide
  · have hsmall : c.toNat ≤ 122 := hle
    omega

/-- Of the runs, only that of the Kelvin sign leads into ASCII from outside. -/
theorem apply?_of_not_ascii {run : CaseRun} {n m : Nat} (hrun : run ∈ lowerRuns) (hn : 128 ≤ n)
    (h : run.apply? n = some m) : 128 ≤ m ∨ m = 0x6B := by
  have htable : lowerRuns.all (fun run => run.last.blt 128 || Nat.ble 128 (run.first + run.shift).toNat ||
      (run.first.beq run.last && (run.first + run.shift).toNat.beq 0x6B)) = true := by
    decide +kernel
  have hout := List.all_eq_true.1 htable run hrun
  simp only [Bool.or_eq_true, Bool.and_eq_true, Nat.blt_eq, Nat.ble_eq, Nat.beq_eq] at hout
  obtain ⟨⟨hfirst, hlast, -⟩, rfl⟩ := CaseRun.apply?_eq_some_iff.1 h
  omega

theorem shiftCase_of_not_ascii {n : Nat} (h : 128 ≤ n) :
    128 ≤ shiftCase lowerRuns n ∨ shiftCase lowerRuns n = 0x6B := by
  rw [shiftCase]
  cases hfound : lowerRuns.findSome? fun run => run.apply? n with
  | none => exact .inl h
  | some m =>
    obtain ⟨run, hrun, hm⟩ := List.exists_of_findSome?_eq_some hfound
    exact apply?_of_not_ascii hrun h hm

/-- The lower case of a character outside of ASCII begins outside of it, or with one of two letters, and goes on
outside. -/
theorem lowerChar_of_not_ascii {c : Char} (h : 128 ≤ c.toNat) :
    ∃ d more, lowerChar c = d :: more ∧ (128 ≤ d.toNat ∨ d = 'i' ∨ d = 'k') ∧ ∀ e ∈ more, 128 ≤ e.toNat := by
  rw [lowerChar]
  split
  · exact ⟨'i', [Char.ofNat 0x307], rfl, by decide, List.forall_mem_singleton.2 (by decide)⟩
  · refine ⟨_, [], rfl, ?_, by simp⟩
    have hvalid : (shiftCase lowerRuns c.toNat).isValidChar := by
      rcases shiftCase_cases c.toNat with ⟨heq, -⟩ | ⟨hvalid, -⟩
      · rw [heq]
        exact c.valid
      · exact hvalid
    rcases shiftCase_of_not_ascii h with hout | hkelvin
    · left
      rwa [toNat_ofNat_of_isValidChar hvalid]
    · right
      right
      rw [hkelvin]

/-- Lower case keeps a phrase. -/
theorem IsPhrase.keeps_lowerFrom (h : IsPhrase phrase) (afterCased : Bool) (text : List Char) :
    Keeps phrase text (lowerFrom afterCased text) := by
  have hout : ∀ {c : Char}, 128 ≤ c.toNat → c ∉ phrase := fun hc hmem =>
    absurd (toNat_lt_of_isPlain (h.plain _ hmem)) (not_lt.2 hc)
  induction text generalizing afterCased with
  | nil => exact .nil
  | cons c rest ih =>
    rw [lowerFrom]
    by_cases hascii : c.toNat < 128
    · rw [if_neg (by omega), lowerChar_of_ascii hascii]
      exact .same c (ih _)
    · have hlost : c.toLower ∉ phrase := by
        rw [toLower_of_not_ascii (not_lt.1 hascii)]
        exact hout (not_lt.1 hascii)
      split
      · -- Both forms of the small sigma are outside of ASCII.
        refine .other [] hlost (hout ?_) (by simp) (ih _)
        split <;> decide
      · obtain ⟨d, more, hd, hfirst, hmore⟩ := lowerChar_of_not_ascii (not_lt.1 hascii)
        rw [hd]
        refine .other more hlost ?_ (fun e he heq => hout (hmore e he) (List.mem_of_head? heq)) (ih _)
        rcases hfirst with hd | rfl | rfl
        · exact hout hd
        · exact h.own.1
        · exact h.own.2

/-- Searching the lower case of a text for a phrase finds it in small or capital letters. -/
theorem IsPhrase.occurs_lower_iff (h : IsPhrase phrase) (text : List Char) :
    occurs phrase (lower text) = true ↔ Mentions phrase text := by
  rw [occurs_iff_isInfix, lower, (h.keeps_lowerFrom false text).infix_iff]

/-! ### Quotes -/

theorem exists_digitChar_of_mem_toDigits {c : Char} {n : Nat} (h : c ∈ Nat.toDigits 16 n) :
    ∃ d < 16, c = Nat.digitChar d := by
  induction n using Nat.strong_induction_on with
  | _ n ih =>
    rw [Nat.toDigits_eq_if (by decide)] at h
    split at h
    · next hlt => exact ⟨n, hlt, List.mem_singleton.1 h⟩
    · rcases List.mem_append.1 h with hfront | hlast
      · exact ih (n / 16) (Nat.div_lt_self (by omega) (by decide)) hfront
      · exact ⟨n % 16, Nat.mod_lt n (by decide), List.mem_singleton.1 hlast⟩

theorem isBehindBackslash_of_mem_hex {c : Char} {width n : Nat} (h : c ∈ hex width n) :
    isBehindBackslash c.toLower = true := by
  have hdigits : ∀ d < 16, isBehindBackslash (Nat.digitChar d).toLower = true := by decide
  rw [hex] at h
  rcases List.mem_append.1 h with hzero | hdigit
  · rw [List.eq_of_mem_replicate hzero]
    decide
  · obtain ⟨d, hd, rfl⟩ := exists_digitChar_of_mem_toDigits hdigit
    exact hdigits d hd

/-- From the space to the tilde all characters are printable. -/
theorem isPrintable_of_ascii {c : Char} (hlow : 0x20 ≤ c.toNat) (hhigh : c.toNat ≤ 0x7E) : isPrintable c = true := by
  have hranges : unprintable.all (fun range => range.2.blt 0x20 || Nat.blt 0x7E range.1) = true := by
    decide +kernel
  have hout : unprintable.contains c = false := by
    refine List.any_eq_false.2 fun range hrange hin => ?_
    have hmiss := List.all_eq_true.1 hranges range hrange
    simp only [Bool.or_eq_true, Nat.blt_eq] at hmiss
    simp only [Bool.and_eq_true, decide_eq_true_eq] at hin
    omega
  rw [isPrintable, hout]
  rfl

theorem isPrintable_of_isPlain_toLower {c : Char} (h : isPlain c.toLower = true) : isPrintable c = true := by
  have htable : ∀ n < 128, isPlain (Char.ofNat n).toLower = true → 0x20 ≤ n ∧ n ≤ 0x7E := by
    decide +kernel
  by_cases hascii : c.toNat < 128
  · have hbounds := htable c.toNat hascii
    rw [Char.ofNat_toNat] at hbounds
    exact isPrintable_of_ascii (hbounds h).1 (hbounds h).2
  · rw [toLower_of_not_ascii (not_lt.1 hascii)] at h
    exact absurd (toNat_lt_of_isPlain h) hascii

/-- A character stands between quotes as it is, or it is none that phrases are made of and has a backslash. -/
theorem escape_cases {mark : Char} (hmark : mark = apostrophe ∨ mark = doubleQuote) (c : Char) :
    escape mark c = [c] ∨ isPlain c.toLower = false ∧
      ∃ more, escape mark c = '\\' :: more ∧ ∀ d ∈ more, isBehindBackslash d.toLower = true := by
  rw [escape]
  split_ifs with hbackslash hquote hline hreturn htab hprintable hbyte hshort
  · subst hbackslash
    exact .inr ⟨by decide, _, rfl, List.forall_mem_singleton.2 (by decide)⟩
  · subst hquote
    rcases hmark with rfl | rfl
    · exact .inr ⟨by decide, _, rfl, List.forall_mem_singleton.2 (by decide)⟩
    · exact .inr ⟨by decide, _, rfl, List.forall_mem_singleton.2 (by decide)⟩
  · subst hline
    exact .inr ⟨by decide, _, rfl, List.forall_mem_singleton.2 (by decide)⟩
  · subst hreturn
    exact .inr ⟨by decide, _, rfl, List.forall_mem_singleton.2 (by decide)⟩
  · subst htab
    exact .inr ⟨by decide, _, rfl, List.forall_mem_singleton.2 (by decide)⟩
  · exact .inl rfl
  · refine .inr ⟨Bool.eq_false_iff.2 (mt isPrintable_of_isPlain_toLower hprintable), _, rfl, ?_⟩
    exact List.forall_mem_cons.2 ⟨by decide, fun d => isBehindBackslash_of_mem_hex⟩
  · refine .inr ⟨Bool.eq_false_iff.2 (mt isPrintable_of_isPlain_toLower hprintable), _, rfl, ?_⟩
    exact List.forall_mem_cons.2 ⟨by decide, fun d => isBehindBackslash_of_mem_hex⟩
  · refine .inr ⟨Bool.eq_false_iff.2 (mt isPrintable_of_isPlain_toLower hprintable), _, rfl, ?_⟩
    exact List.forall_mem_cons.2 ⟨by decide, fun d => isBehindBackslash_of_mem_hex⟩

/-- What stands between quotes keeps a phrase. -/
theorem IsPhrase.keeps_escaped (h : IsPhrase phrase) {mark : Char} (hmark : mark = apostrophe ∨ mark = doubleQuote)
    (text : List Char) : Keeps phrase text ((text.flatMap (escape mark)).map Char.toLower) := by
  have hlost : ∀ {c : Char}, isPlain c = false → c ∉ phrase := fun hc hmem =>
    absurd (h.plain _ hmem) (Bool.eq_false_iff.1 hc)
  induction text with
  | nil => exact .nil
  | cons c rest ih =>
    rw [List.flatMap_cons, List.map_append]
    rcases escape_cases hmark c with heq | ⟨hc, more, heq, hmore⟩
    · rw [heq]
      exact .same c ih
    · rw [heq]
      refine .other (more.map Char.toLower) (hlost hc) (hlost (c := '\\') (by decide)) ?_ ih
      rintro e he hhead
      obtain ⟨d, hd, rfl⟩ := List.mem_map.1 he
      exact absurd (hmore d hd) (Bool.eq_false_iff.1 (h.first _ hhead))

theorem quoteMark_cases (text : List Char) : quoteMark text = apostrophe ∨ quoteMark text = doubleQuote := by
  rw [quoteMark]
  split
  · exact .inr rfl
  · exact .inl rfl

/-- A phrase does not go across a character that phrases are not made of. -/
theorem IsPhrase.mentions_append_cons_iff (h : IsPhrase phrase) {c : Char} (hc : isPlain c.toLower = false)
    (front back : List Char) :
    Mentions phrase (front ++ c :: back) ↔ Mentions phrase front ∨ Mentions phrase back := by
  have hlost : c.toLower ∉ phrase := fun hmem => absurd (h.plain _ hmem) (Bool.eq_false_iff.1 hc)
  rw [Mentions, List.map_append, List.map_cons, infix_append_cons_iff hlost]
  rfl

/-- A text between quotes behind another one has the phrases that the two have. -/
theorem IsPhrase.mentions_append_quote_iff (h : IsPhrase phrase) (front : List Char) (text : String) :
    Mentions phrase (front ++ (quote text).toList) ↔ Mentions phrase front ∨ Mentions phrase text.toList := by
  have hmark := quoteMark_cases text.toList
  have hplain : isPlain (quoteMark text.toList).toLower = false := by
    rcases hmark with heq | heq
    · rw [heq]
      decide
    · rw [heq]
      decide
  have hnil : Mentions phrase [] → Mentions phrase text.toList := fun hnil =>
    (List.infix_nil.1 hnil) ▸ List.nil_infix
  have hbody : Mentions phrase (text.toList.flatMap (escape (quoteMark text.toList))) ↔ Mentions phrase text.toList :=
    (h.keeps_escaped hmark text.toList).infix_iff
  rw [quote, String.toList_ofList, List.cons_append, h.mentions_append_cons_iff hplain,
    h.mentions_append_cons_iff hplain, hbody, or_iff_left_of_imp hnil]

end Lookup.Text
