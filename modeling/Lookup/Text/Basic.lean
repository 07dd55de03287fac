/-!
# Cutting, joining and ordering text

Text is taken apart as a list of characters. Texts are ordered by code point, character by
character, a text coming before its proper extensions.

## Main definitions

* `cut`, `cutAt` — the parts around the first occurrence of a character or of a mark
* `fields` — the parts between all occurrences of a character
* `join` — parts with a separator between them
* `before`, `precedes` — the order by code point
* `trimEnd`, `trimBoth` — a text without a class of characters at its ends

## Main results

* `cut_eq_some_iff` — a text is cut at the first occurrence and nothing is lost
* `join_fields` — fields with their separator put back are the text
-/

namespace Lookup.Text

/-- The parts before and after the first `c`, or `none` where `c` does not occur. -/
def cut (c : Char) : List Char → Option (List Char × List Char)
  | [] => none
  | d :: rest => if d = c then some ([], rest) else (cut c rest).map fun p => (d :: p.1, p.2)

theorem cut_eq_none_iff {c : Char} {text : List Char} : cut c text = none ↔ c ∉ text := by
  induction text with
  | nil => simp [cut]
  | cons d rest ih =>
    by_cases h : d = c
    · simp [cut, h]
    · simp [cut, h, ih, Ne.symm h]

theorem cut_eq_some_iff {c : Char} {text start rest : List Char} :
    cut c text = some (start, rest) ↔ c ∉ start ∧ text = start ++ c :: rest := by
  induction text generalizing start with
  | nil => simp [cut]
  | cons d text ih =>
    by_cases h : d = c
    · subst h
      cases start with
      | nil => simp [cut, eq_comm]
      | cons e start =>
        simp only [cut, if_true, Option.some.injEq, Prod.mk.injEq, List.mem_cons, not_or,
          List.cons_append, List.cons.injEq, reduceCtorEq, false_and, false_iff]
        exact fun hc => hc.1.1 hc.2.1
    · cases start with
      | nil => simp [cut, h]
      | cons e start =>
        simp only [cut, if_neg h, Option.map_eq_some_iff, Prod.mk.injEq, List.cons.injEq,
          List.mem_cons, not_or, List.cons_append]
        constructor
        · rintro ⟨⟨a, b⟩, hcut, ⟨rfl, rfl⟩, rfl⟩
          exact ⟨⟨Ne.symm h, (ih.1 hcut).1⟩, rfl, (ih.1 hcut).2⟩
        · rintro ⟨⟨_, hmem⟩, rfl, htext⟩
          exact ⟨(start, rest), ih.2 ⟨hmem, htext⟩, ⟨rfl, rfl⟩, rfl⟩

/-- The parts before and after the first place where `mark` occurs. -/
def cutAt (mark : List Char) : List Char → Option (List Char × List Char)
  | [] => if mark.isEmpty then some ([], []) else none
  | d :: rest =>
    if mark.isPrefixOf (d :: rest) then some ([], (d :: rest).drop mark.length)
    else (cutAt mark rest).map fun p => (d :: p.1, p.2)

/-- The parts between all occurrences of `c`: one more than there are occurrences. -/
def fields (c : Char) : List Char → List (List Char)
  | [] => [[]]
  | d :: rest =>
    if d = c then [] :: fields c rest
    else
      match fields c rest with
      | [] => [[d]]
      | first :: others => (d :: first) :: others

/-- The parts with `separator` between neighbours. -/
def join (separator : List Char) : List (List Char) → List Char
  | [] => []
  | [part] => part
  | part :: rest => part ++ separator ++ join separator rest

theorem fields_ne_nil (c : Char) (text : List Char) : fields c text ≠ [] := by
  cases text with
  | nil => simp [fields]
  | cons d rest =>
    by_cases h : d = c
    · simp [fields, h]
    · simp only [fields, if_neg h]
      split <;> simp

/-- Fields with the separator put back between them are the text. -/
theorem join_fields (c : Char) (text : List Char) : join [c] (fields c text) = text := by
  induction text with
  | nil => rfl
  | cons d rest ih =>
    by_cases h : d = c
    · subst h
      cases hf : fields d rest with
      | nil => exact absurd hf (fields_ne_nil d rest)
      | cons first others =>
        rw [hf] at ih
        simp [fields, hf, join, ih]
    · cases hf : fields c rest with
      | nil => exact absurd hf (fields_ne_nil c rest)
      | cons first others =>
        rw [hf] at ih
        cases others with
        | nil => simpa [fields, h, hf, join] using ih
        | cons second others => simpa [fields, h, hf, join] using ih

/-- The text with every `old` replaced by `new`. -/
def exchange (old new : Char) (text : List Char) : List Char :=
  text.map fun c => if c = old then new else c

/-- Whether `mark` occurs anywhere in the text. -/
def occurs (mark text : List Char) : Bool := (cutAt mark text).isSome

/-- The strict order of texts by code point. -/
def before : List Char → List Char → Bool
  | _, [] => false
  | [], _ :: _ => true
  | a :: as, b :: bs => a.toNat < b.toNat || (a.toNat == b.toNat && before as bs)

/-- Whether `a` comes before `b` or equals it, by code point. -/
def precedes (a b : String) : Bool := !before b.toList a.toList

/-- The texts in the order of their code points. -/
def sorted (texts : List String) : List String := texts.mergeSort precedes

/-- The text without the characters of a class at its end. -/
def trimEnd (drop : Char → Bool) (text : List Char) : List Char :=
  (text.reverse.dropWhile drop).reverse

/-- The text without the characters of a class at its two ends. -/
def trimBoth (drop : Char → Bool) (text : List Char) : List Char :=
  trimEnd drop (text.dropWhile drop)

/-- The parts of a string between all occurrences of `c`. -/
def split (c : Char) (text : String) : List String :=
  (fields c text.toList).map String.ofList

/-- Whether a string ends in `suffix`. -/
def endsWith (suffix text : String) : Bool := suffix.toList.isSuffixOf text.toList

/-- Whether a string starts with `start`. -/
def startsWith (start text : String) : Bool := start.toList.isPrefixOf text.toList

/-- The decimal text of a number, filled up with zeros on the left to `width` digits. -/
def padded (width n : Nat) : String :=
  let digits := Nat.toDigits 10 n
  String.ofList (List.replicate (width - digits.length) '0' ++ digits)

end Lookup.Text
