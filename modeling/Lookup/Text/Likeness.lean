import Lookup.Text.Basic

/-!
# Texts that are alike

Two texts are compared by the blocks that they share: the longest common block, then the longest ones
before and behind it, and so on. They are alike when twice the length of the blocks is at least three
fifths of the length of both.

## Main definitions

* `longestBlock` — the longest common block of two texts
* `sharedLength` — the length of the common blocks
* `alike` — the texts that are most like a text
-/

namespace Lookup.Text

/-- The length of the longest common beginning. -/
def commonLength : List Char → List Char → Nat
  | a :: as, b :: bs => if a = b then commonLength as bs + 1 else 0
  | _, _ => 0

/-- A block that two texts share. -/
structure Block where
  /-- Where it begins in the first text. -/
  first : Nat
  /-- Where it begins in the second text. -/
  second : Nat
  length : Nat
  deriving DecidableEq, Repr

/-- The longest common block of two texts; of several, the one that comes first in the first text, and
then in the second. -/
def longestBlock (a b : List Char) : Block :=
  let starts := (List.range a.length).flatMap fun i => (List.range b.length).map fun j => (i, j)
  starts.foldl (fun best (i, j) =>
    let length := commonLength (a.drop i) (b.drop j)
    if best.length < length then ⟨i, j, length⟩ else best) ⟨0, 0, 0⟩

/-- The length of the common blocks of two texts, of at most `fuel` levels of blocks. -/
def sharedWithin : Nat → List Char → List Char → Nat
  | 0, _, _ => 0
  | fuel + 1, a, b =>
    let block := longestBlock a b
    if block.length = 0 then 0
    else
      sharedWithin fuel (a.take block.first) (b.take block.second) + block.length +
        sharedWithin fuel (a.drop (block.first + block.length))
          (b.drop (block.second + block.length))

/-- The length of the common blocks of two texts. -/
def sharedLength (a b : List Char) : Nat := sharedWithin a.length a b

/-- How much a candidate is like a text: the shared length and the length of both. -/
structure Likeness where
  candidate : String
  shared : Nat
  total : Nat
  deriving DecidableEq, Repr

/-- How much a candidate is like a text. -/
def Likeness.of (text candidate : String) : Likeness :=
  ⟨candidate, sharedLength candidate.toList text.toList, candidate.length + text.length⟩

/-- Whether the candidate is like the text. -/
def Likeness.holds (likeness : Likeness) : Bool := 3 * likeness.total ≤ 10 * likeness.shared

/-- Whether `a` is more like the text than `b`, or as much and not before it by code point. -/
def Likeness.beats (a b : Likeness) : Bool :=
  let left := a.shared * b.total
  let right := b.shared * a.total
  right < left || (left == right && precedes b.candidate a.candidate)

/-- The most candidates that are offered for a text. -/
def offerLimit : Nat := 3

/-- The candidates that are most like a text, in the order of their code points. -/
def alike (text : String) (candidates : List String) : List String :=
  let likely := (candidates.map (Likeness.of text)).filter Likeness.holds
  sorted (((likely.mergeSort Likeness.beats).take offerLimit).map (·.candidate))

end Lookup.Text
