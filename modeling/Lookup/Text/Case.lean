import Lookup.Text.CaseTable

/-!
# Changing the case of a text

Case is changed with the full mappings: one character may become several, and the shape of a lower
case sigma depends on its neighbours. A capital sigma becomes the final form where a cased letter
comes before it and none after it, characters that case ignores being passed over.

## Main definitions

* `lower`, `upper` — the text in lower and in upper case
-/

namespace Lookup.Text

/-- Where the first run that holds `n` takes it; `n` itself where there is none. -/
def shiftCase (runs : List CaseRun) (n : Nat) : Nat :=
  (runs.findSome? fun run => run.apply? n).getD n

/-- The lower case of a character, apart from its surroundings. -/
def lowerChar (c : Char) : List Char :=
  if c.toNat = 0x130 then ['i', Char.ofNat 0x307] else [Char.ofNat (shiftCase lowerRuns c.toNat)]

/-- The upper case of a character. -/
def upperChar (c : Char) : List Char :=
  match upperExpansions.find? fun entry => entry.1 = c.toNat with
  | some entry => entry.2.map Char.ofNat
  | none => [Char.ofNat (shiftCase upperRuns c.toNat)]

/-- Whether the next character that counts is a cased letter. -/
def casedNext (rest : List Char) : Bool :=
  match rest.dropWhile fun c => caseIgnorable.contains c with
  | [] => false
  | c :: _ => cased.contains c

/-- The lower case of a text that stands after a cased letter, or not. -/
def lowerFrom (afterCased : Bool) : List Char → List Char
  | [] => []
  | c :: rest =>
    let image :=
      if c.toNat = 0x3A3 then
        [Char.ofNat (if afterCased && !casedNext rest then 0x3C2 else 0x3C3)]
      else lowerChar c
    let after := if caseIgnorable.contains c then afterCased else cased.contains c
    image ++ lowerFrom after rest

/-- A text in lower case. -/
def lower (text : List Char) : List Char := lowerFrom false text

/-- A text in upper case. -/
def upper (text : List Char) : List Char := text.flatMap upperChar

/-- A string in lower case. -/
def lowerString (text : String) : String := String.ofList (lower text.toList)

/-- A string in upper case. -/
def upperString (text : String) : String := String.ofList (upper text.toList)

end Lookup.Text
