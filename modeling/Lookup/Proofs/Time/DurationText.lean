import Lookup.Proofs.Number.Decimal
import Lookup.Time.Duration

/-!
# Durations as they are written

The text of a duration has a part for each designator, in a fixed order: days, then behind a `T` hours, minutes
and seconds. Each part is a number with its designator behind it and may be left out, but there is at least one,
and at least one behind the `T`. The rules say so apart from any reader, and the reader finds exactly the texts
that they allow, with the parts that are written there. They are given the designators of seconds, since the
reader takes one more than the standard has.

## Main definitions

* `IsNumber`, `IsPart`, `IsSeconds` — the parts of the text of a duration
* `IsDuration` — the rules for the text of a duration
* `Starts` — a text starts with a number and one of some designators

## Main results

* `takePart_append`, `takeSeconds_append` — a part that is written is found
* `durationParts?_eq_some_iff` — the reader follows the rules
-/

namespace Lookup.Time

open Number Text

variable {number : Bool × List Char} {part seconds : Option (Bool × List Char)}
  {designators text front rest fraction : List Char} {parts : DurationParts}

/-! ### The rules -/

/-- A number: a sign or none, and one or more digits. -/
inductive IsNumber : Bool × List Char → List Char → Prop
  | intro {negative : Bool} {sign digits : List Char} (isSign : IsSign negative sign) (digits_ne : digits ≠ [])
      (isDigit : ∀ c ∈ digits, c.isDigit = true) : IsNumber (negative, digits) (sign ++ digits)

/-- A number with one of some designators behind it, or nothing where the part is left out. -/
inductive IsPart (designators : List Char) : Option (Bool × List Char) → List Char → Prop
  | absent : IsPart designators none []
  | present {number : Bool × List Char} {text : List Char} {designator : Char} (isNumber : IsNumber number text)
      (mem : designator ∈ designators) : IsPart designators (some number) (text ++ [designator])

/-- Seconds, where a point or a comma and up to nine digits may stand between the number and the designator. -/
inductive IsSeconds (designators : List Char) : Option (Bool × List Char) → List Char → List Char → Prop
  | whole {part : Option (Bool × List Char)} {text : List Char} (isPart : IsPart designators part text) :
      IsSeconds designators part [] text
  | broken {number : Bool × List Char} {text fraction : List Char} {mark designator : Char}
      (isNumber : IsNumber number text) (isMark : mark = '.' ∨ mark = ',') (length_le : fraction.length ≤ 9)
      (isDigit : ∀ c ∈ fraction, c.isDigit = true) (mem : designator ∈ designators) :
      IsSeconds designators (some number) fraction (text ++ mark :: (fraction ++ [designator]))

/-- The text of a duration: days, or behind a `T` at least one of hours, minutes and seconds, or both. The
designators of seconds are given. -/
inductive IsDuration (designators : List Char) : DurationParts → List Char → Prop
  | days {negative : Bool} {sign text : List Char} {p : Char} {days : Bool × List Char}
      (isSign : IsSign negative sign) (isP : p ∈ ['P', 'p']) (isDays : IsPart ['D', 'd'] (some days) text) :
      IsDuration designators ⟨negative, some days, none, none, none, []⟩ (sign ++ p :: text)
  | clock {negative : Bool} {sign textD textH textM textS fraction : List Char} {p t : Char}
      {days hours minutes seconds : Option (Bool × List Char)}
      (isSign : IsSign negative sign) (isP : p ∈ ['P', 'p']) (isDays : IsPart ['D', 'd'] days textD)
      (isT : t ∈ ['T', 't']) (isHours : IsPart ['H', 'h'] hours textH)
      (isMinutes : IsPart ['M', 'm'] minutes textM) (isSeconds : IsSeconds designators seconds fraction textS)
      (some_isSome : hours.isSome ∨ minutes.isSome ∨ seconds.isSome) :
      IsDuration designators ⟨negative, days, hours, minutes, seconds, fraction⟩
        (sign ++ p :: (textD ++ t :: (textH ++ (textM ++ textS))))

/-! ### Numbers -/

/-- A digit is no sign. -/
theorem ne_sign_of_isDigit {c : Char} (h : c.isDigit = true) : c ≠ '-' ∧ c ≠ '+' := by
  constructor
  · rintro rfl
    exact absurd h (by decide)
  · rintro rfl
    exact absurd h (by decide)

/-- A number is taken off up to where its digits end. -/
theorem takeNumber?_append (h : IsNumber number front) (hrest : ∀ c ∈ rest.head?, c.isDigit = false) :
    takeNumber? (front ++ rest) = some (number, rest) := by
  obtain @⟨negative, sign, digits, isSign, digits_ne, isDigit⟩ := h
  have hsign : ∀ c ∈ (digits ++ rest).head?, c ≠ '-' ∧ c ≠ '+' := by
    intro c hc
    rw [List.head?_append_of_ne_nil _ digits_ne] at hc
    exact ne_sign_of_isDigit (isDigit c (List.mem_of_mem_head? hc))
  obtain ⟨htake, hdrop⟩ := takeWhile_append_eq Char.isDigit isDigit hrest
  simp only [takeNumber?, List.append_assoc, takeSign_append isSign hsign, isDigit_eq, htake, hdrop,
    if_neg digits_ne]

theorem exists_of_takeNumber? (h : takeNumber? text = some (number, rest)) :
    ∃ front, IsNumber number front ∧ text = front ++ rest := by
  obtain ⟨sign, hsign, htext⟩ := exists_takeSign text
  simp only [takeNumber?, isDigit_eq] at h
  split at h
  · cases h
  · next hne =>
    obtain ⟨rfl, rfl⟩ := Prod.mk.inj (Option.some.inj h)
    refine ⟨_, .intro hsign hne fun c hc => List.mem_takeWhile_imp hc, ?_⟩
    rw [List.append_assoc, List.takeWhile_append_dropWhile]
    exact htext

/-! ### Parts -/

/-- A text starts with a number and one of some designators. -/
def Starts (designators text : List Char) : Prop :=
  ∃ number designator rest, takeNumber? text = some (number, designator :: rest) ∧ designator ∈ designators

theorem takePart_of_starts {designator : Char} (h : takeNumber? text = some (number, designator :: rest))
    (mem : designator ∈ designators) : takePart designators text = (some number, rest) := by
  simp only [takePart, h, List.contains_iff_mem, mem, if_true]

theorem takePart_of_not_starts (h : ¬ Starts designators text) : takePart designators text = (none, text) := by
  unfold takePart
  split
  · next number c rest hnumber =>
    have hc : ¬ designators.contains c = true := fun hc =>
      h ⟨number, c, rest, hnumber, List.contains_iff_mem.1 hc⟩
    rw [if_neg hc]
  · rfl

/-- A part that is written is found, and none is found where none is written and none begins. -/
theorem takePart_append (h : IsPart designators part front)
    (hdesignators : ∀ c ∈ designators, c.isDigit = false) (hrest : part = none → ¬ Starts designators rest) :
    takePart designators (front ++ rest) = (part, rest) := by
  cases h with
  | absent => exact takePart_of_not_starts (hrest rfl)
  | @present number text designator isNumber mem =>
    refine takePart_of_starts ?_ mem
    rw [List.append_assoc]
    exact takeNumber?_append isNumber (by simpa using hdesignators designator mem)

theorem exists_of_takePart (h : takePart designators text = (part, rest)) :
    ∃ front, IsPart designators part front ∧ text = front ++ rest := by
  by_cases hstarts : Starts designators text
  · obtain ⟨number, designator, more, hnumber, mem⟩ := hstarts
    rw [takePart_of_starts hnumber mem] at h
    obtain ⟨rfl, rfl⟩ := Prod.mk.inj h
    obtain ⟨front, isNumber, rfl⟩ := exists_of_takeNumber? hnumber
    exact ⟨front ++ [designator], .present isNumber mem, by simp⟩
  · rw [takePart_of_not_starts hstarts] at h
    obtain ⟨rfl, rfl⟩ := Prod.mk.inj h
    exact ⟨[], .absent, rfl⟩

/-! ### Seconds -/

/-- The letter that is written for an s inside of words in old print. -/
def longS : Char := Char.ofNat 0x17F

/-- The designators of seconds that are read. -/
def secondDesignators : List Char := ['S', 's', longS]

theorem isDigit_of_mem_secondDesignators : ∀ c ∈ secondDesignators, c.isDigit = false := by
  simp [secondDesignators, longS]

/-- Seconds that are written are found, as they come last. -/
theorem takeSeconds_eq (h : IsSeconds secondDesignators seconds fraction front) :
    takeSeconds front = (seconds, fraction, []) := by
  cases h with
  | whole isPart =>
    cases isPart with
    | absent => rfl
    | @present number text designator isNumber mem =>
      have hrest : ∀ c ∈ [designator].head?, c.isDigit = false := by
        simpa using isDigit_of_mem_secondDesignators designator mem
      have hmem : ['S', 's', Char.ofNat 0x17F].contains designator = true := List.contains_iff_mem.2 mem
      simp only [takeSeconds, takeNumber?_append isNumber hrest, hmem, if_true]
  | @broken number text fraction mark designator isNumber isMark length_le isDigit mem =>
    -- The mark is neither a digit nor a designator, so that the number ends there and the fraction begins.
    have hmark : mark.isDigit = false ∧ ['S', 's', Char.ofNat 0x17F].contains mark = false := by
      rcases isMark with rfl | rfl <;> decide
    have hmem : ['S', 's', Char.ofNat 0x17F].contains designator = true := List.contains_iff_mem.2 mem
    have hrest : ∀ c ∈ [designator].head?, c.isDigit = false := by
      simpa using isDigit_of_mem_secondDesignators designator mem
    obtain ⟨htake, hdrop⟩ := takeWhile_append_eq Char.isDigit isDigit hrest
    have hnumber : takeNumber? (text ++ mark :: (fraction ++ [designator])) =
        some (number, mark :: (fraction ++ [designator])) := takeNumber?_append isNumber (by simpa using hmark.1)
    simp only [takeSeconds, hnumber, hmark.2, Bool.false_eq_true, if_false, isMark, if_true, isDigit_eq, htake,
      hdrop, length_le, hmem, and_self]

theorem exists_of_takeSeconds (h : takeSeconds text = (seconds, fraction, rest)) :
    ∃ front, IsSeconds secondDesignators seconds fraction front ∧ text = front ++ rest := by
  have hnone : (none, [], text) = (seconds, fraction, rest) →
      ∃ front, IsSeconds secondDesignators seconds fraction front ∧ text = front ++ rest := by
    intro heq
    simp only [Prod.mk.injEq] at heq
    obtain ⟨rfl, rfl, rfl⟩ := heq
    exact ⟨[], .whole .absent, rfl⟩
  simp only [takeSeconds, isDigit_eq] at h
  split at h
  · next number c more hnumber =>
    obtain ⟨front, isNumber, rfl⟩ := exists_of_takeNumber? hnumber
    split at h
    · next hc =>
      simp only [Prod.mk.injEq] at h
      obtain ⟨rfl, rfl, rfl⟩ := h
      exact ⟨front ++ [c], .whole (.present isNumber (List.contains_iff_mem.1 hc)), by simp⟩
    split at h
    · next hmark =>
      split at h
      · next designator last hdrop =>
        split at h
        · next hlimit =>
          simp only [Prod.mk.injEq] at h
          obtain ⟨rfl, rfl, rfl⟩ := h
          have hmore : more.takeWhile Char.isDigit ++ designator :: last = more := by
            rw [← hdrop, List.takeWhile_append_dropWhile]
          exact ⟨_, .broken isNumber hmark hlimit.1 (fun c hc => List.mem_takeWhile_imp hc)
            (List.contains_iff_mem.1 hlimit.2), by simp [hmore]⟩
        · exact hnone h
      · exact hnone h
    · exact hnone h
  · exact hnone h

/-! ### The reader -/

theorem not_starts_of_takeNumber? {c : Char} (h : takeNumber? text = some (number, c :: rest))
    (hc : c ∉ designators) : ¬ Starts designators text := by
  rintro ⟨number', designator, rest', h', mem⟩
  obtain ⟨-, hcons⟩ := Prod.mk.inj (Option.some.inj (h.symm.trans h'))
  exact hc ((List.cons.inj hcons).1 ▸ mem)

theorem not_starts_nil : ¬ Starts designators [] := by
  rintro ⟨number, designator, rest, h, -⟩
  cases h

/-- No number starts with a letter. -/
theorem not_starts_cons {c : Char} (hc : c ∈ ['T', 't']) : ¬ Starts designators (c :: rest) := by
  rintro ⟨number, designator, rest, h, -⟩
  simp only [List.mem_cons, List.not_mem_nil, or_false] at hc
  rcases hc with rfl | rfl <;> cases h

/-- A part with other designators is none of these, and what comes behind it if it is left out. -/
theorem not_starts_append {others : List Char} (h : IsPart others part front)
    (hothers : ∀ c ∈ others, c.isDigit = false ∧ c ∉ designators) (hrest : ¬ Starts designators rest) :
    ¬ Starts designators (front ++ rest) := by
  cases h with
  | absent => exact hrest
  | @present number text designator isNumber mem =>
    obtain ⟨hdigit, hmem⟩ := hothers designator mem
    rw [List.append_assoc]
    exact not_starts_of_takeNumber? (takeNumber?_append isNumber (by simpa using hdigit)) hmem

theorem not_starts_seconds {others : List Char} (h : IsSeconds others seconds fraction front)
    (hothers : ∀ c ∈ '.' :: ',' :: others, c.isDigit = false ∧ c ∉ designators) :
    ¬ Starts designators front := by
  cases h with
  | whole isPart =>
    have hothers' : ∀ c ∈ others, c.isDigit = false ∧ c ∉ designators := fun c hc =>
      hothers c (List.mem_cons_of_mem _ (List.mem_cons_of_mem _ hc))
    have hpart : ¬ Starts designators (front ++ []) := not_starts_append isPart hothers' not_starts_nil
    rwa [List.append_nil] at hpart
  | @broken number text fraction mark designator isNumber isMark length_le isDigit mem =>
    obtain ⟨hdigit, hmem⟩ := hothers mark (by rcases isMark with rfl | rfl <;> simp)
    exact not_starts_of_takeNumber? (takeNumber?_append isNumber (by simpa using hdigit)) hmem

/-- The parts that are written are read. -/
theorem durationParts?_of_isDuration (h : IsDuration secondDesignators parts text) :
    durationParts? text = some parts := by
  have hp : ∀ p ∈ ['P', 'p'], (p ≠ '-' ∧ p ≠ '+') ∧ (p = 'P' ∨ p = 'p') := by simp
  cases h with
  | @days negative sign text p days isSign isP isDays =>
    have hsign : takeSign (sign ++ p :: text) = (negative, p :: text) :=
      takeSign_append isSign (by simpa using (hp p isP).1)
    have hdays : takePart ['D', 'd'] text = (some days, []) := by
      have happend := takePart_append isDays (by simp) fun _ => not_starts_nil
      rwa [List.append_nil] at happend
    simp only [durationParts?, hsign, (hp p isP).2, if_true, hdays, Option.isSome_some]
  | @clock negative sign textD textH textM textS fraction p t days hours minutes seconds isSign isP isDays isT
      isHours isMinutes isSeconds some_isSome =>
    have hsign : takeSign (sign ++ p :: (textD ++ t :: (textH ++ (textM ++ textS)))) =
        (negative, p :: (textD ++ t :: (textH ++ (textM ++ textS)))) :=
      takeSign_append isSign (by simpa using (hp p isP).1)
    -- A part that is left out is not found in those that follow, whose designators are others.
    have hdays : takePart ['D', 'd'] (textD ++ t :: (textH ++ (textM ++ textS))) =
        (days, t :: (textH ++ (textM ++ textS))) := takePart_append isDays (by simp) fun _ => not_starts_cons isT
    have hhours : takePart ['H', 'h'] (textH ++ (textM ++ textS)) = (hours, textM ++ textS) := by
      refine takePart_append isHours (by simp) fun _ => ?_
      exact not_starts_append isMinutes (by simp) (not_starts_seconds isSeconds (by simp [secondDesignators, longS]))
    have hminutes : takePart ['M', 'm'] (textM ++ textS) = (minutes, textS) :=
      takePart_append isMinutes (by simp) fun _ => not_starts_seconds isSeconds (by simp [secondDesignators, longS])
    have ht : t = 'T' ∨ t = 't' := by simpa using isT
    simp only [durationParts?, hsign, (hp p isP).2, if_true, hdays, ht, hhours, hminutes, takeSeconds_eq isSeconds,
      some_isSome, and_self]

theorem isDuration_of_durationParts? (h : durationParts? text = some parts) :
    IsDuration secondDesignators parts text := by
  obtain ⟨sign, isSign, htext⟩ := exists_takeSign text
  simp only [durationParts?] at h
  split at h
  · next p rest hrest =>
    rw [htext, hrest]
    split at h
    · next hp =>
      have isP : p ∈ ['P', 'p'] := by simpa using hp
      rcases hdays : takePart ['D', 'd'] rest with ⟨days, afterDays⟩
      obtain ⟨textD, isDays, rfl⟩ := exists_of_takePart hdays
      simp only [hdays] at h
      split at h
      · split at h
        · next hsome =>
          obtain rfl := Option.some.inj h
          obtain ⟨number, rfl⟩ := Option.isSome_iff_exists.1 hsome
          rw [List.append_nil]
          exact .days isSign isP isDays
        · cases h
      · next t afterT =>
        split at h
        · next ht =>
          have isT : t ∈ ['T', 't'] := by simpa using ht
          rcases hhours : takePart ['H', 'h'] afterT with ⟨hours, afterHours⟩
          obtain ⟨textH, isHours, rfl⟩ := exists_of_takePart hhours
          rcases hminutes : takePart ['M', 'm'] afterHours with ⟨minutes, afterMinutes⟩
          obtain ⟨textM, isMinutes, rfl⟩ := exists_of_takePart hminutes
          rcases hseconds : takeSeconds afterMinutes with ⟨seconds, fraction, last⟩
          obtain ⟨textS, isSeconds, rfl⟩ := exists_of_takeSeconds hseconds
          simp only [hhours, hminutes, hseconds] at h
          split at h
          · next hend =>
            obtain rfl := Option.some.inj h
            rw [hend.1, List.append_nil]
            exact .clock isSign isP isDays isT isHours isMinutes isSeconds hend.2
          · cases h
        · cases h
    · cases h
  · cases h

/-- What is read are the parts that are written. -/
theorem durationParts?_eq_some_iff :
    durationParts? text = some parts ↔ IsDuration secondDesignators parts text :=
  ⟨isDuration_of_durationParts?, durationParts?_of_isDuration⟩

end Lookup.Time
