import Lookup.Proofs.Time.DurationText
import Lookup.Time.Almanac
import Lookup.Value.Convert

/-!
# Durations of the standard

ISO 8601 writes the designators of a duration as ASCII letters. The reader allows one more letter for seconds, a
long s. It stands at the end of a text if anywhere, and in the place of an s. So besides the durations of the
standard the reader takes just those texts that come from one of them by exchanging an s at the end, and it
refuses all others for their form.

## Main definitions

* `IsIsoDuration` — the text of a duration as the standard has it
* `IsLimit` — the reasons for which a text of the right form may be refused

## Main results

* `IsIsoDuration.isAscii` — durations of the standard are written in ASCII
* `exists_isDuration_iff` — what is read beside the durations of the standard
* `Registry.convert_duration_refuses_iff` — which texts are refused for their form
-/

namespace Lookup.Time

open Number

variable {number : Bool × List Char} {part seconds : Option (Bool × List Char)}
  {designators text fraction : List Char} {parts : DurationParts}

/-- The text of a duration as the standard has it. -/
def IsIsoDuration (text : List Char) : Prop := ∃ parts, IsDuration ['S', 's'] parts text

/-! ### ASCII -/

theorem isAscii_of_isDigit {c : Char} (h : c.isDigit = true) : c.toNat < 128 := by
  have hlt := toNat_sub_lt h
  rw [toNat_zero] at hlt
  omega

theorem IsNumber.isAscii (h : IsNumber number text) : ∀ c ∈ text, c.toNat < 128 := by
  obtain @⟨negative, sign, digits, isSign, -, isDigit⟩ := h
  refine List.forall_mem_append.2 ⟨?_, fun c hc => isAscii_of_isDigit (isDigit c hc)⟩
  cases isSign <;> simp

theorem IsPart.isAscii (h : IsPart designators part text) (hdesignators : ∀ c ∈ designators, c.toNat < 128) :
    ∀ c ∈ text, c.toNat < 128 := by
  cases h with
  | absent => exact fun c hc => absurd hc List.not_mem_nil
  | present isNumber mem =>
    exact List.forall_mem_append.2 ⟨isNumber.isAscii, by simpa using hdesignators _ mem⟩

theorem IsSeconds.isAscii (h : IsSeconds designators seconds fraction text)
    (hdesignators : ∀ c ∈ designators, c.toNat < 128) : ∀ c ∈ text, c.toNat < 128 := by
  cases h with
  | whole isPart => exact isPart.isAscii hdesignators
  | @broken number text fraction mark designator isNumber isMark length_le isDigit mem =>
    have hmark : mark.toNat < 128 := by rcases isMark with rfl | rfl <;> decide
    refine List.forall_mem_append.2 ⟨isNumber.isAscii, List.forall_mem_cons.2 ⟨hmark, ?_⟩⟩
    exact List.forall_mem_append.2
      ⟨fun c hc => isAscii_of_isDigit (isDigit c hc), by simpa using hdesignators _ mem⟩

/-- A duration of the standard is written in ASCII. -/
theorem IsIsoDuration.isAscii (h : IsIsoDuration text) : ∀ c ∈ text, c.toNat < 128 := by
  have hsign : ∀ {negative sign}, IsSign negative sign → ∀ c ∈ sign, c.toNat < 128 := by
    intro negative sign isSign
    cases isSign <;> simp
  have hletter : ∀ c ∈ ['P', 'p', 'T', 't'], c.toNat < 128 := by simp
  obtain ⟨parts, h⟩ := h
  cases h with
  | @days negative sign text p days isSign isP isDays =>
    have hp := hletter p (List.mem_append_left ['T', 't'] isP)
    exact List.forall_mem_append.2 ⟨hsign isSign, List.forall_mem_cons.2 ⟨hp, isDays.isAscii (by simp)⟩⟩
  | @clock negative sign textD textH textM textS fraction p t days hours minutes seconds isSign isP isDays isT
      isHours isMinutes isSeconds some_isSome =>
    have hp := hletter p (List.mem_append_left ['T', 't'] isP)
    have ht := hletter t (List.mem_append_right ['P', 'p'] isT)
    refine List.forall_mem_append.2 ⟨hsign isSign, List.forall_mem_cons.2 ⟨hp, ?_⟩⟩
    refine List.forall_mem_append.2 ⟨isDays.isAscii (by simp), List.forall_mem_cons.2 ⟨ht, ?_⟩⟩
    refine List.forall_mem_append.2 ⟨isHours.isAscii (by simp), ?_⟩
    exact List.forall_mem_append.2 ⟨isMinutes.isAscii (by simp), isSeconds.isAscii (by simp)⟩

/-! ### A long s in the place of an s -/

/-- Seconds end in their designator, which may be exchanged for any other. -/
theorem IsSeconds.exchange (h : IsSeconds designators seconds fraction text) :
    (text = [] ∧ ∀ others, IsSeconds others seconds fraction text) ∨
    ∃ front, ∃ c ∈ designators, text = front ++ [c] ∧
      ∀ others, ∀ d ∈ others, IsSeconds others seconds fraction (front ++ [d]) := by
  cases h with
  | whole isPart =>
    cases isPart with
    | absent => exact .inl ⟨rfl, fun others => .whole .absent⟩
    | present isNumber mem =>
      exact .inr ⟨_, _, mem, rfl, fun others d hd => .whole (.present isNumber hd)⟩
  | @broken number text fraction mark designator isNumber isMark length_le isDigit mem =>
    refine .inr ⟨text ++ mark :: fraction, designator, mem, by simp, fun others d hd => ?_⟩
    rw [List.append_assoc, List.cons_append]
    exact .broken isNumber isMark length_le isDigit hd

/-- The letters that end the text of a duration without seconds. -/
def otherLetters : List Char := ['D', 'd', 'T', 't', 'H', 'h', 'M', 'm']

theorem IsPart.getLast?_mem (h : IsPart designators part text) : ∀ c ∈ text.getLast?, c ∈ designators := by
  cases h with
  | absent => simp
  | present isNumber mem => simpa using mem

/-- A duration ends in another letter, or in the designator of its seconds, which may be exchanged. -/
theorem IsDuration.exchange (h : IsDuration designators parts text) :
    ((∀ c ∈ text.getLast?, c ∈ otherLetters) ∧ ∀ others, IsDuration others parts text) ∨
    ∃ front, ∃ c ∈ designators, text = front ++ [c] ∧
      ∀ others, ∀ d ∈ others, IsDuration others parts (front ++ [d]) := by
  cases h with
  | @days negative sign text p days isSign isP isDays =>
    refine .inl ⟨?_, fun others => .days isSign isP isDays⟩
    have hlast := isDays.getLast?_mem
    cases isDays with
    | present isNumber mem =>
      rw [← List.cons_append, ← List.append_assoc, List.getLast?_concat]
      rw [List.getLast?_concat] at hlast
      exact fun c hc => List.mem_append_left ['T', 't', 'H', 'h', 'M', 'm'] (hlast c hc)
  | @clock negative sign textD textH textM textS fraction p t days hours minutes seconds isSign isP isDays isT
      isHours isMinutes isSeconds some_isSome =>
    rcases isSeconds.exchange with ⟨rfl, hseconds⟩ | ⟨front, c, hc, rfl, hexchange⟩
    · refine .inl ⟨fun c hc => ?_, fun others =>
        .clock isSign isP isDays isT isHours isMinutes (hseconds others) some_isSome⟩
      -- Without seconds the text ends in minutes, in hours or at least in the `T`.
      simp only [List.append_nil, List.getLast?_append, List.getLast?_cons, Option.some_or, Option.getD_some,
        Option.mem_some_iff] at hc
      subst hc
      have hsubset : ['M', 'm'] ⊆ otherLetters ∧ ['H', 'h'] ⊆ otherLetters ∧ ['T', 't'] ⊆ otherLetters := by
        decide
      cases hminutes : textM.getLast? with
      | some c => exact hsubset.1 (isMinutes.getLast?_mem c hminutes)
      | none =>
        cases hhours : textH.getLast? with
        | some c => exact hsubset.2.1 (isHours.getLast?_mem c hhours)
        | none => exact hsubset.2.2 isT
    · refine .inr ⟨sign ++ p :: (textD ++ t :: (textH ++ (textM ++ front))), c, hc, by simp, fun others d hd => ?_⟩
      have hclock := IsDuration.clock isSign isP isDays isT isHours isMinutes (hexchange others d hd) some_isSome
      simpa using hclock

/-- What is read are the durations of the standard, and those with a long s in the place of an s at the end. -/
theorem exists_isDuration_iff :
    (∃ parts, IsDuration secondDesignators parts text) ↔
      IsIsoDuration text ∨ ∃ start, text = start ++ [longS] ∧ IsIsoDuration (start ++ ['S']) := by
  constructor
  · rintro ⟨parts, h⟩
    rcases h.exchange with ⟨-, hany⟩ | ⟨front, c, hc, rfl, hexchange⟩
    · exact .inl ⟨parts, hany ['S', 's']⟩
    · have hcases : c ∈ ['S', 's'] ∨ c = longS := by
        simpa [secondDesignators, or_assoc] using hc
      rcases hcases with hiso | rfl
      · exact .inl ⟨parts, hexchange ['S', 's'] c hiso⟩
      · exact .inr ⟨front, rfl, parts, hexchange ['S', 's'] 'S' (by decide)⟩
  · rintro (⟨parts, h⟩ | ⟨start, rfl, parts, h⟩)
    · rcases h.exchange with ⟨-, hany⟩ | ⟨front, c, hc, rfl, hexchange⟩
      · exact ⟨parts, hany secondDesignators⟩
      · exact ⟨parts, hexchange secondDesignators c (List.mem_append_left [longS] hc)⟩
    · -- A text with an `S` at its end has seconds, so that it is this `S` that may be exchanged.
      rcases h.exchange with ⟨hlast, -⟩ | ⟨front, c, -, hfront, hexchange⟩
      · exact absurd (hlast 'S' (by simp)) (by decide)
      · obtain ⟨rfl, -⟩ := List.append_inj' hfront rfl
        exact ⟨parts, hexchange secondDesignators longS (by decide)⟩

/-! ### What is refused -/

/-- The reasons that concern the size of a duration and not its form. -/
inductive IsLimit : Reason → Prop
  | digits (count : Nat) : IsLimit (.tooManyDigits count)
  | overflow : IsLimit .daysOverflow
  | days (count : Int) : IsLimit (.daysLimit count)

/-- What fails, fails for the size of a duration. -/
def FailsByLimit {α : Type} (result : Except Reason α) : Prop := ∀ reason, result = .error reason → IsLimit reason

theorem FailsByLimit.bind {α β : Type} {result : Except Reason α} {next : α → Except Reason β}
    (h : FailsByLimit result) (hnext : ∀ a, FailsByLimit (next a)) : FailsByLimit (result >>= next) := by
  intro reason hreason
  cases result with
  | error error =>
    obtain rfl := Except.error.inj hreason
    exact h _ rfl
  | ok a => exact hnext a reason hreason

theorem failsByLimit_ok {α : Type} (a : α) : FailsByLimit (.ok a) := fun _ hreason => nomatch hreason

theorem failsByLimit_partValue (part : Option (Bool × List Char)) : FailsByLimit (partValue part) := by
  cases part with
  | none => exact failsByLimit_ok 0
  | some number =>
    rw [partValue]
    split
    · intro reason hreason
      obtain rfl := Except.error.inj hreason
      exact .digits _
    · exact failsByLimit_ok _

theorem failsByLimit_of (micros : Int) : FailsByLimit (Duration.of micros) := by
  unfold Duration.of
  dsimp only
  split
  · intro reason hreason
    obtain rfl := Except.error.inj hreason
    exact .overflow
  split
  · exact failsByLimit_ok _
  · intro reason hreason
    obtain rfl := Except.error.inj hreason
    exact .days _

/-- A text of the right form is refused only for its size. -/
theorem failsByLimit_readDuration {text : String} (h : durationParts? text.toList = some parts) :
    FailsByLimit (readDuration text) := by
  simp only [readDuration, h]
  refine (failsByLimit_partValue _).bind fun seconds => (failsByLimit_partValue _).bind fun days =>
    (failsByLimit_partValue _).bind fun hours => (failsByLimit_partValue _).bind fun minutes =>
    (failsByLimit_of _).bind fun duration => ?_
  split
  · exact failsByLimit_of _
  · exact failsByLimit_ok _

theorem readDuration_eq_notIso_iff {text : String} :
    readDuration text = .error (.notIso .duration text) ↔
      ¬ ∃ parts, IsDuration secondDesignators parts text.toList := by
  simp only [← durationParts?_eq_some_iff]
  cases hparts : durationParts? text.toList with
  | none => simp [readDuration, hparts]
  | some parts =>
    refine iff_of_false (fun hnotIso => ?_) (by simp)
    cases failsByLimit_readDuration hparts _ hnotIso

end Lookup.Time

namespace Lookup.Registry

open Time

variable {ε : Type}

theorem convert_duration (registry : Registry ε) (text : String) :
    registry.convert (.tag .duration) text =
      ((readDuration text).map Value.duration).mapError (.refused text (.tag .duration)) := by
  simp only [convert, TypeKey.normalize, find?, TypeKey.tag?_tag, Tag.read]
  cases readDuration text <;> rfl

theorem convert_duration_eq_notIso_iff (registry : Registry ε) (text : String) :
    registry.convert (.tag .duration) text = .error (.refused text (.tag .duration) (.notIso .duration text)) ↔
      readDuration text = .error (.notIso .duration text) := by
  rw [convert_duration]
  cases readDuration text <;> simp [Except.map, Except.mapError]

/-- As a duration a text is refused for its form unless it is a duration of the standard, or is one with a long s
in the place of an s at the end. So of the texts that are not in ASCII just those with this s are not refused for
their form. -/
theorem convert_duration_refuses_iff (registry : Registry ε) (text : String) :
    (registry.convert (.tag .duration) text = .error (.refused text (.tag .duration) (.notIso .duration text)) ↔
      ¬ (IsIsoDuration text.toList ∨ ∃ start, text.toList = start ++ [longS] ∧ IsIsoDuration (start ++ ['S']))) ∧
    ((∃ c ∈ text.toList, 128 ≤ c.toNat) →
      (registry.convert (.tag .duration) text ≠ .error (.refused text (.tag .duration) (.notIso .duration text)) ↔
        ∃ start, text.toList = start ++ [longS] ∧ IsIsoDuration (start ++ ['S']))) := by
  have hrefused : registry.convert (.tag .duration) text =
      .error (.refused text (.tag .duration) (.notIso .duration text)) ↔
        ¬ (IsIsoDuration text.toList ∨
          ∃ start, text.toList = start ++ [longS] ∧ IsIsoDuration (start ++ ['S'])) := by
    rw [convert_duration_eq_notIso_iff, readDuration_eq_notIso_iff, exists_isDuration_iff]
  refine ⟨hrefused, ?_⟩
  rintro ⟨c, hc, hlarge⟩
  have hiso : ¬ IsIsoDuration text.toList := fun hiso => absurd (hiso.isAscii c hc) (not_lt.2 hlarge)
  rw [ne_eq, hrefused, not_not, or_iff_right hiso]

/-- One second with a long s. -/
theorem convert_duration_longS :
    (∃ c ∈ (String.ofList ['P', 'T', '1', longS]).toList, 128 ≤ c.toNat) ∧
    (builtin almanac : Registry Empty).convert (.tag .duration) (String.ofList ['P', 'T', '1', longS]) ≠
      .error (.refused (String.ofList ['P', 'T', '1', longS]) (.tag .duration)
        (.notIso .duration (String.ofList ['P', 'T', '1', longS]))) := by
  have hlarge : ∃ c ∈ (String.ofList ['P', 'T', '1', longS]).toList, 128 ≤ c.toNat :=
    ⟨longS, by simp, by decide⟩
  have hone : IsNumber (false, ['1']) ['1'] := .intro .none (by decide) (by simp)
  have hiso : IsIsoDuration (['P', 'T', '1'] ++ ['S']) :=
    ⟨_, .clock .none (by decide) .absent (by decide) .absent .absent (.whole (.present hone (by decide)))
      (by decide)⟩
  exact ⟨hlarge, ((convert_duration_refuses_iff (builtin almanac) _).2 hlarge).2 ⟨['P', 'T', '1'], by simp, hiso⟩⟩

end Lookup.Registry
