import Mathlib.Tactic.Ring
import Lookup.Proofs.Time.IsoDuration
import Lookup.Time.Almanac

/-!
# The values of durations

The text of a duration stands for the sum of its parts in microseconds, turned round by a sign in front of it.
Each part counts with its own sign, and the fraction of a second with the sign that is written before the
seconds; of its digits six count. The parts may be of any size, and only their sum and the value itself have to
lie in the range of durations. Any duration can be written with days, seconds and six digits behind the point.

## Main definitions

* `DurationParts.total`, `DurationParts.signedTotal` — the sum of the parts, and the value
* `Duration.least`, `Duration.greatest`, `InRange` — the range of durations
* `isoText` — a duration written with days and seconds

## Main results

* `fractionMicros_eq` — digits behind the sixth do not count
* `Duration.of_of_inRange`, `Duration.of_of_not_inRange` — durations are the numbers in the range
* `Registry.convert_duration_eq_total` — the value of the text of a duration
-/

namespace Lookup.Time

open Number

variable {part : Option (Bool × List Char)} {designators fraction text : List Char} {parts : DurationParts}
  {micros : Int}

/-! ### The value of the parts -/

/-- The whole number of a part, zero where it is left out. -/
def signedValue : Option (Bool × List Char) → Int
  | none => 0
  | some (negative, digits) =>
    if negative then -(Nat.ofDigitChars 10 digits 0 : Int) else Nat.ofDigitChars 10 digits 0

/-- The microseconds of a fraction of a second, rounded towards zero. -/
def truncatedMicros (fraction : List Char) : Nat :=
  Nat.ofDigitChars 10 fraction 0 * 1000000 / 10 ^ fraction.length

namespace DurationParts

/-- The microseconds of the fraction, with the sign that is written before the seconds. -/
def signedMicros (parts : DurationParts) : Int :=
  -- The sign is kept apart from the seconds, as a minus before zero seconds counts as well.
  if parts.seconds.any (·.1) then -(truncatedMicros parts.fraction : Int) else truncatedMicros parts.fraction

/-- The sum of the parts in microseconds. -/
def total (parts : DurationParts) : Int :=
  signedValue parts.days * 86400000000 + signedValue parts.hours * 3600000000 +
    signedValue parts.minutes * 60000000 + signedValue parts.seconds * 1000000 + parts.signedMicros

/-- The sum, turned round by a minus in front of the text. -/
def signedTotal (parts : DurationParts) : Int := if parts.negative then -parts.total else parts.total

/-- The numbers that are written. -/
def numbers (parts : DurationParts) : List (Bool × List Char) :=
  parts.days.toList ++ parts.hours.toList ++ parts.minutes.toList ++ parts.seconds.toList

end DurationParts

theorem partValue_eq (h : ∀ number ∈ part.toList, number.2.length ≤ 4300) :
    partValue part = .ok (signedValue part) := by
  cases part with
  | none => rfl
  | some number =>
    have hlimit : ¬ digitLimit < number.2.length := not_lt.2 (h number (by simp))
    simp only [partValue, if_neg hlimit, digitsValue_eq, signedValue]

/-- Zeros are written behind the digits up to the sixth place, and what stands behind it is cut off. -/
theorem fractionMicros_eq (h : ∀ c ∈ fraction, c.isDigit = true) :
    fractionMicros fraction = truncatedMicros fraction := by
  have hzeros : ∀ c ∈ fraction ++ List.replicate 6 '0', c.isDigit = true :=
    List.forall_mem_append.2 ⟨h, by simp⟩
  rw [fractionMicros, digitsValue_eq, ofDigitChars_take hzeros, Nat.ofDigitChars_append,
    ofDigitChars_replicate_zero, List.length_append, List.length_replicate, Nat.add_sub_cancel, Nat.mul_comm]
  rfl

/-! ### The range -/

/-- The longest duration backwards. -/
def Duration.least : Duration := ⟨-999999999 * 86400000000, by decide, by decide⟩

/-- The longest duration forwards. -/
def Duration.greatest : Duration := ⟨999999999 * 86400000000 + 86399999999, by decide, by decide⟩

/-- A number of microseconds lies in the range of durations. -/
def InRange (micros : Int) : Prop := Duration.least.micros ≤ micros ∧ micros ≤ Duration.greatest.micros

theorem inRange_iff :
    InRange micros ↔ -(dayLimit : Int) ≤ micros / microsPerDay ∧ micros / microsPerDay ≤ dayLimit := by
  have hday : (microsPerDay : Int) = 86400000000 := rfl
  have hlimit : (dayLimit : Int) = 999999999 := rfl
  have hleast : Duration.least.micros = -999999999 * 86400000000 := rfl
  have hgreatest : Duration.greatest.micros = 999999999 * 86400000000 + 86399999999 := rfl
  rw [InRange, hleast, hgreatest, hday, hlimit]
  omega

namespace Duration

theorem of_of_inRange (h : InRange micros) :
    ∃ duration, Duration.of micros = .ok duration ∧ duration.micros = micros := by
  have hdays := inRange_iff.1 h
  have hword : ¬ (micros / microsPerDay < -0x80000000 ∨ 0x80000000 ≤ micros / microsPerDay) := by
    have hlimit : (dayLimit : Int) = 999999999 := rfl
    omega
  refine ⟨⟨micros, hdays.1, hdays.2⟩, ?_, rfl⟩
  simp only [Duration.of, if_neg hword, dif_pos hdays]

theorem of_of_not_inRange (h : ¬ InRange micros) : ∃ reason, Duration.of micros = .error reason := by
  rw [inRange_iff] at h
  simp only [Duration.of, dif_neg h]
  split
  · exact ⟨_, rfl⟩
  · exact ⟨_, rfl⟩

theorem micros_inj {duration other : Duration} (h : duration.micros = other.micros) : duration = other := by
  cases duration
  cases other
  cases h
  rfl

/-- Days and what is left of a day make up a duration. -/
theorem micros_eq (duration : Duration) : duration.micros = duration.days * 86400000000 + duration.rest := by
  have hday : (microsPerDay : Int) = 86400000000 := rfl
  rw [days, rest, hday]
  omega

theorem rest_lt (duration : Duration) : duration.rest < 86400000000 := by
  have hday : (microsPerDay : Int) = 86400000000 := rfl
  rw [rest, hday]
  omega

/-- A duration has these days and this rest if they make it up and the rest is less than a day. -/
theorem days_eq_and_rest_eq {duration : Duration} {days : Int} {rest : Nat} (hrest : rest < 86400000000)
    (h : duration.micros = days * 86400000000 + rest) : duration.days = days ∧ duration.rest = rest := by
  have hmicros := duration.micros_eq
  have hlt := duration.rest_lt
  omega

end Duration

/-! ### The reader -/

theorem IsDuration.isDigit_of_mem_fraction (h : IsDuration designators parts text) :
    ∀ c ∈ parts.fraction, c.isDigit = true := by
  cases h with
  | days => exact fun c hc => absurd hc List.not_mem_nil
  | clock isSign isP isDays isT isHours isMinutes isSeconds some_isSome =>
    cases isSeconds with
    | whole => exact fun c hc => absurd hc List.not_mem_nil
    | broken isNumber isMark length_le isDigit mem => exact isDigit

section Reader

variable {text : String} (h : IsDuration secondDesignators parts text.toList)
  (hdigits : ∀ number ∈ parts.numbers, number.2.length ≤ 4300)

include h hdigits

/-- The sum is made a duration first, and then it is turned round. -/
theorem readDuration_eq :
    readDuration text = (do
      let duration ← Duration.of parts.total
      if parts.negative then Duration.of (-duration.micros) else return duration) := by
  simp only [DurationParts.numbers, List.forall_mem_append] at hdigits
  obtain ⟨⟨⟨hdays, hhours⟩, hminutes⟩, hseconds⟩ := hdigits
  have hmicros := fractionMicros_eq h.isDigit_of_mem_fraction
  have htotal : (((signedValue parts.days * 24 + signedValue parts.hours) * 60 + signedValue parts.minutes) * 60 +
      signedValue parts.seconds) * 1000000 + parts.signedMicros = parts.total := by
    rw [DurationParts.total]
    ring
  rw [← htotal]
  simp only [readDuration, durationParts?_of_isDuration h, partValue_eq hdays, partValue_eq hhours,
    partValue_eq hminutes, partValue_eq hseconds, hmicros, DurationParts.signedMicros]
  cases parts.seconds <;> rfl

theorem readDuration_of_inRange (htotal : InRange parts.total) (hsigned : InRange parts.signedTotal) :
    ∃ duration, readDuration text = .ok duration ∧ duration.micros = parts.signedTotal := by
  obtain ⟨sum, hsum, hmicros⟩ := Duration.of_of_inRange htotal
  rw [readDuration_eq h hdigits, hsum]
  rw [DurationParts.signedTotal] at hsigned ⊢
  cases hnegative : parts.negative with
  | false => exact ⟨sum, rfl, hmicros⟩
  | true =>
    rw [hnegative, if_pos rfl] at hsigned
    obtain ⟨duration, hduration, hvalue⟩ := Duration.of_of_inRange hsigned
    refine ⟨duration, ?_, hvalue⟩
    rw [← hmicros] at hduration
    exact hduration

theorem readDuration_of_not_inRange (hrange : ¬ (InRange parts.total ∧ InRange parts.signedTotal)) :
    ∃ reason, readDuration text = .error reason := by
  rw [readDuration_eq h hdigits]
  by_cases htotal : InRange parts.total
  · -- The sum is a duration and its negative is none, so it is the sum that is turned round.
    have hsigned : ¬ InRange parts.signedTotal := fun hsigned => hrange ⟨htotal, hsigned⟩
    obtain ⟨sum, hsum, hmicros⟩ := Duration.of_of_inRange htotal
    rw [DurationParts.signedTotal] at hsigned
    rw [hsum]
    cases hnegative : parts.negative with
    | false =>
      rw [hnegative] at hsigned
      exact absurd htotal hsigned
    | true =>
      rw [hnegative, if_pos rfl, ← hmicros] at hsigned
      exact Duration.of_of_not_inRange hsigned
  · obtain ⟨reason, hreason⟩ := Duration.of_of_not_inRange htotal
    rw [hreason]
    exact ⟨reason, rfl⟩

end Reader

/-! ### Days and seconds -/

/-- A duration written with days, seconds and six digits behind the point. -/
def isoText (days : Int) (seconds micros : Nat) : String :=
  "P" ++ toString days ++ "DT" ++ toString seconds ++ "." ++ Text.padded 6 micros ++ "S"

/-- The parts that are written with days and seconds. -/
def isoParts (days : Int) (seconds micros : Nat) : DurationParts where
  negative := false
  days := some (decide (days < 0), Nat.toDigits 10 days.natAbs)
  hours := none
  minutes := none
  seconds := some (false, Nat.toDigits 10 seconds)
  fraction := (Text.padded 6 micros).toList

theorem isNumber_toDigits {negative : Bool} {sign : List Char} (isSign : IsSign negative sign) (n : Nat) :
    IsNumber (negative, Nat.toDigits 10 n) (sign ++ Nat.toDigits 10 n) :=
  .intro isSign Nat.toDigits_ne_nil fun _ => Nat.isDigit_of_mem_toDigits (by decide) le_rfl

theorem isNumber_toString (n : Int) :
    IsNumber (decide (n < 0), Nat.toDigits 10 n.natAbs) (toString n).toList := by
  rw [Int.toString_eq_repr, Int.repr_eq_if]
  by_cases h : 0 ≤ n
  · have habs : n.toNat = n.natAbs := by omega
    rw [if_pos h, habs, Nat.toList_repr, decide_eq_false (not_lt.2 h)]
    exact isNumber_toDigits .none n.natAbs
  · have habs : (-n).toNat = n.natAbs := by omega
    rw [if_neg h, habs, String.toList_append, Nat.toList_repr, decide_eq_true (not_le.1 h)]
    exact isNumber_toDigits .minus n.natAbs

theorem signedValue_toDigits (n : Int) :
    signedValue (some (decide (n < 0), Nat.toDigits 10 n.natAbs)) = n := by
  rw [signedValue, Nat.ofDigitChars_ten_toDigits]
  by_cases h : n < 0
  · rw [decide_eq_true h, if_pos rfl]
    omega
  · rw [decide_eq_false h, if_neg Bool.false_ne_true]
    omega

section Iso

variable {days : Int} {seconds micros : Nat}

theorem isDuration_isoText (days : Int) (seconds : Nat) (hmicros : micros < 1000000) :
    IsDuration secondDesignators (isoParts days seconds micros) (isoText days seconds micros).toList := by
  have hlength : (Text.padded 6 micros).toList.length ≤ 9 := by
    rw [length_padded (by decide) hmicros]
    decide
  have hseconds : IsNumber (false, Nat.toDigits 10 seconds) (toString seconds).toList := by
    rw [Nat.toString_eq_ofList_toDigits, String.toList_ofList]
    exact isNumber_toDigits .none seconds
  have hletters : 'P' ∈ ['P', 'p'] ∧ 'D' ∈ ['D', 'd'] ∧ 'T' ∈ ['T', 't'] ∧ 'S' ∈ secondDesignators := by decide
  obtain ⟨hp, hd, ht, hs⟩ := hletters
  have hduration := IsDuration.clock .none hp (.present (isNumber_toString days) hd) ht .absent .absent
    (.broken hseconds (.inl rfl) hlength (isDigit_of_mem_padded 6 micros) hs) (.inr (.inr rfl))
  simpa [isoText, isoParts] using hduration

theorem signedTotal_isoParts (days : Int) (seconds : Nat) (hmicros : micros < 1000000) :
    (isoParts days seconds micros).signedTotal = days * 86400000000 + (seconds * 1000000 + micros : Nat) := by
  have hfraction : truncatedMicros (Text.padded 6 micros).toList = micros := by
    rw [truncatedMicros, ofDigitChars_padded, length_padded (by decide) hmicros]
    exact Nat.mul_div_cancel micros (by decide)
  have hseconds : signedValue (some (false, Nat.toDigits 10 seconds)) = seconds := by
    simp only [signedValue, Nat.ofDigitChars_ten_toDigits, Bool.false_eq_true, if_false]
  simp only [isoParts, DurationParts.signedTotal, DurationParts.total, DurationParts.signedMicros,
    signedValue_toDigits, hseconds, hfraction, Option.any_some, Bool.false_eq_true, if_false]
  simp only [signedValue]
  omega

/-- The days and the seconds have few digits. -/
theorem length_le_of_mem_numbers_isoParts (hleast : -999999999 ≤ days) (hgreatest : days ≤ 999999999)
    (hseconds : seconds < 86400) :
    ∀ number ∈ (isoParts days seconds micros).numbers, number.2.length ≤ 4300 := by
  have hdays : (Nat.toDigits 10 days.natAbs).length ≤ 9 :=
    (Nat.length_toDigits_le_iff (by decide) (by decide)).2 (by omega)
  have hlength : (Nat.toDigits 10 seconds).length ≤ 5 :=
    (Nat.length_toDigits_le_iff (by decide) (by decide)).2 (by omega)
  intro number hnumber
  simp only [isoParts, DurationParts.numbers, Option.toList_some, Option.toList_none, List.append_nil,
    List.mem_append, List.mem_singleton] at hnumber
  rcases hnumber with rfl | rfl
  · exact hdays.trans (by decide)
  · exact hlength.trans (by decide)

theorem inRange_of_days (hleast : -999999999 ≤ days) (hgreatest : days ≤ 999999999) {rest : Nat}
    (hrest : rest < 86400000000) : InRange (days * 86400000000 + rest) := by
  have hlow : Duration.least.micros = -999999999 * 86400000000 := rfl
  have hhigh : Duration.greatest.micros = 999999999 * 86400000000 + 86399999999 := rfl
  rw [InRange, hlow, hhigh]
  omega

/-- What is written with days and seconds is read back. -/
theorem readDuration_isoText (hleast : -999999999 ≤ days) (hgreatest : days ≤ 999999999)
    (hseconds : seconds < 86400) (hmicros : micros < 1000000) :
    ∃ duration, readDuration (isoText days seconds micros) = .ok duration ∧ duration.days = days ∧
      duration.rest = seconds * 1000000 + micros := by
  have hrest : seconds * 1000000 + micros < 86400000000 := by omega
  have hrange := inRange_of_days hleast hgreatest hrest
  rw [← signedTotal_isoParts days seconds hmicros] at hrange
  obtain ⟨duration, hread, hvalue⟩ := readDuration_of_inRange (isDuration_isoText days seconds hmicros)
    (length_le_of_mem_numbers_isoParts hleast hgreatest hseconds) hrange hrange
  rw [signedTotal_isoParts days seconds hmicros] at hvalue
  exact ⟨duration, hread, Duration.days_eq_and_rest_eq hrest hvalue⟩

end Iso

/-- Every duration can be written. -/
theorem readDuration_isoText_self (duration : Duration) :
    readDuration (isoText duration.days (duration.rest / 1000000) (duration.rest % 1000000)) = .ok duration := by
  have hrest := duration.rest_lt
  -- What is left of a day is less than the seconds of a day, and of a second less than its microseconds.
  have hseconds : duration.rest / 1000000 < 86400 := by omega
  have hmicros : duration.rest % 1000000 < 1000000 := Nat.mod_lt _ (by decide)
  obtain ⟨other, hread, hdays, hother⟩ := readDuration_isoText duration.above duration.below hseconds hmicros
  have hsame : other.rest = duration.rest := by omega
  have hvalue : other.micros = duration.micros := by
    rw [other.micros_eq, duration.micros_eq, hsame]
    exact congrArg (· * 86400000000 + (duration.rest : Int)) hdays
  refine hread.trans ?_
  rw [Duration.micros_inj hvalue]

end Lookup.Time

namespace Lookup.Registry

open Time

variable {ε : Type}

theorem convert_duration_of_ok (registry : Registry ε) {text : String} {duration : Duration}
    (h : readDuration text = .ok duration) :
    registry.convert (.tag .duration) text = .ok (.duration duration) := by
  rw [convert_duration, h]
  rfl

/-- The value of the text of a duration is the sum of its parts, turned round by a sign in front of it. A text
is refused if its sum or its value is out of the range of durations, whatever the size of its parts. So every
duration is the value of a text, of the one that has its days, its seconds and its microseconds. -/
theorem convert_duration_eq_total (registry : Registry ε) :
    (∀ text parts, IsDuration secondDesignators parts text.toList →
      (∀ number ∈ parts.numbers, number.2.length ≤ 4300) →
      (InRange parts.total ∧ InRange parts.signedTotal → ∃ duration : Duration,
        registry.convert (.tag .duration) text = .ok (.duration duration) ∧
          duration.micros = parts.signedTotal) ∧
      (¬ (InRange parts.total ∧ InRange parts.signedTotal) → ∃ reason,
        registry.convert (.tag .duration) text = .error (.refused text (.tag .duration) reason))) ∧
    (∀ (days : Int) (seconds micros : Nat), -999999999 ≤ days → days ≤ 999999999 → seconds < 86400 →
      micros < 1000000 → ∃ duration : Duration,
        registry.convert (.tag .duration) (isoText days seconds micros) = .ok (.duration duration) ∧
          duration.days = days ∧ duration.rest = seconds * 1000000 + micros) ∧
    (∀ duration : Duration, registry.convert (.tag .duration)
      (isoText duration.days (duration.rest / 1000000) (duration.rest % 1000000)) = .ok (.duration duration)) := by
  refine ⟨fun text parts h hdigits => ⟨?_, fun hrange => ?_⟩, ?_, fun duration => ?_⟩
  · rintro ⟨htotal, hsigned⟩
    obtain ⟨duration, hread, hvalue⟩ := readDuration_of_inRange h hdigits htotal hsigned
    exact ⟨duration, registry.convert_duration_of_ok hread, hvalue⟩
  · obtain ⟨reason, hread⟩ := readDuration_of_not_inRange h hdigits hrange
    refine ⟨reason, ?_⟩
    rw [convert_duration, hread]
    rfl
  · intro days seconds micros hleast hgreatest hseconds hmicros
    obtain ⟨duration, hread, hfields⟩ := readDuration_isoText hleast hgreatest hseconds hmicros
    exact ⟨duration, registry.convert_duration_of_ok hread, hfields⟩
  · exact registry.convert_duration_of_ok (readDuration_isoText_self duration)

/-- The days of the first are out of the range, and a day less is not. The sum of the second is the longest
duration forwards, and there is no such duration backwards. -/
theorem convert_duration_eq_total_samples :
    (∃ duration : Duration, (builtin almanac : Registry Empty).convert (.tag .duration) "P1000000000DT-24H" =
      .ok (.duration duration) ∧ duration.micros = 999999999 * 86400000000) ∧
    (∃ reason, (builtin almanac : Registry Empty).convert (.tag .duration) "-P1000000000DT-0.000001S" =
      .error (.refused "-P1000000000DT-0.000001S" (.tag .duration) reason)) ∧
    ∃ duration : Duration, (builtin almanac : Registry Empty).convert (.tag .duration) (isoText (-1) 86399 5) =
      .ok (.duration duration) ∧ duration.days = -1 ∧ duration.rest = 86399000005 := by
  obtain ⟨hsum, hiso, -⟩ := convert_duration_eq_total (builtin almanac : Registry Empty)
  refine ⟨?_, ?_, hiso (-1) 86399 5 (by decide) (by decide) (by decide) (by decide)⟩
  · have hparts : IsDuration secondDesignators ⟨false, some (false, "1000000000".toList), some (true, "24".toList),
        none, none, []⟩ "P1000000000DT-24H".toList := durationParts?_eq_some_iff.1 rfl
    exact (hsum _ _ hparts (by decide)).1 ⟨⟨by decide, by decide⟩, ⟨by decide, by decide⟩⟩
  · have hparts : IsDuration secondDesignators ⟨true, some (false, "1000000000".toList), none, none,
        some (true, ['0']), "000001".toList⟩ "-P1000000000DT-0.000001S".toList := durationParts?_eq_some_iff.1 rfl
    exact (hsum _ _ hparts (by decide)).2 fun hrange => absurd hrange.2.1 (by decide)

end Lookup.Registry
