import Lookup.Proofs.Number.Decimal
import Lookup.Proofs.Time.Calendar
import Lookup.Proofs.Value.Convert
import Lookup.Time.Iso

/-!
# Texts of dates and times

The readers take the fields off a text one by one. Each field that they take is described as a form of text, and
taking a form off a text with something behind it gives its fields and leaves the rest. So a text is read just if
it is of the form and the fields are a real date or time of day. Every date and time of day is of this form as it
is written.

## Main definitions

* `IsPadded` — numbers of a fixed width
* `IsDateText`, `IsClockText` — texts of dates and times of day, by their fields
* `EndsClock` — what can stand behind a time of day

## Main results

* `dateFields?_append`, `clockFields?_append`, `momentFields?_append` — fields are taken off at the start of a text
* `readDate_eq_ok_iff`, `readTime_eq_ok_iff`, `readMoment_eq_ok_iff` — the texts that are read
* `isDateText_text`, `isClockText_text`, `readMoment_text` — written dates and times
* `Registry.convert_iso_iff` — what is taken as a date, a time of day and both
-/

namespace Lookup.Time

open Number Text

variable {width n year month day hour minute second micro : Nat} {c : Char}
  {digits text front rest : List Char}

/-! ### The rules -/

/-- A number written with so many digits, of which there is at least one. -/
inductive IsPadded (width : Nat) : Nat → List Char → Prop
  | intro {digits : List Char} (ne_nil : digits ≠ []) (length_eq : digits.length = width) (isDigit : ∀ c ∈ digits, c.isDigit = true) :
      IsPadded width (Nat.ofDigitChars 10 digits 0) digits

/-- A year, a month and a day, joined by hyphens. -/
inductive IsDateText (year month day : Nat) : List Char → Prop
  | intro {y m d : List Char} (isYear : IsPadded 4 year y) (isMonth : IsPadded 2 month m)
      (isDay : IsPadded 2 day d) : IsDateText year month day (y ++ '-' :: (m ++ '-' :: d))

/-- An hour and a minute, and a second with up to six digits behind the point or without, or no second. -/
inductive IsClockText (hour minute : Nat) : Nat → Nat → List Char → Prop
  | minutes {h m : List Char} (isHour : IsPadded 2 hour h) (isMinute : IsPadded 2 minute m) :
      IsClockText hour minute 0 0 (h ++ ':' :: m)
  | seconds {second : Nat} {h m s : List Char} (isHour : IsPadded 2 hour h) (isMinute : IsPadded 2 minute m)
      (isSecond : IsPadded 2 second s) : IsClockText hour minute second 0 (h ++ ':' :: (m ++ ':' :: s))
  | fraction {second : Nat} {h m s fraction : List Char} (isHour : IsPadded 2 hour h)
      (isMinute : IsPadded 2 minute m) (isSecond : IsPadded 2 second s) (fraction_ne : fraction ≠ [])
      (length_le : fraction.length ≤ 6) (isDigit : ∀ c ∈ fraction, c.isDigit = true) :
      IsClockText hour minute second (Nat.ofDigitChars 10 fraction 0 * 10 ^ (6 - fraction.length))
        (h ++ ':' :: (m ++ ':' :: (s ++ '.' :: fraction)))

/-! ### Digits and marks -/

/-- A number is taken off with its digits. -/
theorem takeDigits?_append (h : IsPadded width n digits) (rest : List Char) :
    takeDigits? width (digits ++ rest) = some (n, rest) := by
  obtain ⟨ne_nil, rfl, isDigit⟩ := h
  have hall : digits.all Char.isDigit = true := List.all_eq_true.2 isDigit
  simp only [takeDigits?, List.take_left, List.drop_left, if_true, digitsValue?, isDigit_eq, hall, ne_eq, ne_nil,
    not_false_eq_true, and_self, digitsValue_eq, Option.map_some]

theorem exists_of_takeDigits? (h : takeDigits? width text = some (n, rest)) :
    ∃ digits, IsPadded width n digits ∧ text = digits ++ rest := by
  simp only [takeDigits?, digitsValue?, isDigit_eq, digitsValue_eq] at h
  split at h
  · next hlength =>
    split at h
    · next hdigits =>
      simp only [Option.map_some, Option.some.injEq, Prod.mk.injEq] at h
      obtain ⟨rfl, rfl⟩ := h
      exact ⟨text.take width, .intro hdigits.1 hlength (List.all_eq_true.1 hdigits.2),
        (List.take_append_drop ..).symm⟩
    · cases h
  · cases h

theorem after?_eq_some_iff : after? c text = some rest ↔ text = c :: rest := by
  cases text with
  | nil => simp [after?]
  | cons d text => by_cases h : d = c <;> simp [after?, h]

theorem after?_cons (c : Char) (rest : List Char) : after? c (c :: rest) = some rest :=
  after?_eq_some_iff.2 rfl

theorem after?_eq_none (h : ∀ d ∈ text.head?, d ≠ c) : after? c text = none := by
  cases text with
  | nil => rfl
  | cons d rest => exact if_neg (h d rfl)

/-! ### Dates -/

theorem dateFields?_append (h : IsDateText year month day front) (rest : List Char) :
    dateFields? (front ++ rest) = some (⟨year, month, day⟩, rest) := by
  obtain ⟨isYear, isMonth, isDay⟩ := h
  simp only [dateFields?, List.append_assoc, List.cons_append, takeDigits?_append isYear,
    takeDigits?_append isMonth, takeDigits?_append isDay, after?_cons,
    Option.bind_eq_bind, Option.bind_some, Option.pure_def]

theorem exists_of_dateFields? {fields : DateFields} (h : dateFields? text = some (fields, rest)) :
    ∃ front, IsDateText fields.year fields.month fields.day front ∧ text = front ++ rest := by
  simp only [dateFields?, Option.bind_eq_bind, Option.bind_eq_some_iff, Prod.exists, after?_eq_some_iff,
    Option.pure_def, Option.some.injEq, Prod.mk.injEq] at h
  obtain ⟨year, afterYear, hyear, _, rfl, month, afterMonth, hmonth, _, rfl, day, _, hday, rfl, rfl⟩ := h
  obtain ⟨y, isYear, rfl⟩ := exists_of_takeDigits? hyear
  obtain ⟨m, isMonth, rfl⟩ := exists_of_takeDigits? hmonth
  obtain ⟨d, isDay, rfl⟩ := exists_of_takeDigits? hday
  exact ⟨_, .intro isYear isMonth isDay, by simp⟩

/-! ### Times of day -/

theorem ofDigitChars_fraction_lt (length_le : digits.length ≤ 6) (isDigit : ∀ c ∈ digits, c.isDigit = true) :
    Nat.ofDigitChars 10 digits 0 * 10 ^ (6 - digits.length) < 1000000 := by
  calc Nat.ofDigitChars 10 digits 0 * 10 ^ (6 - digits.length)
      < 10 ^ digits.length * 10 ^ (6 - digits.length) :=
        Nat.mul_lt_mul_of_pos_right (ofDigitChars_lt isDigit) (Nat.pow_pos (by decide))
    _ = 10 ^ 6 := by rw [← Nat.pow_add, Nat.add_sub_cancel' length_le]
    _ = 1000000 := rfl

theorem IsClockText.micro_lt (h : IsClockText hour minute second micro text) : micro < 1000000 := by
  cases h with
  | minutes => decide
  | seconds => decide
  | fraction _ _ _ _ length_le isDigit => exact ofDigitChars_fraction_lt length_le isDigit

/-- Up to six digits are filled up with zeros to the right. -/
theorem microsOf_eq (length_le : digits.length ≤ 6) (isDigit : ∀ c ∈ digits, c.isDigit = true) :
    microsOf digits = Nat.ofDigitChars 10 digits 0 * 10 ^ (6 - digits.length) := by
  have hzeros : (digits ++ List.replicate 6 '0').take 6 = digits ++ List.replicate (6 - digits.length) '0' := by
    rw [List.take_append, List.take_of_length_le length_le, List.take_replicate, Nat.min_eq_left (Nat.sub_le _ _)]
  rw [microsOf, digitsValue_eq, hzeros, Nat.ofDigitChars_append, ofDigitChars_replicate_zero, Nat.mul_comm]
  exact Nat.mod_eq_of_lt (ofDigitChars_fraction_lt length_le isDigit)

/-- A text that no time of day goes on with. -/
def EndsClock (rest : List Char) : Prop := ∀ c ∈ rest.head?, c.isDigit = false ∧ c ≠ ':' ∧ c ≠ '.'

theorem endsClock_nil : EndsClock [] := by simp [EndsClock]

/-- A time of day is taken off where it ends. -/
theorem clockFields?_append (h : IsClockText hour minute second micro front) (hrest : EndsClock rest) :
    clockFields? (front ++ rest) = some (⟨hour, minute, second, micro, h.micro_lt⟩, rest) := by
  cases h with
  | minutes isHour isMinute =>
    -- What follows a minute and a second is looked at, so that the rest must not go on with them.
    have hcolon : after? ':' rest = none := after?_eq_none fun c hc => (hrest c hc).2.1
    simp only [clockFields?, List.append_assoc, List.cons_append, takeDigits?_append isHour,
      takeDigits?_append isMinute, after?_cons, hcolon, Option.bind_eq_bind, Option.bind_some,
      Option.bind_none, Option.pure_def]
  | seconds isHour isMinute isSecond =>
    have hpoint : after? '.' rest = none := after?_eq_none fun c hc => (hrest c hc).2.2
    simp only [clockFields?, List.append_assoc, List.cons_append, takeDigits?_append isHour,
      takeDigits?_append isMinute, takeDigits?_append isSecond, after?_cons, hpoint,
      Option.bind_eq_bind, Option.bind_some, Option.pure_def, Option.getD_none, List.takeWhile_nil,
      List.length_nil]
    rfl
  | fraction isHour isMinute isSecond fraction_ne length_le isDigit =>
    obtain ⟨htake, -⟩ := takeWhile_append_eq Char.isDigit isDigit fun c hc => (hrest c hc).1
    have hlength := List.length_pos_of_ne_nil fraction_ne
    simp only [clockFields?, List.append_assoc, List.cons_append, takeDigits?_append isHour,
      takeDigits?_append isMinute, takeDigits?_append isSecond, after?_cons,
      Option.bind_eq_bind, Option.bind_some, Option.pure_def, Option.getD_some, isDigit_eq, htake,
      Nat.succ_le_of_lt hlength, length_le, and_self, if_true, microsOf_eq length_le isDigit,
      List.drop_succ_cons, List.drop_left]

theorem exists_of_clockFields? {fields : ClockFields} (h : clockFields? text = some (fields, rest)) :
    ∃ front, IsClockText fields.hour fields.minute fields.second fields.micro front ∧ text = front ++ rest := by
  simp only [clockFields?, Option.bind_eq_bind, Option.bind_eq_some_iff, Prod.exists, after?_eq_some_iff,
    Option.pure_def] at h
  obtain ⟨hour, afterHour, hhour, _, rfl, minute, afterMinute, hminute, h⟩ := h
  obtain ⟨hh, isHour, rfl⟩ := exists_of_takeDigits? hhour
  obtain ⟨mm, isMinute, rfl⟩ := exists_of_takeDigits? hminute
  split at h
  · simp only [Option.some.injEq, Prod.mk.injEq] at h
    obtain ⟨rfl, rfl⟩ := h
    exact ⟨_, .minutes isHour isMinute, by simp⟩
  · next second afterSecond hsecond =>
    simp only [Option.bind_eq_some_iff, after?_eq_some_iff] at hsecond
    obtain ⟨_, rfl, hsecond⟩ := hsecond
    obtain ⟨ss, isSecond, rfl⟩ := exists_of_takeDigits? hsecond
    split at h
    · next hlength =>
      -- A point is there, as there would be no digits behind it otherwise.
      simp only [Option.some.injEq, Prod.mk.injEq] at h
      obtain ⟨rfl, rfl⟩ := h
      cases hpoint : after? '.' afterSecond with
      | none => simp [hpoint] at hlength
      | some fraction =>
        obtain rfl := after?_eq_some_iff.1 hpoint
        simp only [after?_cons, Option.getD_some, isDigit_eq] at hlength ⊢
        have isDigit : ∀ c ∈ fraction.takeWhile Char.isDigit, c.isDigit = true := fun c hc =>
          List.mem_takeWhile_imp hc
        have hfraction : fraction.takeWhile Char.isDigit ++
            fraction.drop (fraction.takeWhile Char.isDigit).length = fraction :=
          List.prefix_iff_eq_append.1 (List.takeWhile_prefix Char.isDigit)
        rw [microsOf_eq hlength.2 isDigit]
        refine ⟨_, .fraction isHour isMinute isSecond (List.ne_nil_of_length_pos hlength.1) hlength.2 isDigit, ?_⟩
        simp [hfraction]
    · simp only [Option.some.injEq, Prod.mk.injEq] at h
      obtain ⟨rfl, rfl⟩ := h
      exact ⟨_, .seconds isHour isMinute isSecond, by simp⟩

/-! ### Dates with times -/

theorem momentFields?_append {dateText clockText : List Char} (isDate : IsDateText year month day dateText)
    (isClock : IsClockText hour minute second micro clockText) (hrest : EndsClock rest) :
    momentFields? (dateText ++ 'T' :: (clockText ++ rest)) =
      some ((⟨year, month, day⟩, ⟨hour, minute, second, micro, isClock.micro_lt⟩), rest) := by
  simp only [momentFields?, dateFields?_append isDate, after?_cons, clockFields?_append isClock hrest,
    Option.bind_eq_bind, Option.bind_some, Option.pure_def]

theorem exists_of_momentFields? {date : DateFields} {clock : ClockFields}
    (h : momentFields? text = some ((date, clock), rest)) :
    ∃ dateText clockText, IsDateText date.year date.month date.day dateText ∧
      IsClockText clock.hour clock.minute clock.second clock.micro clockText ∧
        text = dateText ++ 'T' :: (clockText ++ rest) := by
  simp only [momentFields?, Option.bind_eq_bind, Option.bind_eq_some_iff, Prod.exists, after?_eq_some_iff,
    Option.pure_def, Option.some.injEq, Prod.mk.injEq] at h
  obtain ⟨_, _, hdate, _, rfl, _, _, hclock, ⟨rfl, rfl⟩, rfl⟩ := h
  obtain ⟨dateText, isDate, rfl⟩ := exists_of_dateFields? hdate
  obtain ⟨clockText, isClock, rfl⟩ := exists_of_clockFields? hclock
  exact ⟨dateText, clockText, isDate, isClock, rfl⟩

/-! ### The readers -/

theorem DateFields.check_eq_ok_iff {fields : DateFields} {date : Date} :
    fields.check = .ok date ↔ date.year = fields.year ∧ date.month = fields.month ∧ date.day = fields.day := by
  rw [← Date.of_eq_ok_iff, DateFields.check]
  cases Date.of fields.year fields.month fields.day <;> simp [Except.mapError]

theorem ClockFields.check_eq_ok_iff {fields : ClockFields} {clock : Clock} :
    fields.check = .ok clock ↔ clock.hour = fields.hour ∧ clock.minute = fields.minute ∧
      clock.second = fields.second ∧ clock.micro = fields.micro := by
  rw [← Clock.of_eq_ok_iff fields.micro_lt, ClockFields.check]
  cases Clock.of fields.hour fields.minute fields.second fields.micro fields.micro_lt <;> simp [Except.mapError]

section Readers

variable {text : String} {date : Date} {clock : Clock} {moment : Moment}

theorem readDate_eq_ok_iff :
    readDate text = .ok date ↔ IsDateText date.year date.month date.day text.toList := by
  constructor
  · intro h
    unfold readDate at h
    split at h
    · next fields hfields =>
      obtain ⟨front, isDate, htext⟩ := exists_of_dateFields? hfields
      obtain ⟨hyear, hmonth, hday⟩ := DateFields.check_eq_ok_iff.1 h
      rw [List.append_nil] at htext
      rwa [htext, hyear, hmonth, hday]
    · cases h
  · intro h
    have hfields := dateFields?_append h []
    rw [List.append_nil] at hfields
    simp only [readDate, hfields]
    exact DateFields.check_eq_ok_iff.2 ⟨rfl, rfl, rfl⟩

theorem readTime_eq_ok_iff :
    readTime text = .ok clock ↔ IsClockText clock.hour clock.minute clock.second clock.micro text.toList := by
  constructor
  · intro h
    unfold readTime at h
    split at h
    · next fields hfields =>
      obtain ⟨front, isClock, htext⟩ := exists_of_clockFields? hfields
      obtain ⟨hhour, hminute, hsecond, hmicro⟩ := ClockFields.check_eq_ok_iff.1 h
      rw [List.append_nil] at htext
      rwa [htext, hhour, hminute, hsecond, hmicro]
    · cases h
  · intro h
    have hfields := clockFields?_append h endsClock_nil
    rw [List.append_nil] at hfields
    simp only [readTime, hfields]
    exact ClockFields.check_eq_ok_iff.2 ⟨rfl, rfl, rfl, rfl⟩

theorem checkMoment_eq_ok_iff {fields : DateFields × ClockFields} :
    checkMoment fields = .ok moment ↔
      fields.1.check = .ok moment.date ∧ fields.2.check = .ok moment.clock := by
  obtain ⟨date, clock⟩ := moment
  unfold checkMoment
  cases fields.1.check <;> cases fields.2.check <;> simp [bind, Except.bind, pure, Except.pure]

/-- A date with a time is read if its two parts are. -/
theorem readMoment_eq_ok_iff :
    readMoment text = .ok moment ↔ ∃ date clock : String, text = date ++ "T" ++ clock ∧
      readDate date = .ok moment.date ∧ readTime clock = .ok moment.clock := by
  simp only [readDate_eq_ok_iff, readTime_eq_ok_iff]
  constructor
  · intro h
    unfold readMoment at h
    split at h
    · next fields hfields =>
      obtain ⟨hdate, hclock⟩ := checkMoment_eq_ok_iff.1 h
      obtain ⟨dateText, clockText, isDate, isClock, htext⟩ := exists_of_momentFields? hfields
      obtain ⟨hyear, hmonth, hday⟩ := DateFields.check_eq_ok_iff.1 hdate
      obtain ⟨hhour, hminute, hsecond, hmicro⟩ := ClockFields.check_eq_ok_iff.1 hclock
      refine ⟨String.ofList dateText, String.ofList clockText, String.toList_inj.1 ?_, ?_, ?_⟩
      · simp [htext]
      · rwa [String.toList_ofList, hyear, hmonth, hday]
      · rwa [String.toList_ofList, hhour, hminute, hsecond, hmicro]
    · cases h
  · rintro ⟨date, clock, rfl, isDate, isClock⟩
    have hfields := momentFields?_append isDate isClock endsClock_nil
    have htext : (date ++ "T" ++ clock).toList = date.toList ++ 'T' :: (clock.toList ++ []) := by simp
    simp only [readMoment, htext, hfields]
    exact checkMoment_eq_ok_iff.2
      ⟨DateFields.check_eq_ok_iff.2 ⟨rfl, rfl, rfl⟩, ClockFields.check_eq_ok_iff.2 ⟨rfl, rfl, rfl, rfl⟩⟩

end Readers

/-! ### Written dates and times -/

theorem isPadded_padded (hwidth : 0 < width) (h : n < 10 ^ width) : IsPadded width n (padded width n).toList := by
  have hlength := length_padded hwidth h
  have hne : (padded width n).toList ≠ [] := List.ne_nil_of_length_pos (by rwa [hlength])
  have hpadded := IsPadded.intro hne hlength (isDigit_of_mem_padded width n)
  rwa [ofDigitChars_padded] at hpadded

theorem isDateText_text (date : Date) : IsDateText date.year date.month date.day date.text.toList := by
  have hmonth := date.month_le
  have hyear := date.year_le
  have hday := date.day_le.trans (daysInMonth_le date.year date.month)
  have htext : date.text.toList = (padded 4 date.year).toList ++
      '-' :: ((padded 2 date.month).toList ++ '-' :: (padded 2 date.day).toList) := by
    simp [Date.text]
  rw [htext]
  exact .intro (isPadded_padded (by decide) (by omega)) (isPadded_padded (by decide) (by omega))
    (isPadded_padded (by decide) (by omega))

theorem isClockText_text (clock : Clock) :
    IsClockText clock.hour clock.minute clock.second clock.micro clock.text.toList := by
  have hhour := clock.hour_lt
  have hminute := clock.minute_lt
  have hsecond := clock.second_lt
  have isHour : IsPadded 2 clock.hour (padded 2 clock.hour).toList := isPadded_padded (by decide) (by omega)
  have isMinute : IsPadded 2 clock.minute (padded 2 clock.minute).toList := isPadded_padded (by decide) (by omega)
  have isSecond : IsPadded 2 clock.second (padded 2 clock.second).toList := isPadded_padded (by decide) (by omega)
  have htext : clock.text.toList = (padded 2 clock.hour).toList ++
      ':' :: ((padded 2 clock.minute).toList ++ ':' :: ((padded 2 clock.second).toList ++
        (microText clock.micro).toList)) := by
    simp [Clock.text]
  rw [htext, microText]
  by_cases hmicro : clock.micro = 0
  · rw [if_pos hmicro, String.toList_empty, List.append_nil, hmicro]
    exact .seconds isHour isMinute isSecond
  · have hlength : (padded 6 clock.micro).toList.length = 6 := length_padded (by decide) clock.micro_lt
    have hvalue : Nat.ofDigitChars 10 (padded 6 clock.micro).toList 0 *
        10 ^ (6 - (padded 6 clock.micro).toList.length) = clock.micro := by
      rw [ofDigitChars_padded, hlength, Nat.sub_self, Nat.pow_zero, Nat.mul_one]
    have hne : (padded 6 clock.micro).toList ≠ [] := List.ne_nil_of_length_pos (by rw [hlength]; decide)
    have hfraction := IsClockText.fraction isHour isMinute isSecond hne hlength.le
      (isDigit_of_mem_padded 6 clock.micro)
    rw [hvalue] at hfraction
    rwa [if_neg hmicro, String.toList_append]

theorem readMoment_text (moment : Moment) : readMoment (moment.text "T") = .ok moment :=
  readMoment_eq_ok_iff.2 ⟨moment.date.text, moment.clock.text, rfl,
    readDate_eq_ok_iff.2 (isDateText_text moment.date), readTime_eq_ok_iff.2 (isClockText_text moment.clock)⟩

end Lookup.Time

namespace Lookup.Registry

open Time

variable {ε : Type} (registry : Registry ε)

theorem takesExactly_date : registry.TakesExactly .date .date fun date text =>
    IsDateText date.year date.month date.day text.toList :=
  registry.takesExactly_of_read (fun _ => rfl) fun _ _ => readDate_eq_ok_iff

theorem takesExactly_time : registry.TakesExactly .time .time fun clock text =>
    IsClockText clock.hour clock.minute clock.second clock.micro text.toList :=
  registry.takesExactly_of_read (fun _ => rfl) fun _ _ => readTime_eq_ok_iff

theorem takesExactly_moment : registry.TakesExactly .datetime .moment fun moment text =>
    ∃ date clock : String, text = date ++ "T" ++ clock ∧ readDate date = .ok moment.date ∧
      readTime clock = .ok moment.clock :=
  registry.takesExactly_of_read (fun _ => rfl) fun _ _ => readMoment_eq_ok_iff

variable {text : String}

theorem convert_date_iff {date : Date} :
    registry.convert (.tag .date) text = .ok (.date date) ↔ readDate text = .ok date :=
  (registry.takesExactly_date.convert_make_iff (fun _ _ => Value.date.inj) ..).trans readDate_eq_ok_iff.symm

theorem convert_time_iff {clock : Clock} :
    registry.convert (.tag .time) text = .ok (.time clock) ↔ readTime text = .ok clock :=
  (registry.takesExactly_time.convert_make_iff (fun _ _ => Value.time.inj) ..).trans readTime_eq_ok_iff.symm

theorem convert_moment_iff {moment : Moment} :
    registry.convert (.tag .datetime) text = .ok (.moment moment) ↔ readMoment text = .ok moment :=
  (registry.takesExactly_moment.convert_make_iff (fun _ _ => Value.moment.inj) ..).trans readMoment_eq_ok_iff.symm

/-- Dates, times of day and dates with times are taken in just their forms of the standard, and all other texts
are refused. A date with a time is the text of a date and the text of a time of day with a `T` between them. So
each of the three is what its own text is converted to. -/
theorem convert_iso_iff :
    registry.TakesExactly .date .date (fun date text =>
      IsDateText date.year date.month date.day text.toList) ∧
    registry.TakesExactly .time .time (fun clock text =>
      IsClockText clock.hour clock.minute clock.second clock.micro text.toList) ∧
    registry.TakesExactly .datetime .moment (fun moment text => ∃ date clock : String,
      text = date ++ "T" ++ clock ∧ registry.convert (.tag .date) date = .ok (.date moment.date) ∧
        registry.convert (.tag .time) clock = .ok (.time moment.clock)) ∧
    (∀ date : Date, registry.convert (.tag .date) date.text = .ok (.date date)) ∧
    (∀ clock : Clock, registry.convert (.tag .time) clock.text = .ok (.time clock)) ∧
    ∀ moment : Moment, registry.convert (.tag .datetime) (moment.text "T") = .ok (.moment moment) := by
  refine ⟨registry.takesExactly_date, registry.takesExactly_time, ?_, fun date => ?_, fun clock => ?_,
    fun moment => ?_⟩
  · simp only [registry.convert_date_iff, registry.convert_time_iff]
    exact registry.takesExactly_moment
  · exact registry.convert_date_iff.2 (readDate_eq_ok_iff.2 (isDateText_text date))
  · exact registry.convert_time_iff.2 (readTime_eq_ok_iff.2 (isClockText_text clock))
  · exact registry.convert_moment_iff.2 (readMoment_text moment)

end Lookup.Registry
