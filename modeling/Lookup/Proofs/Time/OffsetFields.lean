import Lookup.Proofs.Time.Instant
import Lookup.Time.Almanac

/-!
# The fields of an offset

An offset is written as a sign and fields of two digits. Of hours there are at most 23, and of minutes and seconds
at most 59. What is looked at is only what the fields come to, which is to be less than a day. So all offsets with
fields of these sizes are taken, and others are, too, where more than an hour of minutes or more than a minute of
seconds is made up for by fewer hours.

## Main definitions

* `OffsetFields`, `OffsetFields.total`, `OffsetFields.Proper` — the fields, what they come to and their sizes
* `OffsetForm`, `IsWrittenOffset` — the forms in which an offset is written, and the texts of a form
* `Registry.TakesOffset` — a text is taken with an offset if that is less than a day

## Main results

* `IsWrittenOffset.unique` — in one form proper fields that come to the same are the same digits
* `Registry.convert_writtenOffset` — which offsets are taken, behind a date-time, in brackets and in both places
-/

namespace Lookup.Time

open Number Text

/-! ### Fields and forms -/

/-- The fields of an offset, those left out being zero. -/
structure OffsetFields where
  hours : Nat
  minutes : Nat
  seconds : Nat
  deriving DecidableEq

/-- The seconds that the fields come to. -/
def OffsetFields.total (fields : OffsetFields) : Nat :=
  fields.hours * 3600 + fields.minutes * 60 + fields.seconds

/-- The seconds that the fields come to behind a sign. -/
def OffsetFields.offset (fields : OffsetFields) (negative : Bool) : Int :=
  if negative then -(fields.total : Int) else fields.total

/-- The hours of a day, the minutes of an hour and the seconds of a minute. -/
structure OffsetFields.Proper (fields : OffsetFields) : Prop where
  hours_le : fields.hours ≤ 23
  minutes_le : fields.minutes ≤ 59
  seconds_le : fields.seconds ≤ 59

/-- The forms `hh`, `hhmm`, `hh:mm` and `hh:mm:ss`. -/
inductive OffsetForm where
  | hours
  | compact
  | minutes
  | seconds
  deriving DecidableEq

/-- The forms of an offset behind a date-time. -/
def OffsetForm.Behind (form : OffsetForm) : Prop := form = .minutes ∨ form = .seconds

/-- The forms of an offset in brackets. -/
def OffsetForm.InBrackets (form : OffsetForm) : Prop := form ≠ .seconds

/-- The digits of an offset in a form, two for each field and of any value. -/
inductive IsFields : OffsetForm → OffsetFields → List Char → Prop
  | hours {hours : Nat} {h : List Char} (isHours : IsPadded 2 hours h) : IsFields .hours ⟨hours, 0, 0⟩ h
  | compact {hours minutes : Nat} {h m : List Char} (isHours : IsPadded 2 hours h) (isMinutes : IsPadded 2 minutes m) :
      IsFields .compact ⟨hours, minutes, 0⟩ (h ++ m)
  | minutes {hours minutes : Nat} {h m : List Char} (isHours : IsPadded 2 hours h) (isMinutes : IsPadded 2 minutes m) :
      IsFields .minutes ⟨hours, minutes, 0⟩ (h ++ ':' :: m)
  | seconds {hours minutes seconds : Nat} {h m s : List Char} (isHours : IsPadded 2 hours h)
      (isMinutes : IsPadded 2 minutes m) (isSeconds : IsPadded 2 seconds s) :
      IsFields .seconds ⟨hours, minutes, seconds⟩ (h ++ ':' :: (m ++ ':' :: s))

/-- The text of an offset in a form: a sign, and digits behind it. -/
inductive IsWrittenOffset (form : OffsetForm) (fields : OffsetFields) : Bool → List Char → Prop
  | ahead {digits : List Char} (isFields : IsFields form fields digits) :
      IsWrittenOffset form fields false ('+' :: digits)
  | behind {digits : List Char} (isFields : IsFields form fields digits) :
      IsWrittenOffset form fields true ('-' :: digits)

variable {zones : ZoneDatabase} {form form' : OffsetForm} {fields fields' : OffsetFields}
  {negative negative' : Bool} {sign : Char} {text text' digits : List Char} {seconds : Int} {n : Nat}

/-! ### What fields come to -/

theorem OffsetFields.Proper.total_lt (h : fields.Proper) : fields.total < 86400 := by
  obtain ⟨hhours, hminutes, hseconds⟩ := h
  rw [total]
  omega

/-- Of fields that come to less than a day the hours are proper. -/
theorem OffsetFields.proper_iff (h : fields.total < 86400) :
    fields.Proper ↔ fields.minutes ≤ 59 ∧ fields.seconds ≤ 59 := by
  rw [total] at h
  exact ⟨fun h => ⟨h.minutes_le, h.seconds_le⟩, fun hle => ⟨by omega, hle.1, hle.2⟩⟩

/-- Proper fields are found again in what they come to. -/
theorem OffsetFields.Proper.unique (h : fields.Proper) (h' : fields'.Proper) (heq : fields.total = fields'.total) :
    fields = fields' := by
  obtain ⟨hours, minutes, seconds⟩ := fields
  obtain ⟨hours', minutes', seconds'⟩ := fields'
  obtain ⟨-, hminutes, hseconds⟩ := h
  obtain ⟨-, hminutes', hseconds'⟩ := h'
  simp only [total] at *
  rw [OffsetFields.mk.injEq]
  omega

theorem OffsetFields.natAbs_offset (fields : OffsetFields) (negative : Bool) :
    (fields.offset negative).natAbs = fields.total := by
  rw [offset]
  split <;> omega

theorem OffsetFields.offset_within_iff (fields : OffsetFields) (negative : Bool) :
    -86400 < fields.offset negative ∧ fields.offset negative < 86400 ↔ fields.total < 86400 := by
  rw [offset]
  split <;> omega

/-! ### One text for each offset -/

/-- A number of a width is written in one way. -/
theorem IsPadded.unique {width : Nat} (h : IsPadded width n text) (h' : IsPadded width n text') : text = text' := by
  obtain ⟨-, hlength, isDigit⟩ := h
  generalize hvalue : Nat.ofDigitChars 10 text 0 = n at h'
  obtain ⟨-, hlength', isDigit'⟩ := h'
  exact eq_of_ofDigitChars_eq isDigit isDigit' (hlength.trans hlength'.symm) hvalue

/-- Two digits make up a field. -/
theorem isPadded_pair {c d : Char} (hc : c.isDigit = true) (hd : d.isDigit = true)
    (hvalue : Nat.ofDigitChars 10 [c, d] 0 = n) : IsPadded 2 n [c, d] := by
  subst hvalue
  exact .intro (List.cons_ne_nil _ _) rfl (by simp [hc, hd])

theorem IsFields.unique (h : IsFields form fields digits) (h' : IsFields form fields text) : digits = text := by
  cases h with
  | hours isHours =>
    obtain ⟨isHours'⟩ := h'
    exact isHours.unique isHours'
  | compact isHours isMinutes =>
    obtain _ | ⟨isHours', isMinutes'⟩ := h'
    rw [isHours.unique isHours', isMinutes.unique isMinutes']
  | minutes isHours isMinutes =>
    obtain _ | _ | ⟨isHours', isMinutes'⟩ := h'
    rw [isHours.unique isHours', isMinutes.unique isMinutes']
  | seconds isHours isMinutes isSeconds =>
    obtain _ | _ | _ | ⟨isHours', isMinutes', isSeconds'⟩ := h'
    rw [isHours.unique isHours', isMinutes.unique isMinutes', isSeconds.unique isSeconds']

/-- In one form the same offset of proper fields is written in one way, unless it is no offset at all, of which the
sign does not matter. -/
theorem IsWrittenOffset.unique (h : IsWrittenOffset form fields negative text)
    (h' : IsWrittenOffset form fields' negative' text') (hproper : fields.Proper) (hproper' : fields'.Proper)
    (heq : fields.offset negative = fields'.offset negative') (hne : fields.offset negative ≠ 0) : text = text' := by
  have htotal := congrArg Int.natAbs heq
  rw [OffsetFields.natAbs_offset, OffsetFields.natAbs_offset] at htotal
  obtain rfl := hproper.unique hproper' htotal
  cases h with
  | ahead isFields =>
    cases h' with
    | ahead isFields' => rw [isFields.unique isFields']
    | behind =>
      simp only [OffsetFields.offset, if_true, Bool.false_eq_true, if_false] at heq hne
      omega
  | behind isFields =>
    cases h' with
    | ahead =>
      simp only [OffsetFields.offset, if_true, Bool.false_eq_true, if_false] at heq hne
      omega
    | behind isFields' => rw [isFields.unique isFields']

/-! ### Reading the forms -/

theorem IsFields.isSpan (h : IsFields form fields digits) (hbehind : form.Behind) :
    IsSpan true fields.total digits := by
  cases h with
  | hours => simp [OffsetForm.Behind] at hbehind
  | compact => simp [OffsetForm.Behind] at hbehind
  | minutes isHours isMinutes =>
    rw [OffsetFields.total, Nat.add_zero]
    exact .minutes isHours isMinutes
  | seconds isHours isMinutes isSeconds => exact .seconds rfl isHours isMinutes isSeconds

theorem IsWrittenOffset.isOffset (h : IsWrittenOffset form fields negative text) (hbehind : form.Behind) :
    IsOffset true (fields.offset negative) text := by
  cases h with
  | ahead isFields => exact .ahead (isFields.isSpan hbehind)
  | behind isFields => exact .behind (isFields.isSpan hbehind)

/-- In brackets the minutes may stand behind a colon or right behind the hours, or may be left out. -/
theorem offsetSeconds?_of_isFields (h : IsFields form fields digits) (hin : form.InBrackets) :
    offsetSeconds? (sign :: digits) = signed? sign fields.total := by
  cases h with
  | hours isHours =>
    simp only [offsetSeconds?, takeDigits?_eq_nil isHours, Option.bind_eq_bind, Option.bind_some, if_true,
      OffsetFields.total, Nat.zero_mul, Nat.add_zero]
  | @compact hours minutes h m isHours isMinutes =>
    have hne : m ≠ [] := by
      obtain ⟨hne, -, -⟩ := isMinutes
      exact hne
    have hcolon : after? ':' m = none := by
      obtain ⟨-, -, isDigit⟩ := isMinutes
      exact after?_eq_none fun d hd => fun heq => absurd (isDigit d (List.mem_of_mem_head? hd)) (by simp [heq])
    simp only [offsetSeconds?, takeDigits?_append isHours, Option.bind_eq_bind, Option.bind_some, if_neg hne, hcolon,
      Option.getD_none, takeDigits?_eq_nil isMinutes, OffsetFields.total, Nat.add_zero]
  | minutes isHours isMinutes =>
    rw [OffsetFields.total, Nat.add_zero]
    exact offsetSeconds?_cons (.minutes isHours isMinutes)
  | seconds => exact absurd rfl hin

theorem IsWrittenOffset.offsetSeconds? (h : IsWrittenOffset form fields negative text) (hin : form.InBrackets) :
    offsetSeconds? text = some (fields.offset negative) := by
  cases h with
  | ahead isFields =>
    rw [offsetSeconds?_of_isFields isFields hin, signed?_eq_some_iff]
    exact .inl ⟨rfl, rfl⟩
  | behind isFields =>
    rw [offsetSeconds?_of_isFields isFields hin, signed?_eq_some_iff]
    exact .inr ⟨rfl, rfl⟩

/-! ### Date-times with written offsets -/

section Zoned

variable {date offset zone : String} {moment : Moment}

theorem readZoned_writtenOffset (hmoment : readMoment date = .ok moment)
    (h : IsWrittenOffset form fields negative offset.toList) (hbehind : form.Behind) :
    readZoned zones (date ++ offset) = ((checkOffset (fields.offset negative)).map fun zone =>
      Zoned.ofLocal moment (.fixed zone)).mapError .refused :=
  readZoned_offset hmoment (h.isOffset hbehind)

theorem readZoned_bracketed_writtenOffset (hmoment : readMoment date = .ok moment)
    (h : IsWrittenOffset form fields negative offset.toList) (hin : form.InBrackets) :
    readZoned zones (date ++ "[" ++ offset ++ "]") = ((checkOffset (fields.offset negative)).map fun zone =>
      Zoned.ofLocal moment (.fixed zone)).mapError .refused := by
  have hseconds := h.offsetSeconds? hin
  obtain ⟨hfree, hne⟩ := unbracketed_of_offsetSeconds? hseconds
  rw [readZoned_zone hmoment ⟨hne, hfree.2⟩, readZone_of_offsetSeconds? hseconds]
  cases checkOffset (fields.offset negative) <;> rfl

/-- An offset in both places is read where each is less than a day and the date-time can be moved from the one to the
other. -/
theorem exists_readZoned_writtenOffset_iff (zones : ZoneDatabase) (hmoment : readMoment date = .ok moment)
    (h : IsWrittenOffset form fields negative offset.toList) (hbehind : form.Behind)
    (h' : IsWrittenOffset form' fields' negative' zone.toList) (hin : form'.InBrackets) :
    (∃ zoned, readZoned zones (date ++ offset ++ "[" ++ zone ++ "]") = .ok zoned) ↔
      fields.total < 86400 ∧ fields'.total < 86400 ∧
        Moment.InCalendar (moment.seconds - fields.offset negative) ∧
        Moment.InCalendar (moment.seconds - fields.offset negative + fields'.offset negative') := by
  simp only [readZoned_offset_zone_eq_ok_iff hmoment (h.isOffset hbehind),
    readZone_of_offsetSeconds? (h'.offsetSeconds? hin), ← fields.offset_within_iff negative,
    ← fields'.offset_within_iff negative']
  constructor
  · rintro ⟨zoned, suffix, found, hsuffix, hfound, hmoved⟩
    have hsame := checkOffset_eq_ok_iff.1 hsuffix
    cases hzone : checkOffset (fields'.offset negative') with
    | error reason =>
      rw [hzone] at hfound
      cases hfound
    | ok inner =>
      rw [hzone] at hfound
      cases hfound
      have hinner := checkOffset_eq_ok_iff.1 hzone
      have hshows := Zone.shows_iff.1 (Zoned.exists_toZone?_iff.1 ⟨zoned, hmoved⟩)
      rw [← hsame, ← hinner]
      exact ⟨⟨suffix.above, suffix.below⟩, ⟨inner.above, inner.below⟩, hshows⟩
  · rintro ⟨hday, hday', hshows⟩
    obtain ⟨suffix, hsuffix⟩ : ∃ suffix : Offset, suffix.seconds = fields.offset negative :=
      ⟨⟨_, hday.1, hday.2⟩, rfl⟩
    obtain ⟨inner, hinner⟩ : ∃ inner : Offset, inner.seconds = fields'.offset negative' :=
      ⟨⟨_, hday'.1, hday'.2⟩, rfl⟩
    rw [← hsuffix, ← hinner] at hshows
    have hmoves : ∃ zoned, (Zoned.ofLocal moment (.fixed suffix)).toZone? (.fixed inner) = some zoned :=
      Zoned.exists_toZone?_iff.2 (Zone.shows_iff.2 hshows)
    obtain ⟨zoned, hmoved⟩ := hmoves
    refine ⟨zoned, suffix, .fixed inner, checkOffset_eq_ok_iff.2 hsuffix, ?_, hmoved⟩
    rw [checkOffset_eq_ok_iff.2 hinner]
    rfl

/-- What is not read for its offsets is refused. -/
theorem readZoned_writtenOffset_refused (hmoment : readMoment date = .ok moment)
    (h : IsWrittenOffset form fields negative offset.toList) (hbehind : form.Behind)
    (h' : IsWrittenOffset form' fields' negative' zone.toList) (hin : form'.InBrackets)
    (hnot : ¬ ∃ zoned, readZoned zones (date ++ offset ++ "[" ++ zone ++ "]") = .ok zoned) :
    ∃ reason, readZoned zones (date ++ offset ++ "[" ++ zone ++ "]") = .error (.refused reason) := by
  have hseconds := h'.offsetSeconds? hin
  obtain ⟨hfree, hne⟩ := unbracketed_of_offsetSeconds? hseconds
  rw [readZoned_offset_zone hmoment (h.isOffset hbehind) ⟨hne, hfree.2⟩, readZone_of_offsetSeconds? hseconds] at hnot ⊢
  cases hsuffix : checkOffset (fields.offset negative) with
  | error reason => exact ⟨reason, rfl⟩
  | ok suffix =>
    cases hinner : checkOffset (fields'.offset negative') with
    | error reason => exact ⟨reason, rfl⟩
    | ok inner =>
      rw [hsuffix, hinner] at hnot
      cases hmoved : (Zoned.ofLocal moment (.fixed suffix)).toZone? (.fixed inner) with
      | none => exact ⟨.outsideCalendar, by simp [Except.map, Except.mapError, Except.bind, hmoved]⟩
      | some zoned => exact absurd ⟨zoned, by simp [Except.map, Except.mapError, Except.bind, hmoved]⟩ hnot

end Zoned

end Lookup.Time

namespace Lookup.Registry

open Time

variable {ε : Type} {registry : Registry ε} {text date : String} {moment : Moment} {fields fields' : OffsetFields}
  {negative negative' : Bool}

/-- A text is taken as a date-time with the offset that fields come to where this is less than a day, and is refused
elsewhere. -/
structure TakesOffset (registry : Registry ε) (moment : Moment) (fields : OffsetFields) (negative : Bool)
    (text : String) : Prop where
  convert : fields.total < 86400 → ∃ zone : Offset, zone.seconds = fields.offset negative ∧
    registry.convert (.tag .zonedDatetime) text = .ok (.zoned ⟨moment, .fixed zone, fields.offset negative⟩)
  refuses : ¬ fields.total < 86400 → registry.Refuses .zonedDatetime text

theorem takesOffset_of_readZoned
    (h : readZoned registry.zones text = ((checkOffset (fields.offset negative)).map fun zone =>
      Zoned.ofLocal moment (.fixed zone)).mapError .refused) : registry.TakesOffset moment fields negative text where
  convert hday := by
    rw [← fields.offset_within_iff negative] at hday
    obtain ⟨zone, hzone⟩ : ∃ zone : Offset, zone.seconds = fields.offset negative := ⟨⟨_, hday.1, hday.2⟩, rfl⟩
    refine ⟨zone, hzone, ?_⟩
    rw [convert_zoned_iff, h, checkOffset_eq_ok_iff.2 hzone, ← hzone]
    rfl
  refuses hday := by
    rw [← fields.offset_within_iff negative] at hday
    rw [refuses_zoned_iff, h, checkOffset_eq_error hday]
    exact ⟨_, rfl⟩

/-- Texts that are taken with offsets are the same date-time just if the offsets are the same. -/
theorem TakesOffset.convert_eq_iff {text' : String} (h : registry.TakesOffset moment fields negative text)
    (h' : registry.TakesOffset moment fields' negative' text') (hday : fields.total < 86400)
    (hday' : fields'.total < 86400) :
    registry.convert (.tag .zonedDatetime) text = registry.convert (.tag .zonedDatetime) text' ↔
      fields.offset negative = fields'.offset negative' := by
  obtain ⟨zone, hzone, hconvert⟩ := h.convert hday
  obtain ⟨zone', hzone', hconvert'⟩ := h'.convert hday'
  rw [hconvert, hconvert']
  constructor
  · intro heq
    simp only [Except.ok.injEq, Value.zoned.injEq, Zoned.mk.injEq] at heq
    exact heq.2.2
  · intro heq
    obtain ⟨seconds, above, below⟩ := zone
    obtain ⟨seconds', above', below'⟩ := zone'
    simp only at hzone hzone'
    subst hzone hzone'
    simp only [heq]

/-- What decides whether an offset is taken is what its fields come to, and not how great each of them is. -/
theorem convert_writtenOffset (hdate : registry.convert (.tag .datetime) date = .ok (.moment moment)) :
    -- Behind the date-time and in brackets an offset of less than a day is taken, and no other one.
    (∀ form fields negative offset, IsWrittenOffset form fields negative offset.toList →
      (form.Behind → registry.TakesOffset moment fields negative (date ++ offset)) ∧
        (form.InBrackets → registry.TakesOffset moment fields negative (date ++ "[" ++ offset ++ "]"))) ∧
    -- In both places each is to be less than a day, and the date-time is not to leave the calendar.
    (∀ form fields negative offset form' fields' negative' zone,
      IsWrittenOffset form fields negative offset.toList → form.Behind →
      IsWrittenOffset form' fields' negative' zone.toList → form'.InBrackets →
        ((∃ value, registry.convert (.tag .zonedDatetime) (date ++ offset ++ "[" ++ zone ++ "]") = .ok value) ↔
          fields.total < 86400 ∧ fields'.total < 86400 ∧
            Moment.InCalendar (moment.seconds - fields.offset negative) ∧
            Moment.InCalendar (moment.seconds - fields.offset negative + fields'.offset negative')) ∧
        ((¬ ∃ value, registry.convert (.tag .zonedDatetime) (date ++ offset ++ "[" ++ zone ++ "]") = .ok value) →
          registry.Refuses .zonedDatetime (date ++ offset ++ "[" ++ zone ++ "]"))) ∧
    -- So proper fields are taken, and the others that are have hours enough to spare.
    (∀ fields : OffsetFields, (fields.Proper → fields.total < 86400) ∧
      (fields.total < 86400 → fields.hours ≤ 23 ∧ (fields.Proper ↔ fields.minutes ≤ 59 ∧ fields.seconds ≤ 59))) ∧
    -- Two offsets are the same date-time if they come to the same, for which proper fields are to be the same digits.
    ∀ form fields negative offset fields' negative' offset',
      IsWrittenOffset form fields negative offset.toList → IsWrittenOffset form fields' negative' offset'.toList →
      form.Behind → fields.total < 86400 → fields'.total < 86400 →
        (registry.convert (.tag .zonedDatetime) (date ++ offset) =
          registry.convert (.tag .zonedDatetime) (date ++ offset') ↔
            fields.offset negative = fields'.offset negative') ∧
        (fields.Proper → fields'.Proper → fields.offset negative = fields'.offset negative' →
          fields.offset negative ≠ 0 → offset = offset') := by
  have hmoment := registry.convert_moment_iff.1 hdate
  have hbehind : ∀ {form fields negative} {offset : String}, IsWrittenOffset form fields negative offset.toList →
      form.Behind → registry.TakesOffset moment fields negative (date ++ offset) :=
    fun h hform => takesOffset_of_readZoned (readZoned_writtenOffset hmoment h hform)
  refine ⟨fun form fields negative offset h => ⟨hbehind h, fun hform => ?_⟩, ?_, fun fields => ⟨?_, fun hday => ?_⟩, ?_⟩
  · exact takesOffset_of_readZoned (readZoned_bracketed_writtenOffset hmoment h hform)
  · intro form fields negative offset form' fields' negative' zone h hform h' hform'
    have hread := exists_readZoned_writtenOffset_iff registry.zones hmoment h hform h' hform'
    have hsome : (∃ value, registry.convert (.tag .zonedDatetime) (date ++ offset ++ "[" ++ zone ++ "]") = .ok value) ↔
        ∃ zoned, readZoned registry.zones (date ++ offset ++ "[" ++ zone ++ "]") = .ok zoned := by
      simp only [convert_zonedDatetime_eq_ok_iff]
      exact ⟨fun ⟨_, zoned, hzoned, _⟩ => ⟨zoned, hzoned⟩, fun ⟨zoned, hzoned⟩ => ⟨_, zoned, hzoned, rfl⟩⟩
    rw [hsome, refuses_zoned_iff]
    exact ⟨hread, readZoned_writtenOffset_refused hmoment h hform h' hform'⟩
  · exact OffsetFields.Proper.total_lt
  · refine ⟨?_, OffsetFields.proper_iff hday⟩
    rw [OffsetFields.total] at hday
    omega
  · intro form fields negative offset fields' negative' offset' h h' hform hday hday'
    refine ⟨(hbehind h hform).convert_eq_iff (hbehind h' hform) hday hday', fun hproper hproper' heq hne => ?_⟩
    exact String.toList_inj.1 (h.unique h' hproper hproper' heq hne)

/-- Sixty minutes are taken as an hour in both places. -/
theorem convert_writtenOffset_sixtyMinutes : ∃ (moment : Moment) (zone : Offset),
    (builtin almanac : Registry Empty).convert (.tag .datetime) "2024-01-01T00:00" = .ok (.moment moment) ∧
    IsWrittenOffset .minutes ⟨1, 60, 0⟩ false "+01:60".toList ∧ ¬ OffsetFields.Proper ⟨1, 60, 0⟩ ∧
    (builtin almanac : Registry Empty).convert (.tag .zonedDatetime) "2024-01-01T00:00+01:60" =
      (builtin almanac : Registry Empty).convert (.tag .zonedDatetime) "2024-01-01T00:00+02:00" ∧
    (builtin almanac : Registry Empty).convert (.tag .zonedDatetime) "2024-01-01T00:00[+0160]" =
      .ok (.zoned ⟨moment, .fixed zone, 7200⟩) ∧
    (builtin almanac : Registry Empty).Refuses .zonedDatetime "2024-01-01T00:00+24:00" := by
  have hdate : (builtin almanac : Registry Empty).convert (.tag .datetime) "2024-01-01T00:00" =
      .ok (.moment ⟨⟨2024, 1, 1, by decide, by decide, by decide, by decide, by decide, by decide⟩,
        ⟨0, 0, 0, 0, by decide, by decide, by decide, by decide⟩⟩) := rfl
  have isZero : IsPadded 2 0 ['0', '0'] := isPadded_pair rfl rfl rfl
  have isOne : IsPadded 2 1 ['0', '1'] := isPadded_pair rfl rfl rfl
  have isTwo : IsPadded 2 2 ['0', '2'] := isPadded_pair rfl rfl rfl
  have isDay : IsPadded 2 24 ['2', '4'] := isPadded_pair rfl rfl rfl
  have isSixty : IsPadded 2 60 ['6', '0'] := isPadded_pair rfl rfl rfl
  have isOffset : IsWrittenOffset .minutes ⟨1, 60, 0⟩ false "+01:60".toList := .ahead (.minutes isOne isSixty)
  have isOther : IsWrittenOffset .minutes ⟨2, 0, 0⟩ false "+02:00".toList := .ahead (.minutes isTwo isZero)
  have isCompact : IsWrittenOffset .compact ⟨1, 60, 0⟩ false "+0160".toList := .ahead (.compact isOne isSixty)
  have isWhole : IsWrittenOffset .minutes ⟨24, 0, 0⟩ false "+24:00".toList := .ahead (.minutes isDay isZero)
  obtain ⟨htakes, -, -, hsame⟩ := convert_writtenOffset hdate
  obtain ⟨zone, -, hcompact⟩ := ((htakes _ _ _ _ isCompact).2 nofun).convert (by decide)
  refine ⟨_, zone, hdate, isOffset, fun hproper => absurd hproper.minutes_le (by decide), ?_, hcompact, ?_⟩
  · exact (hsame _ _ _ _ _ _ _ isOffset isOther (.inl rfl) (by decide) (by decide)).1.2 rfl
  · exact ((htakes _ _ _ _ isWhole).1 (.inl rfl)).refuses (by decide)

end Lookup.Registry
