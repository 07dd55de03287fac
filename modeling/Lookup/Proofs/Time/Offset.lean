import Lookup.Proofs.Text.Fields
import Lookup.Proofs.Time.CalendarText
import Lookup.Time.Almanac

/-!
# Offsets behind a date-time and in brackets

An offset stands behind a date-time, or in brackets as a zone of its own, and is read by different rules in the two
places. Where both rules allow it, it means the same. What stands before a bracket is read apart from what stands
in it, as neither dates nor offsets have brackets.

## Main definitions

* `IsOffset` — the texts of an offset and its seconds, with or without the seconds of a minute
* `Unbracketed` — texts in which no bracket occurs

## Main results

* `offsetAfter?_eq_some_iff` — what is read behind a date-time are the offsets
* `readZone_of_isOffset` — an offset in brackets is the zone of this offset
* `bracketed?_append` — what stands in brackets at the end of a text
* `readZoned_offset`, `readZoned_zone`, `readZoned_offset_zone` — a date-time with an offset, a zone or both
* `Registry.convert_bracketed_offset` — an offset behind a date-time is the same as in brackets
-/

namespace Lookup.Time

open Number Text

variable {zones : ZoneDatabase} {long : Bool} {n width : Nat} {seconds : Int} {c : Char} {text front rest : List Char}

/-! ### The rules -/

/-- Hours and minutes, and where the span may be long perhaps seconds, each of two digits and of any value. -/
inductive IsSpan (long : Bool) : Nat → List Char → Prop
  | minutes {hours minutes : Nat} {h m : List Char} (isHours : IsPadded 2 hours h)
      (isMinutes : IsPadded 2 minutes m) :
      IsSpan long (hours * 3600 + minutes * 60) (h ++ ':' :: m)
  | seconds {hours minutes seconds : Nat} {h m s : List Char} (isLong : long = true) (isHours : IsPadded 2 hours h)
      (isMinutes : IsPadded 2 minutes m) (isSeconds : IsPadded 2 seconds s) :
      IsSpan long (hours * 3600 + minutes * 60 + seconds) (h ++ ':' :: (m ++ ':' :: s))

/-- The seconds of an offset: a `Z`, or a sign that counts for all of the span behind it. Behind a date-time the span
may be long, in brackets it may not. -/
inductive IsOffset (long : Bool) : Int → List Char → Prop
  | utc : IsOffset long 0 ['Z']
  | ahead {n : Nat} {span : List Char} (isSpan : IsSpan long n span) : IsOffset long n ('+' :: span)
  | behind {n : Nat} {span : List Char} (isSpan : IsSpan long n span) : IsOffset long (-n) ('-' :: span)

theorem IsSpan.toLong (h : IsSpan long n text) : IsSpan true n text := by
  cases h with
  | minutes isHours isMinutes => exact .minutes isHours isMinutes
  | seconds isLong isHours isMinutes isSeconds => exact .seconds rfl isHours isMinutes isSeconds

theorem IsOffset.toLong (h : IsOffset long seconds text) : IsOffset true seconds text := by
  cases h with
  | utc => exact .utc
  | ahead isSpan => exact .ahead isSpan.toLong
  | behind isSpan => exact .behind isSpan.toLong

theorem signed?_eq_some_iff :
    signed? c n = some seconds ↔ c = '+' ∧ (n : Int) = seconds ∨ c = '-' ∧ -(n : Int) = seconds := by
  unfold signed?
  by_cases hplus : c = '+'
  · simp [hplus]
  by_cases hminus : c = '-'
  · simp [hminus]
  · simp [hplus, hminus]

/-- A sign with a span behind it makes an offset. -/
theorem IsSpan.isOffset (h : IsSpan long n text) (hsign : signed? c n = some seconds) :
    IsOffset long seconds (c :: text) := by
  rcases signed?_eq_some_iff.1 hsign with ⟨rfl, rfl⟩ | ⟨rfl, rfl⟩
  · exact .ahead h
  · exact .behind h

/-! ### Offsets behind a date-time -/

/-- A number at the end is taken off and leaves nothing. -/
theorem takeDigits?_eq_nil (h : IsPadded width n text) : takeDigits? width text = some (n, []) := by
  have htake := takeDigits?_append h []
  rwa [List.append_nil] at htake

theorem offsetAfter?_cons (hsign : c ≠ 'Z') (h : IsSpan true n text) : offsetAfter? (c :: text) = signed? c n := by
  rw [offsetAfter?]
  -- The text is not a lone `Z`.
  swap
  · exact fun hc _ => hsign hc
  cases h with
  | minutes isHours isMinutes =>
    simp only [takeDigits?_append isHours, after?_cons, takeDigits?_eq_nil isMinutes,
      Option.bind_eq_bind, Option.bind_some, if_true]
  | seconds isLong isHours isMinutes isSeconds =>
    simp only [takeDigits?_append isHours, after?_cons, takeDigits?_append isMinutes,
      takeDigits?_eq_nil isSeconds, Option.bind_eq_bind, Option.bind_some, reduceCtorEq, if_false]

theorem exists_of_offsetAfter? (hutc : c = 'Z' → text ≠ []) (h : offsetAfter? (c :: text) = some seconds) :
    ∃ n, IsSpan true n text ∧ signed? c n = some seconds := by
  rw [offsetAfter?] at h
  swap
  · exact hutc
  simp only [Option.bind_eq_bind, Option.bind_eq_some_iff, Prod.exists, after?_eq_some_iff] at h
  obtain ⟨hours, _, hhours, _, rfl, minutes, afterMinutes, hminutes, h⟩ := h
  obtain ⟨hh, isHours, rfl⟩ := exists_of_takeDigits? hhours
  obtain ⟨mm, isMinutes, rfl⟩ := exists_of_takeDigits? hminutes
  split at h
  · next hend =>
    rw [hend, List.append_nil]
    exact ⟨_, .minutes isHours isMinutes, h⟩
  · simp only [Option.bind_eq_some_iff, after?_eq_some_iff] at h
    obtain ⟨_, rfl, h⟩ := h
    split at h
    · next hseconds =>
      obtain ⟨ss, isSeconds, rfl⟩ := exists_of_takeDigits? hseconds
      rw [List.append_nil]
      exact ⟨_, .seconds rfl isHours isMinutes isSeconds, h⟩
    · cases h

/-- Behind a date-time the offsets are read, and nothing else is. -/
theorem offsetAfter?_eq_some_iff : offsetAfter? text = some seconds ↔ IsOffset true seconds text := by
  constructor
  · intro h
    cases text with
    | nil => cases h
    | cons c text =>
      by_cases hutc : c = 'Z' ∧ text = []
      · obtain ⟨rfl, rfl⟩ := hutc
        obtain rfl : 0 = seconds := Option.some.inj h
        exact .utc
      · obtain ⟨n, isSpan, hsigned⟩ := exists_of_offsetAfter? (not_and.1 hutc) h
        exact isSpan.isOffset hsigned
  · intro h
    cases h with
    | utc => rfl
    | ahead isSpan =>
      rw [offsetAfter?_cons (by decide) isSpan]
      rfl
    | behind isSpan =>
      rw [offsetAfter?_cons (by decide) isSpan]
      rfl

/-! ### Offsets in brackets -/

/-- In brackets only spans of hours and minutes are offsets. -/
theorem offsetSeconds?_cons (h : IsSpan false n text) : offsetSeconds? (c :: text) = signed? c n := by
  cases h with
  | minutes isHours isMinutes =>
    simp only [offsetSeconds?, takeDigits?_append isHours, after?_cons, Option.getD_some,
      takeDigits?_eq_nil isMinutes, Option.bind_eq_bind, Option.bind_some, reduceCtorEq, if_false]
  | seconds isLong => cases isLong

theorem checkOffset_eq_ok_iff {offset : Offset} : checkOffset seconds = .ok offset ↔ offset.seconds = seconds := by
  unfold checkOffset Offset.of?
  constructor
  · intro h
    split_ifs at h
    rw [← Except.ok.inj h]
  · rintro rfl
    simp only [offset.above, offset.below, and_self, dif_pos]

theorem checkOffset_eq_error (h : ¬ (-86400 < seconds ∧ seconds < 86400)) :
    checkOffset seconds = .error (.offset seconds) := by
  rw [checkOffset, Offset.of?, dif_neg h]

/-- What is read as an offset is the zone of this offset, and not one of the three short names. -/
theorem readZone_of_offsetSeconds? {zone : String} (h : offsetSeconds? zone.toList = some seconds) :
    readZone zones zone = ((checkOffset seconds).map Zone.fixed).mapError .refused := by
  have hnamed : ¬ (zone = "Z" ∨ zone = "UTC" ∨ zone = "GMT") := by
    rintro (rfl | rfl | rfl) <;> simp [offsetSeconds?, takeDigits?, digitsValue?, isDigit] at h
  simp only [readZone, if_neg hnamed, h]

/-- An offset in brackets is the zone of this offset. -/
theorem readZone_of_isOffset {offset : String} (h : IsOffset false seconds offset.toList) :
    readZone zones offset = ((checkOffset seconds).map Zone.fixed).mapError .refused := by
  generalize htext : offset.toList = text at h
  cases h with
  | utc =>
    obtain rfl : offset = "Z" := String.toList_inj.1 htext
    rfl
  | ahead isSpan => exact readZone_of_offsetSeconds? (by rw [htext, offsetSeconds?_cons isSpan]; rfl)
  | behind isSpan => exact readZone_of_offsetSeconds? (by rw [htext, offsetSeconds?_cons isSpan]; rfl)

/-! ### Brackets -/

/-- A text in which no bracket occurs. -/
def Unbracketed (text : List Char) : Prop := '[' ∉ text ∧ ']' ∉ text

@[simp] theorem unbracketed_nil : Unbracketed [] := by simp [Unbracketed]

@[simp] theorem unbracketed_cons : Unbracketed (c :: text) ↔ (c ≠ '[' ∧ c ≠ ']') ∧ Unbracketed text := by
  simp only [Unbracketed, List.mem_cons, not_or, ne_eq, eq_comm]
  exact and_and_and_comm

@[simp] theorem unbracketed_append : Unbracketed (front ++ text) ↔ Unbracketed front ∧ Unbracketed text := by
  simp only [Unbracketed, List.mem_append, not_or]
  exact and_and_and_comm

theorem unbracketed_of_isDigit (h : ∀ c ∈ text, c.isDigit = true) : Unbracketed text :=
  ⟨fun hmem => absurd (h _ hmem) (by decide), fun hmem => absurd (h _ hmem) (by decide)⟩

theorem IsPadded.unbracketed (h : IsPadded width n text) : Unbracketed text := by
  obtain ⟨-, -, isDigit⟩ := h
  exact unbracketed_of_isDigit isDigit

theorem IsDateText.unbracketed {year month day : Nat} (h : IsDateText year month day text) : Unbracketed text := by
  obtain ⟨isYear, isMonth, isDay⟩ := h
  simp [isYear.unbracketed, isMonth.unbracketed, isDay.unbracketed]

theorem IsClockText.unbracketed {hour minute second micro : Nat} (h : IsClockText hour minute second micro text) :
    Unbracketed text := by
  cases h with
  | minutes isHour isMinute => simp [isHour.unbracketed, isMinute.unbracketed]
  | seconds isHour isMinute isSecond => simp [isHour.unbracketed, isMinute.unbracketed, isSecond.unbracketed]
  | fraction isHour isMinute isSecond _ _ isDigit =>
    simp [isHour.unbracketed, isMinute.unbracketed, isSecond.unbracketed, unbracketed_of_isDigit isDigit]

theorem IsSpan.unbracketed (h : IsSpan long n text) : Unbracketed text := by
  cases h with
  | minutes isHours isMinutes => simp [isHours.unbracketed, isMinutes.unbracketed]
  | seconds _ isHours isMinutes isSeconds => simp [isHours.unbracketed, isMinutes.unbracketed, isSeconds.unbracketed]

theorem IsOffset.unbracketed (h : IsOffset long seconds text) : Unbracketed text := by
  cases h with
  | utc => simp
  | ahead isSpan => simp [isSpan.unbracketed]
  | behind isSpan => simp [isSpan.unbracketed]

theorem bracketed?_of_unbracketed (h : Unbracketed text) (hne : text ≠ []) :
    bracketed? text = some (text, none) := by
  have hcut : cut '[' text = none := cut_eq_none_iff.2 h.1
  simp only [bracketed?, hcut, if_neg hne]

/-- What stands in brackets at the end is the zone, unless it is nothing or closes the brackets itself. -/
theorem bracketed?_append {zone : List Char} (h : Unbracketed text) (hne : text ≠ []) :
    bracketed? (text ++ '[' :: (zone ++ [']'])) =
      if zone ≠ [] ∧ ']' ∉ zone then some (text, some zone) else none := by
  have hcut : cut '[' (text ++ '[' :: (zone ++ [']'])) = some (text, zone ++ [']']) := cut_append h.1
  simp only [bracketed?, hcut]
  by_cases hclosed : ']' ∈ zone
  · -- The last bracket stands behind the first that closes.
    obtain ⟨start, rest, rfl, hstart⟩ := List.eq_append_cons_of_mem hclosed
    have hend : cut ']' (start ++ ']' :: rest ++ [']']) = some (start, rest ++ [']']) := by
      rw [List.append_assoc, List.cons_append]
      exact cut_append hstart
    obtain ⟨c, later, hlater⟩ : ∃ c later, rest ++ [']'] = c :: later := by cases rest <;> simp
    rw [hlater] at hend
    simp only [hend, hclosed, not_true, and_false, if_false]
  · have hend : cut ']' (zone ++ [']']) = some (zone, []) := cut_append hclosed
    simp only [hend, hne, false_or, hclosed, not_false_eq_true, and_true, ite_not]

/-! ### Date-times with an offset or a zone -/

section Zoned

variable {date offset zone : String} {moment : Moment}

/-- A text that is read as a date with a time is read as the same at the start of a longer one. -/
theorem exists_momentFields?_append (h : readMoment date = .ok moment) :
    ∃ fields, checkMoment fields = .ok moment ∧
      ∀ rest, EndsClock rest → momentFields? (date.toList ++ rest) = some (fields, rest) := by
  obtain ⟨day, clock, rfl, hday, hclock⟩ := readMoment_eq_ok_iff.1 h
  have isDate := readDate_eq_ok_iff.1 hday
  have isClock := readTime_eq_ok_iff.1 hclock
  have hcheck : checkMoment (⟨moment.date.year, moment.date.month, moment.date.day⟩,
      ⟨moment.clock.hour, moment.clock.minute, moment.clock.second, moment.clock.micro, isClock.micro_lt⟩) =
        .ok moment :=
    checkMoment_eq_ok_iff.2
      ⟨DateFields.check_eq_ok_iff.2 ⟨rfl, rfl, rfl⟩, ClockFields.check_eq_ok_iff.2 ⟨rfl, rfl, rfl, rfl⟩⟩
  refine ⟨_, hcheck, fun rest hrest => ?_⟩
  have htext : (day ++ "T" ++ clock).toList ++ rest = day.toList ++ 'T' :: (clock.toList ++ rest) := by simp
  rw [htext]
  exact momentFields?_append isDate isClock hrest

theorem unbracketed_of_readMoment (h : readMoment date = .ok moment) :
    Unbracketed date.toList ∧ date.toList ≠ [] := by
  obtain ⟨day, clock, rfl, hday, hclock⟩ := readMoment_eq_ok_iff.1 h
  have isDate := readDate_eq_ok_iff.1 hday
  have isClock := readTime_eq_ok_iff.1 hclock
  constructor
  · simp [isDate.unbracketed, isClock.unbracketed]
  · simp

theorem IsOffset.endsClock (h : IsOffset long seconds text) : EndsClock text ∧ text ≠ [] := by
  cases h <;> simp [EndsClock]

/-- A date-time without an offset. -/
theorem exists_baseFields? (h : readMoment date = .ok moment) :
    ∃ fields, checkMoment fields = .ok moment ∧ baseFields? date.toList = some (fields, none) ∧
      ∀ {seconds : Int} {offset : List Char}, IsOffset true seconds offset →
        baseFields? (date.toList ++ offset) = some (fields, some seconds) := by
  obtain ⟨fields, hcheck, happend⟩ := exists_momentFields?_append h
  refine ⟨fields, hcheck, ?_, fun {seconds offset} isOffset => ?_⟩
  · have hnil := happend [] endsClock_nil
    rw [List.append_nil] at hnil
    simp only [baseFields?, hnil]
  · cases offset with
    | nil => exact absurd rfl isOffset.endsClock.2
    | cons c rest =>
      simp only [baseFields?, happend _ isOffset.endsClock.1, offsetAfter?_eq_some_iff.2 isOffset, Option.map_some]

/-- An offset behind a date-time is its zone. -/
theorem readZoned_offset (hmoment : readMoment date = .ok moment) (isOffset : IsOffset true seconds offset.toList) :
    readZoned zones (date ++ offset) =
      ((checkOffset seconds).map fun offset => Zoned.ofLocal moment (.fixed offset)).mapError .refused := by
  obtain ⟨fields, hcheck, -, hbase⟩ := exists_baseFields? hmoment
  obtain ⟨hdate, hne⟩ := unbracketed_of_readMoment hmoment
  have hbracketed : bracketed? (date.toList ++ offset.toList) = some (date.toList ++ offset.toList, none) :=
    bracketed?_of_unbracketed (by simp [hdate, isOffset.unbracketed]) (by simp [hne])
  simp only [readZoned, String.toList_append, hbracketed, hbase isOffset, hcheck, Option.mapM_some]
  cases checkOffset seconds with
  | error reason => rfl
  | ok offset => rfl

theorem toList_bracketed (base zone : String) :
    (base ++ "[" ++ zone ++ "]").toList = base.toList ++ '[' :: (zone.toList ++ [']']) := by
  simp

/-- A zone is attached to a date-time that has no offset. -/
theorem readZoned_zone (hmoment : readMoment date = .ok moment) (hzone : zone.toList ≠ [] ∧ ']' ∉ zone.toList) :
    readZoned zones (date ++ "[" ++ zone ++ "]") = (readZone zones zone).map (Zoned.ofLocal moment) := by
  obtain ⟨fields, hcheck, hbase, -⟩ := exists_baseFields? hmoment
  obtain ⟨hdate, hne⟩ := unbracketed_of_readMoment hmoment
  have hbracketed := (bracketed?_append hdate hne).trans (if_pos hzone)
  simp only [readZoned, toList_bracketed, hbracketed, hbase, hcheck, Option.mapM_none, Except.mapError, pure,
    Except.pure, bind, Except.bind, String.ofList_toList]
  cases readZone zones zone with
  | error fault => rfl
  | ok found => rfl

/-- A zone behind an offset moves the date-time of the offset to the zone. -/
theorem readZoned_offset_zone (hmoment : readMoment date = .ok moment)
    (isOffset : IsOffset true seconds offset.toList) (hzone : zone.toList ≠ [] ∧ ']' ∉ zone.toList) :
    readZoned zones (date ++ offset ++ "[" ++ zone ++ "]") =
      ((checkOffset seconds).mapError .refused).bind fun suffix => (readZone zones zone).bind fun found =>
        ((Zoned.ofLocal moment (.fixed suffix)).toZone? found).elim (.error (.refused .outsideCalendar)) .ok := by
  obtain ⟨fields, hcheck, -, hbase⟩ := exists_baseFields? hmoment
  obtain ⟨hdate, hne⟩ := unbracketed_of_readMoment hmoment
  have hbracketed : bracketed? ((date ++ offset).toList ++ '[' :: (zone.toList ++ [']'])) =
      some (date.toList ++ offset.toList, some zone.toList) := by
    rw [String.toList_append]
    exact (bracketed?_append (by simp [hdate, isOffset.unbracketed]) (by simp [hne])).trans (if_pos hzone)
  simp only [readZoned, toList_bracketed, hbracketed, hbase isOffset, hcheck, Option.mapM_some]
  cases checkOffset seconds with
  | error reason => rfl
  | ok suffix =>
    simp only [Except.mapError, Functor.map, Except.map, pure, Except.pure, bind, Except.bind, String.ofList_toList]
    cases readZone zones zone with
    | error fault => rfl
    | ok found =>
      cases hmoved : (Zoned.ofLocal moment (.fixed suffix)).toZone? found with
      | none => simp only [hmoved, Option.elim_none]; rfl
      | some zoned => simp only [hmoved, Option.elim_some]

/-- An offset in brackets is read as behind the date-time, also where it is refused. -/
theorem readZoned_bracketed_offset (hmoment : readMoment date = .ok moment)
    (isOffset : IsOffset false seconds offset.toList) :
    readZoned zones (date ++ "[" ++ offset ++ "]") = readZoned zones (date ++ offset) := by
  calc readZoned zones (date ++ "[" ++ offset ++ "]")
      = (readZone zones offset).map (Zoned.ofLocal moment) :=
        readZoned_zone hmoment ⟨isOffset.endsClock.2, isOffset.unbracketed.2⟩
    _ = (((checkOffset seconds).map Zone.fixed).mapError .refused).map (Zoned.ofLocal moment) := by
        rw [readZone_of_isOffset isOffset]
    _ = ((checkOffset seconds).map fun offset => Zoned.ofLocal moment (.fixed offset)).mapError .refused := by
        cases checkOffset seconds <;> rfl
    _ = readZoned zones (date ++ offset) := (readZoned_offset hmoment isOffset.toLong).symm

theorem readZoned_offset_eq_ok {suffix : Offset} (hmoment : readMoment date = .ok moment)
    (isOffset : IsOffset true seconds offset.toList) (hsuffix : suffix.seconds = seconds) :
    readZoned zones (date ++ offset) = .ok ⟨moment, .fixed suffix, seconds⟩ := by
  rw [readZoned_offset hmoment isOffset, checkOffset_eq_ok_iff.2 hsuffix, ← hsuffix]
  rfl

theorem readZoned_offset_eq_error (hmoment : readMoment date = .ok moment)
    (isOffset : IsOffset true seconds offset.toList) (hday : ¬ (-86400 < seconds ∧ seconds < 86400)) :
    readZoned zones (date ++ offset) = .error (.refused (.offset seconds)) := by
  rw [readZoned_offset hmoment isOffset, checkOffset_eq_error hday]
  rfl

end Zoned

theorem Zone.fixed_eq_utc {zone : Offset} (h : zone.seconds = 0) : Zone.fixed zone = .utc := by
  cases zone
  cases h
  rfl

end Lookup.Time

namespace Lookup.Registry

open Time

variable {ε : Type} {registry : Registry ε} {text date offset : String} {moment : Moment} {seconds : Int}

theorem convert_zonedDatetime_eq_ok_iff {value : Value} :
    registry.convert (.tag .zonedDatetime) text = .ok value ↔
      ∃ zoned, readZoned registry.zones text = .ok zoned ∧ value = .zoned zoned := by
  rw [convert_tag_eq_ok_iff, Tag.read]
  cases readZoned registry.zones text <;> simp [Except.map, eq_comm]

theorem convert_zoned_iff {zoned : Zoned} :
    registry.convert (.tag .zonedDatetime) text = .ok (.zoned zoned) ↔ readZoned registry.zones text = .ok zoned := by
  simp [convert_zonedDatetime_eq_ok_iff]

theorem refuses_zoned_iff :
    registry.Refuses .zonedDatetime text ↔ ∃ reason, readZoned registry.zones text = .error (.refused reason) := by
  rw [refuses_iff, Tag.read]
  cases readZoned registry.zones text <;> simp [Except.map]

/-- An offset of hours and minutes means the same in brackets as behind a date-time. Less than a day either way it
is the zone, with UTC for none, and the fields of the date-time are kept. Of a day or more it is refused in both
places. -/
theorem convert_bracketed_offset (hdate : registry.convert (.tag .datetime) date = .ok (.moment moment))
    (isOffset : IsOffset false seconds offset.toList) :
    (-86400 < seconds ∧ seconds < 86400 → ∃ zone : Offset,
      zone.seconds = seconds ∧ (seconds = 0 → Zone.fixed zone = .utc) ∧
      registry.convert (.tag .zonedDatetime) (date ++ offset) = .ok (.zoned ⟨moment, .fixed zone, seconds⟩) ∧
      registry.convert (.tag .zonedDatetime) (date ++ "[" ++ offset ++ "]") =
        .ok (.zoned ⟨moment, .fixed zone, seconds⟩)) ∧
    (¬ (-86400 < seconds ∧ seconds < 86400) →
      registry.Refuses .zonedDatetime (date ++ offset) ∧
        registry.Refuses .zonedDatetime (date ++ "[" ++ offset ++ "]")) := by
  have hmoment := registry.convert_moment_iff.1 hdate
  simp only [convert_zoned_iff, refuses_zoned_iff, readZoned_bracketed_offset hmoment isOffset, and_self]
  constructor
  · intro hday
    -- The sign has been applied to the span before, and so the zone is the offset as it was read.
    obtain ⟨zone, rfl⟩ : ∃ zone : Offset, zone.seconds = seconds := ⟨⟨seconds, hday.1, hday.2⟩, rfl⟩
    exact ⟨zone, rfl, Zone.fixed_eq_utc, readZoned_offset_eq_ok hmoment isOffset.toLong rfl⟩
  · exact fun hday => ⟨_, readZoned_offset_eq_error hmoment isOffset.toLong hday⟩

/-- Hours and minutes count against the sign together. -/
theorem convert_bracketed_offset_behind : ∃ (moment : Moment) (zone : Offset),
    (builtin almanac : Registry Empty).convert (.tag .datetime) "2007-12-03T10:15:30.5" = .ok (.moment moment) ∧
    IsOffset false (-19800) "-05:30".toList ∧ zone.seconds = -19800 ∧
    (builtin almanac : Registry Empty).convert (.tag .zonedDatetime) "2007-12-03T10:15:30.5-05:30" =
      .ok (.zoned ⟨moment, .fixed zone, -19800⟩) ∧
    (builtin almanac : Registry Empty).convert (.tag .zonedDatetime) "2007-12-03T10:15:30.5[-05:30]" =
      .ok (.zoned ⟨moment, .fixed zone, -19800⟩) := by
  have hdate : (builtin almanac : Registry Empty).convert (.tag .datetime) "2007-12-03T10:15:30.5" =
      .ok (.moment ⟨⟨2007, 12, 3, by decide, by decide, by decide, by decide, by decide, by decide⟩,
        ⟨10, 15, 30, 500000, by decide, by decide, by decide, by decide⟩⟩) := rfl
  have isHours : IsPadded 2 5 ['0', '5'] :=
    IsPadded.intro (List.cons_ne_nil _ _) (show ['0', '5'].length = 2 from rfl) (by simp)
  have isMinutes : IsPadded 2 30 ['3', '0'] :=
    IsPadded.intro (List.cons_ne_nil _ _) (show ['3', '0'].length = 2 from rfl) (by simp)
  have isOffset : IsOffset false (-19800) "-05:30".toList := .behind (.minutes isHours isMinutes)
  obtain ⟨zone, hzone, -, hbehind, hbracketed⟩ := (convert_bracketed_offset hdate isOffset).1 (by decide)
  exact ⟨_, zone, hdate, isOffset, hzone, hbehind, hbracketed⟩

end Lookup.Registry
