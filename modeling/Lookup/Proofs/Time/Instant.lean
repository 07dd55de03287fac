import Lookup.Proofs.Time.Offset
import Lookup.Time.Almanac

/-!
# A zone keeps the instant

A date-time with an offset moves to a zone by way of UTC: the offset is taken from the local time, and the offset
that the zone has at this instant is added. Both steps are moves through the calendar that fail only outside of it,
so that the instant is the same whatever the offsets of the zone are. Without an offset the local time is the one
that the zone shows.

## Main definitions

* `Zoned.instant` — the instant of a date-time in a zone
* `Zoned.IsAt` — a date-time in a zone at an instant
* `Zone.Shows` — instants at which UTC and the local time of a zone are in the calendar

## Main results

* `unbracketed_of_readZone` — the texts of zones can stand in brackets
* `Zoned.toZone?_eq_some_iff`, `Zoned.exists_toZone?_iff` — what moving to a zone gives, and where it can be done
* `readZoned_zone_eq_ok_iff`, `readZoned_offset_zone_eq_ok_iff` — the texts with a zone that are read
* `Registry.convert_offset_zone` — a zone in brackets keeps the instant
-/

namespace Lookup.Time

open Number Text

variable {zones : ZoneDatabase} {seconds : Int} {text : List Char}

/-! ### Zones that can stand in brackets -/

theorem unbracketed_of_offsetSeconds? (h : offsetSeconds? text = some seconds) :
    Unbracketed text ∧ text ≠ [] := by
  cases text with
  | nil => cases h
  | cons sign text =>
    refine ⟨unbracketed_cons.2 ?_, List.cons_ne_nil _ _⟩
    simp only [offsetSeconds?, Option.bind_eq_bind, Option.bind_eq_some_iff, Prod.exists] at h
    obtain ⟨hours, rest, hhours, h⟩ := h
    obtain ⟨hh, isHours, rfl⟩ := exists_of_takeDigits? hhours
    have hsign : ∀ {n : Nat}, signed? sign n = some seconds → sign ≠ '[' ∧ sign ≠ ']' := by
      intro n hn
      rcases signed?_eq_some_iff.1 hn with ⟨rfl, -⟩ | ⟨rfl, -⟩ <;> decide
    split at h
    · next hend => exact ⟨hsign h, by simp [hend, isHours.unbracketed]⟩
    · split at h
      · next hminutes =>
        obtain ⟨mm, isMinutes, hmm⟩ := exists_of_takeDigits? hminutes
        refine ⟨hsign h, unbracketed_append.2 ⟨isHours.unbracketed, ?_⟩⟩
        -- Between hours and minutes there may be a colon or not.
        cases hcolon : after? ':' rest with
        | none =>
          rw [hcolon, Option.getD_none, List.append_nil] at hmm
          exact hmm ▸ isMinutes.unbracketed
        | some rest' =>
          obtain rfl := after?_eq_some_iff.1 hcolon
          rw [hcolon, Option.getD_some, List.append_nil] at hmm
          simp [hmm, isMinutes.unbracketed]
      · cases h

theorem exists_of_lookUpZone {zone : String} {found : Zone} (h : lookUpZone zones zone = .ok found) :
    zone.toList ≠ [] ∧ ∃ rules, zones.find zone = .ok (some rules) ∧ found = .region zone rules := by
  unfold lookUpZone at h
  split at h
  · cases h
  · next hfault =>
    split at h
    · cases h
    · cases h
    · next rules hrules =>
      refine ⟨fun hnil => ?_, rules, hrules, (Except.ok.inj h).symm⟩
      -- The empty text is no key, since it names the directory of the zones.
      obtain rfl : zone = "" := String.toList_inj.1 hnil
      exact absurd hfault (by decide)

/-- The keys of regions are free of brackets. -/
theorem unbracketed_of_find {key : String} {rules : Region} (h : zones.find key = .ok (some rules)) :
    Unbracketed key.toList :=
  ⟨fun hmem => absurd (zones.isKeyChar_of_find h _ hmem) (by decide),
    fun hmem => absurd (zones.isKeyChar_of_find h _ hmem) (by decide)⟩

/-- What names a zone can stand in brackets. -/
theorem unbracketed_of_readZone {zone : String} {found : Zone} (h : readZone zones zone = .ok found) :
    Unbracketed zone.toList ∧ zone.toList ≠ [] := by
  unfold readZone at h
  split at h
  · next hnamed =>
    rcases hnamed with rfl | rfl | rfl <;> simp
  · split at h
    · next hseconds => exact unbracketed_of_offsetSeconds? hseconds
    · obtain ⟨hne, rules, hrules, -⟩ := exists_of_lookUpZone h
      exact ⟨unbracketed_of_find hrules, hne⟩

/-! ### Moving a date-time to another zone -/

/-- The microseconds since the beginning of the day before year 1. -/
def Moment.micros (moment : Moment) : Int := moment.seconds * 1000000 + moment.clock.micro

theorem Moment.seconds_of_micros (moment : Moment) (seconds : Int) :
    (moment.micros - seconds * 1000000) / 1000000 = moment.seconds - seconds := by
  have hmicro := moment.clock.micro_lt
  rw [micros]
  omega

/-- The instant of a date-time in microseconds of UTC. -/
def Zoned.instant (zoned : Zoned) : Int := zoned.moment.micros - zoned.offset * 1000000

/-- The offset that a zone has at an instant, given in seconds of UTC: a fixed offset is the same at all of them, and
a region has the one that the zone database says. -/
inductive Zone.HasOffset (instant : Int) : Zone → Int → Prop
  | fixed (offset : Offset) : HasOffset instant (.fixed offset) offset.seconds
  | region (name : String) (rules : Region) : HasOffset instant (.region name rules) (rules.offsetAt instant)

/-- The offset that a zone has at a local time, given in seconds. -/
inductive Zone.HasLocalOffset (time : Int) : Zone → Int → Prop
  | fixed (offset : Offset) : HasLocalOffset time (.fixed offset) offset.seconds
  | region (name : String) (rules : Region) : HasLocalOffset time (.region name rules) (rules.localOffset time)

theorem Zone.isUtc_iff {zone : Zone} : zone.isUtc = true ↔ zone = .utc := by
  constructor
  · cases zone with
    | fixed offset => exact fun h => Zone.fixed_eq_utc (beq_iff_eq.1 h)
    | region name rules => exact fun h => absurd h Bool.false_ne_true
  · rintro rfl
    rfl

theorem Zone.hasOffset_iff {zone : Zone} {instant offset : Int} :
    zone.HasOffset instant offset ↔ offset = zone.offsetAt instant := by
  constructor
  · rintro (⟨_⟩ | ⟨_, _⟩) <;> rfl
  · rintro rfl
    cases zone with
    | fixed offset => exact .fixed offset
    | region name rules => exact .region name rules

theorem Zone.hasLocalOffset_iff {zone : Zone} {time offset : Int} :
    zone.HasLocalOffset time offset ↔ offset = zone.localOffset time := by
  constructor
  · rintro (⟨_⟩ | ⟨_, _⟩) <;> rfl
  · rintro rfl
    cases zone with
    | fixed offset => exact .fixed offset
    | region name rules => exact .region name rules

/-- A zone shows an instant, given in seconds of UTC, when UTC and its local time there are both in the calendar. -/
def Zone.Shows (zone : Zone) (instant : Int) : Prop :=
  Moment.InCalendar instant ∧ ∃ offset, zone.HasOffset instant offset ∧ Moment.InCalendar (instant + offset)

theorem Zone.shows_iff {zone : Zone} {instant : Int} :
    zone.Shows instant ↔ Moment.InCalendar instant ∧ Moment.InCalendar (instant + zone.offsetAt instant) := by
  simp only [Shows, hasOffset_iff, exists_eq_left]

/-- A date-time is in a zone, at an instant in microseconds of UTC, and has the offset of the zone there. -/
structure Zoned.IsAt (zoned : Zoned) (zone : Zone) (instant : Int) : Prop where
  zone_eq : zoned.zone = zone
  instant_eq : zoned.instant = instant
  hasOffset : zone.HasOffset (instant / 1000000) zoned.offset

namespace Zoned

variable {moment : Moment} {suffix : Offset} {zone : Zone} {zoned : Zoned}

/-- A date-time moves over UTC, also where it is in UTC and stays there. -/
theorem toZone?_eq_some_iff_shift? :
    (Zoned.ofLocal moment (.fixed suffix)).toZone? zone = some zoned ↔
      ∃ utc, moment.shift? (-suffix.seconds) = some utc ∧
        utc.shift? (zone.offsetAt utc.seconds) = some zoned.moment ∧
          zoned.zone = zone ∧ zoned.offset = zone.offsetAt utc.seconds := by
  have hlocal : Zoned.ofLocal moment (.fixed suffix) = ⟨moment, .fixed suffix, suffix.seconds⟩ := rfl
  rw [hlocal, toZone?]
  by_cases hutc : (Zone.fixed suffix).isUtc && zone.isUtc
  · rw [if_pos hutc]
    rw [Bool.and_eq_true, Zone.isUtc_iff, Zone.isUtc_iff] at hutc
    obtain ⟨hsuffix, rfl⟩ := hutc
    obtain rfl := Zone.fixed.inj hsuffix
    -- The date-time stays what it is, as it does when it is moved by nothing twice.
    constructor
    · intro h
      obtain rfl := Option.some.inj h
      exact ⟨moment, moment.shift?_zero, moment.shift?_zero, rfl, rfl⟩
    · rintro ⟨utc, hshift, hmoved, hzone, hoffset⟩
      obtain rfl := Option.some.inj (moment.shift?_zero.symm.trans hshift)
      obtain ⟨found, zone, offset⟩ := zoned
      obtain rfl := Option.some.inj (moment.shift?_zero.symm.trans hmoved)
      cases hzone
      cases hoffset
      rfl
  · rw [if_neg hutc]
    simp only [Option.bind_eq_some_iff, Option.map_eq_some_iff]
    constructor
    · rintro ⟨utc, hshift, moved, hmoved, rfl⟩
      exact ⟨utc, hshift, hmoved, rfl, rfl⟩
    · rintro ⟨utc, hshift, hmoved, rfl, hoffset⟩
      refine ⟨utc, hshift, zoned.moment, hmoved, ?_⟩
      rw [← hoffset]

/-- Whatever the offsets of the zone are, moving there keeps the instant. -/
theorem toZone?_eq_some_iff :
    (Zoned.ofLocal moment (.fixed suffix)).toZone? zone = some zoned ↔
      Moment.InCalendar (moment.seconds - suffix.seconds) ∧
        zoned.IsAt zone (moment.micros - suffix.seconds * 1000000) := by
  rw [toZone?_eq_some_iff_shift?]
  constructor
  · rintro ⟨utc, hutc, hmoved, hzone, hoffset⟩
    have hinstant := Moment.seconds_of_shift?_neg hutc
    obtain ⟨hseconds, hmicro⟩ := Moment.shift?_eq_some_iff.1 hmoved
    refine ⟨hinstant ▸ utc.inCalendar, hzone, ?_, ?_⟩
    · rw [instant, Moment.micros, Moment.micros, hseconds, hoffset, hmicro, (Moment.shift?_eq_some_iff.1 hutc).2]
      omega
    · rw [Moment.seconds_of_micros, Zone.hasOffset_iff, hoffset, hinstant]
  · rintro ⟨hmem, hzone, hinstant, hoffset⟩
    obtain ⟨utc, hutc⟩ := Moment.exists_shift?_iff.2 hmem
    have hseconds := Moment.seconds_of_shift?_neg hutc
    rw [Moment.seconds_of_micros, ← hseconds, Zone.hasOffset_iff] at hoffset
    -- Seconds and microseconds are known from their sum, as there is less than a second of the latter.
    have hmicro := moment.clock.micro_lt
    have hmicro' := zoned.moment.clock.micro_lt
    rw [instant, Moment.micros, Moment.micros] at hinstant
    refine ⟨utc, hutc, Moment.shift?_eq_some_iff.2 ⟨?_, ?_⟩, hzone, hoffset⟩
    · rw [← hoffset]
      omega
    · rw [(Moment.shift?_eq_some_iff.1 hutc).2]
      omega

/-- A date-time moves to where a zone shows its instant. -/
theorem exists_toZone?_iff :
    (∃ zoned, (Zoned.ofLocal moment (.fixed suffix)).toZone? zone = some zoned) ↔
      zone.Shows (moment.seconds - suffix.seconds) := by
  simp only [toZone?_eq_some_iff_shift?, Zone.shows_iff]
  constructor
  · rintro ⟨zoned, utc, hutc, hmoved, -⟩
    rw [← Moment.seconds_of_shift?_neg hutc]
    exact ⟨utc.inCalendar, Moment.exists_shift?_iff.1 ⟨_, hmoved⟩⟩
  · rintro ⟨hmem, hshown⟩
    obtain ⟨utc, hutc⟩ := Moment.exists_shift?_iff.2 hmem
    rw [← Moment.seconds_of_shift?_neg hutc] at hshown
    obtain ⟨moved, hmoved⟩ := Moment.exists_shift?_iff.2 hshown
    exact ⟨⟨moved, zone, zone.offsetAt utc.seconds⟩, utc, hutc, hmoved, rfl, rfl⟩

end Zoned

/-! ### Reading a date-time with a zone -/

section Reading

variable {date offset zone : String} {moment : Moment} {zoned : Zoned} {found : Zone} {suffix : Offset}

/-- Empty brackets are refused, and so are brackets that close before the end. -/
theorem readZoned_not_bracketed {base : String} (hbase : Unbracketed base.toList ∧ base.toList ≠ [])
    (hzone : ¬ (zone.toList ≠ [] ∧ ']' ∉ zone.toList)) :
    readZoned zones (base ++ "[" ++ zone ++ "]") = .error (.refused (.notZoned (base ++ "[" ++ zone ++ "]"))) := by
  have hbracketed := (bracketed?_append hbase.1 hbase.2).trans (if_neg hzone)
  simp only [readZoned, toList_bracketed, hbracketed]
  rfl

/-- A date-time with a zone is read where the zone is, and keeps its fields. -/
theorem readZoned_zone_eq_ok_iff (hmoment : readMoment date = .ok moment) :
    readZoned zones (date ++ "[" ++ zone ++ "]") = .ok zoned ↔
      ∃ found, readZone zones zone = .ok found ∧ zoned = Zoned.ofLocal moment found := by
  by_cases hzone : zone.toList ≠ [] ∧ ']' ∉ zone.toList
  · rw [readZoned_zone hmoment hzone]
    cases readZone zones zone <;> simp [Except.map, eq_comm]
  · rw [readZoned_not_bracketed (unbracketed_of_readMoment hmoment) hzone]
    refine iff_of_false (by simp) ?_
    rintro ⟨found, hfound, -⟩
    obtain ⟨hfree, hne⟩ := unbracketed_of_readZone hfound
    exact hzone ⟨hne, hfree.2⟩

/-- A date-time with an offset and a zone is read where both are, and the first can be moved to the second. -/
theorem readZoned_offset_zone_eq_ok_iff {seconds : Int} (hmoment : readMoment date = .ok moment)
    (isOffset : IsOffset true seconds offset.toList) :
    readZoned zones (date ++ offset ++ "[" ++ zone ++ "]") = .ok zoned ↔
      ∃ suffix found, checkOffset seconds = .ok suffix ∧ readZone zones zone = .ok found ∧
        (Zoned.ofLocal moment (.fixed suffix)).toZone? found = some zoned := by
  by_cases hzone : zone.toList ≠ [] ∧ ']' ∉ zone.toList
  · rw [readZoned_offset_zone hmoment isOffset hzone]
    cases hsuffix : checkOffset seconds with
    | error reason => simp [Except.mapError, Except.bind]
    | ok suffix =>
      cases hfound : readZone zones zone with
      | error fault => simp [Except.mapError, Except.bind]
      | ok found =>
        cases hmoved : (Zoned.ofLocal moment (.fixed suffix)).toZone? found <;>
          simp [Except.mapError, Except.bind, hmoved]
  · obtain ⟨hdate, hne⟩ := unbracketed_of_readMoment hmoment
    rw [readZoned_not_bracketed (by simp [hdate, hne, isOffset.unbracketed]) hzone]
    refine iff_of_false (by simp) ?_
    rintro ⟨suffix, found, -, hfound, -⟩
    obtain ⟨hfree, hne⟩ := unbracketed_of_readZone hfound
    exact hzone ⟨hne, hfree.2⟩

/-- What is read from an offset and a zone is in the zone, at the instant of the offset. -/
theorem isAt_of_readZoned {seconds : Int} (hmoment : readMoment date = .ok moment)
    (isOffset : IsOffset true seconds offset.toList)
    (h : readZoned zones (date ++ offset ++ "[" ++ zone ++ "]") = .ok zoned) :
    ∃ found, readZone zones zone = .ok found ∧ zoned.IsAt found (moment.micros - seconds * 1000000) := by
  obtain ⟨suffix, found, hsuffix, hfound, hmoved⟩ := (readZoned_offset_zone_eq_ok_iff hmoment isOffset).1 h
  obtain rfl := checkOffset_eq_ok_iff.1 hsuffix
  exact ⟨found, hfound, (Zoned.toZone?_eq_some_iff.1 hmoved).2⟩

/-- Where the zone shows the instant of the offset, both are read. -/
theorem exists_readZoned {seconds : Int} (hmoment : readMoment date = .ok moment)
    (isOffset : IsOffset true seconds offset.toList) (hsuffix : checkOffset seconds = .ok suffix)
    (hfound : readZone zones zone = .ok found) (hshows : found.Shows (moment.seconds - seconds)) :
    ∃ zoned, readZoned zones (date ++ offset ++ "[" ++ zone ++ "]") = .ok zoned := by
  obtain rfl := checkOffset_eq_ok_iff.1 hsuffix
  obtain ⟨zoned, hmoved⟩ := Zoned.exists_toZone?_iff.2 hshows
  exact ⟨zoned, (readZoned_offset_zone_eq_ok_iff hmoment isOffset).2 ⟨suffix, found, hsuffix, hfound, hmoved⟩⟩

/-- Where the zone does not show the instant of the offset, the text is refused. -/
theorem readZoned_outside {seconds : Int} (hmoment : readMoment date = .ok moment)
    (isOffset : IsOffset true seconds offset.toList) (hsuffix : checkOffset seconds = .ok suffix)
    (hfound : readZone zones zone = .ok found) (hshows : ¬ found.Shows (moment.seconds - seconds)) :
    readZoned zones (date ++ offset ++ "[" ++ zone ++ "]") = .error (.refused .outsideCalendar) := by
  obtain ⟨hfree, hne⟩ := unbracketed_of_readZone hfound
  obtain rfl := checkOffset_eq_ok_iff.1 hsuffix
  have hmoved : (Zoned.ofLocal moment (.fixed suffix)).toZone? found = none := by
    rw [Option.eq_none_iff_forall_ne_some]
    exact fun zoned hzoned => hshows (Zoned.exists_toZone?_iff.1 ⟨zoned, hzoned⟩)
  rw [readZoned_offset_zone hmoment isOffset ⟨hne, hfree.2⟩, hsuffix, hfound]
  simp only [Except.mapError, Except.bind, hmoved, Option.elim_none]

end Reading

end Lookup.Time

namespace Lookup.Registry

open Time

variable {ε : Type} {registry : Registry ε} {text date offset : String} {moment : Moment} {seconds : Int}

theorem convert_zoneId_iff {found : Zone} :
    registry.convert (.tag .zoneId) text = .ok (.zone found) ↔ readZone registry.zones text = .ok found := by
  rw [convert_tag_eq_ok_iff, Tag.read]
  cases readZone registry.zones text <;> simp [Except.map]

/-- A date-time whose offset is read has an offset of less than a day. -/
theorem exists_checkOffset_of_convert {value : Value} (hmoment : readMoment date = .ok moment)
    (isOffset : IsOffset true seconds offset.toList)
    (h : registry.convert (.tag .zonedDatetime) (date ++ offset) = .ok value) :
    ∃ suffix, checkOffset seconds = .ok suffix := by
  obtain ⟨zoned, hzoned, -⟩ := convert_zonedDatetime_eq_ok_iff.1 h
  rw [readZoned_offset hmoment isOffset] at hzoned
  cases hsuffix : checkOffset seconds with
  | error reason =>
    rw [hsuffix] at hzoned
    cases hzoned
  | ok suffix => exact ⟨suffix, rfl⟩

/-- A zone in brackets does not change the instant that a date-time has by its offset. -/
theorem convert_offset_zone (hdate : registry.convert (.tag .datetime) date = .ok (.moment moment))
    (isOffset : IsOffset true seconds offset.toList) :
    -- Where there is a result, the zone is the one of the brackets and the instant the one of the offset.
    (∀ zone value, registry.convert (.tag .zonedDatetime) (date ++ offset ++ "[" ++ zone ++ "]") = .ok value →
      ∃ found zoned, registry.convert (.tag .zoneId) zone = .ok (.zone found) ∧ value = .zoned zoned ∧
        zoned.IsAt found (moment.micros - seconds * 1000000)) ∧
    (∀ zone zone' zoned zoned',
      registry.convert (.tag .zonedDatetime) (date ++ offset ++ "[" ++ zone ++ "]") = .ok (.zoned zoned) →
      registry.convert (.tag .zonedDatetime) (date ++ offset ++ "[" ++ zone' ++ "]") = .ok (.zoned zoned') →
        zoned.instant = zoned'.instant) ∧
    -- There is a result where the zone shows the instant, and otherwise the text is refused.
    (∀ zone found value, registry.convert (.tag .zonedDatetime) (date ++ offset) = .ok value →
      registry.convert (.tag .zoneId) zone = .ok (.zone found) →
        (found.Shows (moment.seconds - seconds) → ∃ zoned,
          registry.convert (.tag .zonedDatetime) (date ++ offset ++ "[" ++ zone ++ "]") = .ok (.zoned zoned)) ∧
        (¬ found.Shows (moment.seconds - seconds) →
          registry.Refuses .zonedDatetime (date ++ offset ++ "[" ++ zone ++ "]"))) ∧
    -- Without an offset the zone is attached to the date-time.
    (∀ zone value, registry.convert (.tag .zonedDatetime) (date ++ "[" ++ zone ++ "]") = .ok value ↔
      ∃ found localOffset, registry.convert (.tag .zoneId) zone = .ok (.zone found) ∧
        found.HasLocalOffset moment.seconds localOffset ∧ value = .zoned ⟨moment, found, localOffset⟩) := by
  have hmoment := registry.convert_moment_iff.1 hdate
  simp only [convert_zoned_iff, convert_zoneId_iff, refuses_zoned_iff, Zone.hasLocalOffset_iff]
  refine ⟨fun zone value hvalue => ?_, fun zone zone' zoned zoned' hzoned hzoned' => ?_,
    fun zone found value hvalue hfound => ?_, fun zone value => ?_⟩
  · obtain ⟨zoned, hzoned, rfl⟩ := convert_zonedDatetime_eq_ok_iff.1 hvalue
    obtain ⟨found, hfound, isAt⟩ := isAt_of_readZoned hmoment isOffset hzoned
    exact ⟨found, zoned, hfound, rfl, isAt⟩
  · obtain ⟨_, -, isAt⟩ := isAt_of_readZoned hmoment isOffset hzoned
    obtain ⟨_, -, isAt'⟩ := isAt_of_readZoned hmoment isOffset hzoned'
    exact isAt.instant_eq.trans isAt'.instant_eq.symm
  · obtain ⟨suffix, hsuffix⟩ := exists_checkOffset_of_convert hmoment isOffset hvalue
    exact ⟨exists_readZoned hmoment isOffset hsuffix hfound,
      fun hshows => ⟨_, readZoned_outside hmoment isOffset hsuffix hfound hshows⟩⟩
  · rw [convert_zonedDatetime_eq_ok_iff]
    constructor
    · rintro ⟨zoned, hzoned, rfl⟩
      obtain ⟨found, hfound, rfl⟩ := (readZoned_zone_eq_ok_iff hmoment).1 hzoned
      exact ⟨found, _, hfound, rfl, rfl⟩
    · rintro ⟨found, _, hfound, rfl, rfl⟩
      exact ⟨_, (readZoned_zone_eq_ok_iff hmoment).2 ⟨found, hfound, rfl⟩, rfl⟩

/-- The last evening of the leap day in New York is already in March an hour east of Greenwich. -/
theorem convert_offset_zone_leapDay : ∃ (moment : Moment) (found : Zone) (zoned : Zoned),
    (builtin almanac : Registry Empty).convert (.tag .datetime) "2024-03-01T00:30" = .ok (.moment moment) ∧
    IsOffset true 3600 "+01:00".toList ∧
    (builtin almanac : Registry Empty).convert (.tag .zoneId) "America/New_York" = .ok (.zone found) ∧
    (builtin almanac : Registry Empty).convert (.tag .zonedDatetime) "2024-03-01T00:30+01:00[America/New_York]" =
      .ok (.zoned zoned) ∧ zoned.IsAt found (moment.micros - 3600 * 1000000) := by
  obtain ⟨moment, hdate, hseconds⟩ : ∃ moment : Moment,
      (builtin almanac : Registry Empty).convert (.tag .datetime) "2024-03-01T00:30" = .ok (.moment moment) ∧
        moment.seconds = 63844936200 :=
    ⟨⟨⟨2024, 3, 1, by decide, by decide, by decide, by decide, by decide, by decide⟩,
      ⟨0, 30, 0, 0, by decide, by decide, by decide, by decide⟩⟩, rfl, by decide +kernel⟩
  have isHours : IsPadded 2 1 ['0', '1'] :=
    IsPadded.intro (List.cons_ne_nil _ _) (show ['0', '1'].length = 2 from rfl) (by simp)
  have isMinutes : IsPadded 2 0 ['0', '0'] :=
    IsPadded.intro (List.cons_ne_nil _ _) (show ['0', '0'].length = 2 from rfl) (by simp)
  have isOffset : IsOffset true 3600 "+01:00".toList := .ahead (.minutes isHours isMinutes)
  obtain ⟨hinstant, -, hshown, -⟩ := convert_offset_zone hdate isOffset
  obtain ⟨found, hfound, hshows⟩ : ∃ found,
      (builtin almanac : Registry Empty).convert (.tag .zoneId) "America/New_York" = .ok (.zone found) ∧
        found.Shows (63844936200 - 3600) := ⟨_, rfl, by rw [Zone.shows_iff]; decide +kernel⟩
  obtain ⟨value, hvalue⟩ : ∃ value, (builtin almanac : Registry Empty).convert (.tag .zonedDatetime)
      ("2024-03-01T00:30" ++ "+01:00") = .ok value := ⟨_, rfl⟩
  have hcount : (moment.seconds : Int) = 63844936200 := congrArg Nat.cast hseconds
  rw [← hcount] at hshows
  obtain ⟨zoned, hzoned⟩ := (hshown "America/New_York" found value hvalue hfound).1 hshows
  obtain ⟨found, zoned, hfound, heq, isAt⟩ := hinstant _ _ hzoned
  exact ⟨moment, found, zoned, hdate, isOffset, hfound, hzoned.trans (congrArg _ heq), isAt⟩

end Lookup.Registry
