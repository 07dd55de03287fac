import Mathlib.Order.Monotone.Basic
import Mathlib.Tactic.SplitIfs
import Lookup.Time.Calendar

/-!
# Days and seconds counted through the calendar

A date is found from the number of its day: the year among cycles of four hundred years, centuries and four years,
which have one day more or less than their parts, and the month among the twelve. Finding a date and counting its
days undo each other on the days of the years 1 to 9999, and beyond them there is no date. So a moment moved by
some seconds is the one that counts so many seconds more, and is missing just outside the calendar.

## Main definitions

* `daysInYear` — the days of a year
* `IsDayOfYear` — the month and the day of one of them
* `Moment.InCalendar` — seconds that fall into the years 1 to 9999

## Main results

* `exists_yearOfDay`, `isDayOfYear_monthOfDay` — the year and the month that are found are the right ones
* `Date.of_eq_ok_iff`, `Clock.of_eq_ok_iff` — dates and times of day are known by their fields
* `Date.ofOrdinal?_eq_some_iff` — counting days and finding dates undo each other
* `Moment.shift?_eq_some_iff`, `Moment.exists_shift?_iff` — what moving a moment gives, and how far it goes
-/

namespace Lookup.Time

variable {year month day ordinal : Nat}

/-! ### Years -/

/-- Each fourth year is a leap year, but of those that end a century only each fourth. -/
theorem isLeap_iff : isLeap year = true ↔ 4 ∣ year ∧ (100 ∣ year → 400 ∣ year) := by
  simp only [isLeap, Nat.dvd_iff_mod_eq_zero, Bool.and_eq_true, Bool.or_eq_true, beq_iff_eq, bne_iff_ne, ne_eq,
    imp_iff_not_or]

/-- The number of days in a year. -/
def daysInYear (year : Nat) : Nat := if isLeap year then 366 else 365

/-- Years that have passed without the days of those that end a century. -/
theorem daysBeforeYear_add (past : Nat) :
    daysBeforeYear (past + 1) + past / 100 = past * 365 + past / 4 + past / 400 := by
  simp only [daysBeforeYear, Nat.add_sub_cancel]
  omega

/-- The next year begins when the days of the year are over. -/
theorem daysBeforeYear_succ (h : 1 ≤ year) : daysBeforeYear (year + 1) = daysBeforeYear year + daysInYear year := by
  obtain ⟨past, rfl⟩ : ∃ past, year = past + 1 := ⟨year - 1, by omega⟩
  have hthis := daysBeforeYear_add past
  have hnext := daysBeforeYear_add (past + 1)
  -- The three quotients grow together in a fourth century, all but the last in others, and so on.
  rw [Nat.succ_div, Nat.succ_div, Nat.succ_div] at hnext
  have hcentury : 400 ∣ past + 1 → 100 ∣ past + 1 := Nat.dvd_trans (by decide)
  have hfourth : 100 ∣ past + 1 → 4 ∣ past + 1 := Nat.dvd_trans (by decide)
  simp only [daysInYear, isLeap_iff]
  by_cases h400 : 400 ∣ past + 1
  · simp only [h400, hcentury, hfourth, if_true, implies_true, and_self] at hnext ⊢
    omega
  by_cases h100 : 100 ∣ past + 1
  · simp only [h400, h100, hfourth, if_true, if_false, imp_false, not_true, and_false] at hnext ⊢
    omega
  · simp only [h400, h100, if_false, false_imp_iff, and_true] at hnext ⊢
    split_ifs at hnext ⊢ <;> omega

theorem daysBeforeYear_mono : Monotone daysBeforeYear := by
  apply monotone_nat_of_le_succ
  intro year
  rcases Nat.eq_zero_or_pos year with rfl | hpos
  · exact Nat.zero_le _
  · exact (Nat.le_add_right _ _).trans_eq (daysBeforeYear_succ hpos).symm

section Cycles

variable {cycles centuries quads years : Nat}

/-- The days before a year that is counted by four hundred years, by centuries, by four years and by years. -/
theorem daysBeforeYear_cycles (hcenturies : centuries ≤ 3) (hquads : quads ≤ 24) (hyears : years ≤ 3) :
    daysBeforeYear (cycles * 400 + centuries * 100 + quads * 4 + years + 1) =
      cycles * 146097 + centuries * 36524 + quads * 1461 + years * 365 := by
  have hdays := daysBeforeYear_add (cycles * 400 + centuries * 100 + quads * 4 + years)
  omega

theorem isLeap_cycles (hcenturies : centuries ≤ 3) (hquads : quads ≤ 24) (hyears : years ≤ 3) :
    isLeap (cycles * 400 + centuries * 100 + quads * 4 + years + 1) = true ↔
      years = 3 ∧ (quads = 24 → centuries = 3) := by
  rw [isLeap_iff]
  omega

/-- The year of a day, and how many days of the year come before it. -/
theorem exists_yearOfDay (day : Nat) : ∃ year rest, yearOfDay day = (year, rest) ∧
    1 ≤ year ∧ daysBeforeYear year + rest = day ∧ rest < daysInYear year := by
  refine ⟨_, _, rfl, ?_⟩
  generalize hcycles : day / 146097 = cycles
  generalize hcenturies : min 3 (day % 146097 / 36524) = centuries
  generalize hquads : (day % 146097 - centuries * 36524) / 1461 = quads
  generalize hyears : min 3 ((day % 146097 - centuries * 36524) % 1461 / 365) = years
  have h : centuries ≤ 3 ∧ quads ≤ 24 ∧ years ≤ 3 := by omega
  rw [daysBeforeYear_cycles h.1 h.2.1 h.2.2, daysInYear]
  refine ⟨by omega, by omega, ?_⟩
  -- The last day of a cycle or of four years is one more than the years that are counted in it have.
  simp only [isLeap_cycles h.1 h.2.1 h.2.2]
  split_ifs <;> omega

end Cycles

/-! ### Months -/

theorem daysBeforeMonth_succ (h : 1 ≤ month) :
    daysBeforeMonth year (month + 1) = daysBeforeMonth year month + daysInMonth year month := by
  obtain ⟨past, rfl⟩ : ∃ past, month = past + 1 := ⟨month - 1, by omega⟩
  simp only [daysBeforeMonth, Nat.add_sub_cancel, List.range_succ, List.map_append, List.foldl_append,
    List.map_cons, List.map_nil, List.foldl_cons, List.foldl_nil]

theorem daysBeforeMonth_one (year : Nat) : daysBeforeMonth year 1 = 0 := rfl

/-- Twelve months make a year. -/
theorem daysBeforeMonth_thirteen (year : Nat) : daysBeforeMonth year 13 = daysInYear year := by
  unfold daysBeforeMonth daysInYear daysInMonth
  cases isLeap year <;> rfl

theorem daysBeforeMonth_mono (year : Nat) : Monotone (daysBeforeMonth year) := by
  apply monotone_nat_of_le_succ
  intro month
  rcases Nat.eq_zero_or_pos month with rfl | hpos
  · exact Nat.zero_le _
  · exact (Nat.le_add_right _ _).trans_eq (daysBeforeMonth_succ hpos).symm

theorem daysInMonth_le (year month : Nat) : daysInMonth year month ≤ 31 := by
  unfold daysInMonth
  split
  · split_ifs <;> decide
  all_goals decide

/-- A month and its day, when so many days of the year come before it. -/
structure IsDayOfYear (year before : Nat) (date : Nat × Nat) : Prop where
  month_pos : 1 ≤ date.1
  month_le : date.1 ≤ 12
  day_pos : 1 ≤ date.2
  day_le : date.2 ≤ daysInMonth year date.1
  days_eq : daysBeforeMonth year date.1 + date.2 = before + 1

/-- The day is found among the months that are left, counted from the first of them. -/
theorem isDayOfYear_monthOfDay {count : Nat} (hmonth : 1 ≤ month) (hcount : month + count = 13)
    (hday : daysBeforeMonth year month + day < daysInYear year) :
    IsDayOfYear year (daysBeforeMonth year month + day) (monthOfDay year day (List.range' month count)) := by
  -- The days before the first month that is left and the days left to count stay the day that is looked for.
  induction count generalizing month day with
  | zero =>
    obtain rfl : month = 13 := hcount
    rw [daysBeforeMonth_thirteen] at hday
    omega
  | succ count ih =>
    rw [List.range'_succ, monthOfDay]
    by_cases hlt : day < daysInMonth year month
    · rw [if_pos hlt]
      exact ⟨hmonth, by omega, Nat.succ_pos day, hlt, rfl⟩
    · have hnext : daysBeforeMonth year (month + 1) + (day - daysInMonth year month) =
          daysBeforeMonth year month + day := by
        rw [daysBeforeMonth_succ hmonth]
        omega
      rw [if_neg hlt, ← hnext]
      exact ih (by omega) (by omega) (hnext ▸ hday)

/-! ### Dates -/

namespace Date

variable {date other : Date}

theorem of_eq_ok_iff :
    Date.of year month day = .ok date ↔ date.year = year ∧ date.month = month ∧ date.day = day := by
  constructor
  · intro h
    unfold Date.of at h
    split_ifs at h
    obtain rfl := Except.ok.inj h
    exact ⟨rfl, rfl, rfl⟩
  · rintro ⟨rfl, rfl, rfl⟩
    simp only [Date.of, date.year_pos, date.year_le, date.month_pos, date.month_le, date.day_pos, date.day_le,
      and_self, dif_pos]

theorem ext_fields (hyear : date.year = other.year) (hmonth : date.month = other.month)
    (hday : date.day = other.day) : date = other := by
  cases date
  cases other
  cases hyear
  cases hmonth
  cases hday
  rfl

/-- A date comes behind the months before its own, and no later than the last day of its own. -/
theorem daysBeforeMonth_lt (date : Date) :
    daysBeforeMonth date.year date.month < daysBeforeMonth date.year date.month + date.day ∧
      daysBeforeMonth date.year date.month + date.day ≤ daysBeforeMonth date.year (date.month + 1) := by
  rw [daysBeforeMonth_succ date.month_pos]
  exact ⟨Nat.lt_add_of_pos_right date.day_pos, Nat.add_le_add_left date.day_le _⟩

/-- A date comes behind the years before its own, and no later than the last day of its own. -/
theorem daysBeforeYear_lt_ordinal (date : Date) :
    daysBeforeYear date.year < date.ordinal ∧ date.ordinal ≤ daysBeforeYear (date.year + 1) := by
  have hlast : daysBeforeMonth date.year (date.month + 1) ≤ daysBeforeMonth date.year 13 :=
    daysBeforeMonth_mono date.year (Nat.succ_le_succ date.month_le)
  rw [daysBeforeMonth_thirteen] at hlast
  rw [daysBeforeYear_succ date.year_pos, ordinal, Nat.add_assoc]
  have hmonth := date.daysBeforeMonth_lt
  omega

/-- A number is passed by a count that never falls between two neighbours at most. -/
theorem eq_of_between {count : Nat → Nat} (hmono : Monotone count) {a b n : Nat}
    (ha : count a < n ∧ n ≤ count (a + 1)) (hb : count b < n ∧ n ≤ count (b + 1)) : a = b := by
  rcases Nat.lt_trichotomy a b with h | h | h
  · exact absurd (ha.2.trans (hmono h)) (Nat.not_le.2 hb.1)
  · exact h
  · exact absurd (hb.2.trans (hmono h)) (Nat.not_le.2 ha.1)

/-- Different dates are different days. -/
theorem ordinal_inj (h : date.ordinal = other.ordinal) : date = other := by
  -- The day falls into one year only, and there into one month.
  have hyear : date.year = other.year := by
    apply eq_of_between daysBeforeYear_mono date.daysBeforeYear_lt_ordinal
    rw [h]
    exact other.daysBeforeYear_lt_ordinal
  have hrest : daysBeforeMonth date.year date.month + date.day =
      daysBeforeMonth date.year other.month + other.day := by
    rw [ordinal, ordinal, ← hyear, Nat.add_assoc, Nat.add_assoc] at h
    exact Nat.add_left_cancel h
  have hmonth : date.month = other.month := by
    apply eq_of_between (daysBeforeMonth_mono date.year) date.daysBeforeMonth_lt
    rw [hrest, hyear]
    exact other.daysBeforeMonth_lt
  rw [hmonth] at hrest
  exact ext_fields hyear hmonth (Nat.add_left_cancel hrest)

/-- The first day of the calendar. -/
def first : Date := ⟨1, 1, 1, by decide, by decide, by decide, by decide, by decide, by decide⟩

/-- The last day of the calendar. -/
def last : Date := ⟨9999, 12, 31, by decide, by decide, by decide, by decide, by decide, by decide⟩

theorem ordinal_first : first.ordinal = 1 := rfl

/-- The day of the year that is counted from 0 is in the calendar if the year is. -/
theorem year_le_iff {day : Nat} (hpos : 1 ≤ year) (hday : day < daysInYear year) :
    year ≤ 9999 ↔ daysBeforeYear year + day < last.ordinal := by
  have hlast : daysBeforeYear 10000 = last.ordinal := rfl
  have hnext := daysBeforeYear_succ hpos
  constructor
  · intro hle
    have hmono : daysBeforeYear (year + 1) ≤ daysBeforeYear 10000 := daysBeforeYear_mono (Nat.succ_le_succ hle)
    omega
  · intro hlt
    by_contra hgreat
    have hmono : daysBeforeYear 10000 ≤ daysBeforeYear year := daysBeforeYear_mono (Nat.not_le.1 hgreat)
    omega

theorem ordinal_mem (date : Date) : first.ordinal ≤ date.ordinal ∧ date.ordinal ≤ last.ordinal := by
  have hyear := date.daysBeforeYear_lt_ordinal
  have hmono : daysBeforeYear (date.year + 1) ≤ last.ordinal := daysBeforeYear_mono (Nat.succ_le_succ date.year_le)
  rw [ordinal_first]
  omega

/-- The date of a year's day, counted from 0, has the month and the day that are found among the months. -/
theorem exists_monthOfDay {day : Nat} (year_pos : 1 ≤ year) (year_le : year ≤ 9999)
    (hday : day < daysInYear year) :
    ∃ date : Date, date.year = year ∧
      monthOfDay year day [1, 2, 3, 4, 5, 6, 7, 8, 9, 10, 11, 12] = (date.month, date.day) ∧
        date.ordinal = daysBeforeYear year + day + 1 := by
  have hmonths : [1, 2, 3, 4, 5, 6, 7, 8, 9, 10, 11, 12] = List.range' 1 12 := rfl
  rw [← Nat.zero_add day, ← daysBeforeMonth_one year] at hday
  have hmonth := isDayOfYear_monthOfDay le_rfl (show 1 + 12 = 13 from rfl) hday
  rw [daysBeforeMonth_one, Nat.zero_add, ← hmonths] at hmonth
  refine ⟨⟨year, _, _, year_pos, year_le, hmonth.month_pos, hmonth.month_le, hmonth.day_pos, hmonth.day_le⟩,
    rfl, rfl, ?_⟩
  rw [ordinal, Nat.add_assoc, hmonth.days_eq, Nat.add_assoc]

theorem ofOrdinal?_of_pos {day : Nat} (hpos : 1 ≤ ordinal) (hyear : yearOfDay (ordinal - 1) = (year, day)) :
    Date.ofOrdinal? ordinal =
      let found := monthOfDay year day [1, 2, 3, 4, 5, 6, 7, 8, 9, 10, 11, 12]
      (Date.of year found.1 found.2).toOption := by
  rw [ofOrdinal?, if_neg (Nat.ne_of_gt hpos), hyear]

/-- Each day between the first and the last has a date. -/
theorem exists_ofOrdinal? (hfirst : first.ordinal ≤ ordinal) (hlast : ordinal ≤ last.ordinal) :
    ∃ date, Date.ofOrdinal? ordinal = some date ∧ date.ordinal = ordinal := by
  rw [ordinal_first] at hfirst
  obtain ⟨year, day, hfound, year_pos, hyear, hday⟩ := exists_yearOfDay (ordinal - 1)
  have year_le : year ≤ 9999 := by
    rw [year_le_iff year_pos hday]
    omega
  obtain ⟨date, rfl, hmonth, hordinal⟩ := exists_monthOfDay year_pos year_le hday
  have hdate : Date.of date.year date.month date.day = .ok date := of_eq_ok_iff.2 ⟨rfl, rfl, rfl⟩
  refine ⟨date, ?_, by omega⟩
  rw [ofOrdinal?_of_pos hfirst hfound, hmonth]
  simp only [hdate, Except.toOption]

/-- Outside of the calendar no day has a date. -/
theorem ofOrdinal?_of_not_mem (h : ¬ (first.ordinal ≤ ordinal ∧ ordinal ≤ last.ordinal)) :
    Date.ofOrdinal? ordinal = none := by
  rw [ordinal_first] at h
  rcases Nat.eq_zero_or_pos ordinal with rfl | hpos
  · rfl
  obtain ⟨year, day, hfound, year_pos, hyear, hday⟩ := exists_yearOfDay (ordinal - 1)
  -- The year that is found lies behind the last, and is refused with the date.
  have hgreat : ¬ (1 ≤ year ∧ year ≤ 9999) := by
    rw [year_le_iff year_pos hday]
    omega
  simp only [ofOrdinal?_of_pos hpos hfound, Date.of, dif_neg hgreat]
  rfl

/-- Counting days and finding their dates undo each other. -/
theorem ofOrdinal?_eq_some_iff : Date.ofOrdinal? ordinal = some date ↔ date.ordinal = ordinal := by
  constructor
  · intro h
    by_cases hmem : first.ordinal ≤ ordinal ∧ ordinal ≤ last.ordinal
    · obtain ⟨found, hfound, hordinal⟩ := exists_ofOrdinal? hmem.1 hmem.2
      rw [h] at hfound
      rwa [Option.some.inj hfound]
    · rw [ofOrdinal?_of_not_mem hmem] at h
      cases h
  · rintro rfl
    obtain ⟨found, hfound, hordinal⟩ := exists_ofOrdinal? date.ordinal_mem.1 date.ordinal_mem.2
    rw [hfound, ordinal_inj hordinal]

end Date

/-! ### Times of day -/

namespace Clock

variable {clock other : Clock} {hour minute second micro : Nat}

theorem of_eq_ok_iff (hmicro : micro < 1000000) :
    Clock.of hour minute second micro hmicro = .ok clock ↔
      clock.hour = hour ∧ clock.minute = minute ∧ clock.second = second ∧ clock.micro = micro := by
  constructor
  · intro h
    unfold Clock.of at h
    split_ifs at h
    obtain rfl := Except.ok.inj h
    exact ⟨rfl, rfl, rfl, rfl⟩
  · rintro ⟨rfl, rfl, rfl, rfl⟩
    simp only [Clock.of, clock.hour_lt, clock.minute_lt, clock.second_lt, dif_pos]

theorem seconds_lt (clock : Clock) : clock.seconds < 86400 := by
  have hhour := clock.hour_lt
  have hminute := clock.minute_lt
  have hsecond := clock.second_lt
  rw [seconds]
  omega

theorem seconds_withSeconds (clock : Clock) {seconds : Nat} (h : seconds < 86400) :
    (clock.withSeconds seconds).seconds = seconds := by
  have hhour : (clock.withSeconds seconds).hour = seconds / 3600 % 24 := rfl
  have hminute : (clock.withSeconds seconds).minute = seconds / 60 % 60 := rfl
  have hsecond : (clock.withSeconds seconds).second = seconds % 60 := rfl
  rw [Clock.seconds, hhour, hminute, hsecond]
  omega

/-- A time of day is known from its seconds and its microseconds. -/
theorem seconds_inj (h : clock.seconds = other.seconds) (hmicro : clock.micro = other.micro) : clock = other := by
  have hminute := clock.minute_lt
  have hsecond := clock.second_lt
  have hminute' := other.minute_lt
  have hsecond' := other.second_lt
  rw [seconds, seconds] at h
  obtain ⟨hh, hm, hs⟩ :
      clock.hour = other.hour ∧ clock.minute = other.minute ∧ clock.second = other.second := by omega
  cases clock
  cases other
  cases hh
  cases hm
  cases hs
  cases hmicro
  rfl

end Clock

/-! ### Moments -/

namespace Moment

variable {moment other : Moment} {seconds : Int}

theorem seconds_inj (h : moment.seconds = other.seconds) (hmicro : moment.clock.micro = other.clock.micro) :
    moment = other := by
  have hclock := moment.clock.seconds_lt
  have hclock' := other.clock.seconds_lt
  rw [seconds, seconds] at h
  have hdate : moment.date = other.date := Date.ordinal_inj (by omega)
  have hclock : moment.clock = other.clock := Clock.seconds_inj (by omega) hmicro
  cases moment
  cases other
  cases hdate
  cases hclock
  rfl

/-- Seconds that fall into a day of the calendar. -/
def InCalendar (seconds : Int) : Prop :=
  Date.first.ordinal ≤ seconds / 86400 ∧ seconds / 86400 ≤ Date.last.ordinal

instance (seconds : Int) : Decidable (InCalendar seconds) := instDecidableAnd

theorem inCalendar (moment : Moment) : InCalendar moment.seconds := by
  have hdate := moment.date.ordinal_mem
  have hclock := moment.clock.seconds_lt
  rw [InCalendar, seconds]
  omega

theorem seconds_mk_withSeconds (date : Date) (clock : Clock) {seconds : Nat} (h : seconds < 86400) :
    (Moment.mk date (clock.withSeconds seconds)).seconds = date.ordinal * 86400 + seconds := by
  rw [Moment.seconds, Clock.seconds_withSeconds clock h]

/-- Moving a moment moves its seconds and keeps its microseconds. -/
theorem shift?_eq_some_iff :
    moment.shift? seconds = some other ↔
      (other.seconds : Int) = moment.seconds + seconds ∧ other.clock.micro = moment.clock.micro := by
  unfold shift?
  dsimp only
  generalize htotal : (moment.seconds : Int) + seconds = total
  by_cases hneg : total < 0
  · rw [if_pos hneg]
    exact iff_of_false (by simp) fun h => by omega
  rw [if_neg hneg, Option.map_eq_some_iff]
  have hlt : total.toNat % 86400 < 86400 := Nat.mod_lt _ (by decide)
  constructor
  · rintro ⟨date, hdate, rfl⟩
    rw [Date.ofOrdinal?_eq_some_iff] at hdate
    rw [seconds_mk_withSeconds date moment.clock hlt, hdate]
    exact ⟨by omega, rfl⟩
  · rintro ⟨hseconds, hmicro⟩
    have hclock := other.clock.seconds_lt
    rw [Moment.seconds] at hseconds
    refine ⟨other.date, Date.ofOrdinal?_eq_some_iff.2 (by omega), seconds_inj ?_ hmicro.symm⟩
    rw [seconds_mk_withSeconds other.date moment.clock hlt, Moment.seconds]
    omega

theorem shift?_zero (moment : Moment) : moment.shift? 0 = some moment :=
  shift?_eq_some_iff.2 ⟨(Int.add_zero _).symm, rfl⟩

theorem seconds_of_shift?_neg (h : moment.shift? (-seconds) = some other) :
    (other.seconds : Int) = moment.seconds - seconds :=
  (shift?_eq_some_iff.1 h).1

/-- A moment can be moved as far as the calendar goes. -/
theorem exists_shift?_iff :
    (∃ other, moment.shift? seconds = some other) ↔ InCalendar (moment.seconds + seconds) := by
  constructor
  · rintro ⟨other, h⟩
    rw [← (shift?_eq_some_iff.1 h).1]
    exact other.inCalendar
  · intro h
    rw [InCalendar] at h
    generalize htotal : (moment.seconds : Int) + seconds = total at h
    have hpos := Date.ordinal_first
    have hlt : total.toNat % 86400 < 86400 := Nat.mod_lt _ (by decide)
    obtain ⟨date, -, hordinal⟩ := @Date.exists_ofOrdinal? (total.toNat / 86400) (by omega) (by omega)
    refine ⟨⟨date, moment.clock.withSeconds (total.toNat % 86400)⟩, shift?_eq_some_iff.2 ⟨?_, rfl⟩⟩
    rw [seconds_mk_withSeconds date moment.clock hlt, hordinal, htotal]
    omega

end Moment

end Lookup.Time
