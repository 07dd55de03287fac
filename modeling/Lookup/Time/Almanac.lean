import Lookup.Text.Basic
import Lookup.Time.ZoneDatabase

/-!
# An almanac of zones

A zone database of a few regions. A region is described by its standard offset, by the yearly rule that moves it to
summer time and back as it has stood since 2007 (in St John's since 2012), and by the local mean time before it had a
standard. It says nothing about the changes of these rules before.

## Main definitions

* `Rules` — the rules of a region, with `Rules.offsetAt` and `Rules.localOffset`
* `regions` — the known regions
* `almanac` — the zone database of the known regions
-/

namespace Lookup.Time

/-- Which Sunday of a month. -/
inductive Sunday where
  /-- The first, second, … counted from 1. -/
  | nth (n : Nat)
  /-- The last of a month of thirty-one days. -/
  | last
  deriving DecidableEq, Repr

/-- A yearly change of the clocks: the day, the time of day in seconds, and whether that time is
UTC rather than the time the clocks show before the change. -/
structure Turn where
  month : Nat
  sunday : Sunday
  time : Int
  inUtc : Bool
  deriving DecidableEq, Repr

/-- The number of the day of a change in a year. -/
def Turn.day (turn : Turn) (year : Nat) : Nat :=
  let first := daysBeforeYear year + daysBeforeMonth year turn.month + 1
  let sunday := first + (6 - weekday first)
  match turn.sunday with
  | .nth n => sunday + 7 * (n - 1)
  | .last => if sunday + 28 < first + 31 then sunday + 28 else sunday + 21

/-- The instant of a change in a year, when the offset before it is known. -/
def Turn.instant (turn : Turn) (year : Nat) (offsetBefore : Int) : Int :=
  turn.day year * 86400 + turn.time - (if turn.inUtc then 0 else offsetBefore)

/-- Summer time: its offset, which is ahead of standard time, and the changes to and from it. -/
structure Summer where
  offset : Int
  starts : Turn
  ends : Turn
  deriving DecidableEq, Repr

/-- The rules of a region. -/
structure Rules where
  /-- The names of the region. -/
  names : List String
  /-- The offset of standard time. -/
  standard : Int
  /-- Summer time, where it is kept. -/
  summer : Option Summer
  /-- The instant at which standard time came in, and the offset of local time before. -/
  early : Option (Int × Int)
  deriving DecidableEq, Repr

/-- The year of an instant. -/
def yearOf (instant : Int) : Nat := (yearOfDay ((instant / 86400).toNat - 1)).1

/-- Whether summer time is kept at an instant. -/
def Summer.holds (summer : Summer) (standard instant : Int) : Bool :=
  let year := yearOf instant
  let start := summer.starts.instant year standard
  let stop := summer.ends.instant year summer.offset
  if start < stop then start ≤ instant && instant < stop
  else !(stop ≤ instant && instant < start)

/-- The offset by the rules at an instant, ignoring the time before standard time. -/
def Rules.ruleAt (rules : Rules) (instant : Int) : Int :=
  match rules.summer with
  | some summer => if summer.holds rules.standard instant then summer.offset else rules.standard
  | none => rules.standard

/-- The offset by the rules at an instant, given in seconds of UTC. -/
def Rules.offsetAt (rules : Rules) (instant : Int) : Int :=
  match rules.early with
  | some (began, offset) => if instant < began then offset else rules.ruleAt instant
  | none => rules.ruleAt instant

/-- The offset by the rules at a local time, given in seconds. Both changes of a year are passed when
the local time has passed them as clocks on summer time show them. -/
def Rules.localOffset (rules : Rules) (time : Int) : Int :=
  let rule :=
    match rules.summer with
    -- A skipped or repeated time is still before the change on clocks of summer time.
    | some summer => rules.ruleAt (time - summer.offset)
    | none => rules.standard
  match rules.early with
  | some (began, offset) => if time < began + max offset rules.standard then offset else rule
  | none => rule

/-- The region that keeps the rules. -/
def Rules.region (rules : Rules) : Region := ⟨rules.offsetAt, rules.localOffset⟩

/-- An instant of UTC from a date and the seconds of its day; day 1 of year 1 where the date is
unreal. -/
def instantOf (year month day seconds : Nat) : Int :=
  match Date.of year month day with
  | .ok date => (date.ordinal * 86400 + seconds : Nat)
  | .error _ => 86400

/-- The changes of the clocks in Europe: the last Sundays of March and October, at 01:00 UTC. -/
def europeanSummer (offset : Int) : Summer :=
  ⟨offset, ⟨3, .last, 3600, true⟩, ⟨10, .last, 3600, true⟩⟩

/-- The changes of the clocks in North America: the second Sunday of March and the first of
November, at two o'clock. -/
def americanSummer (offset : Int) : Summer :=
  ⟨offset, ⟨3, .nth 2, 7200, false⟩, ⟨11, .nth 1, 7200, false⟩⟩

/-- The changes of the clocks in Australia: the first Sundays of October, at two o'clock, and of
April. -/
def australianSummer (offset endsAt : Int) : Summer :=
  ⟨offset, ⟨10, .nth 1, 7200, false⟩, ⟨4, .nth 1, endsAt, false⟩⟩

/-- A region of one offset. -/
def Rules.constant (names : List String) (standard : Int) : Rules := ⟨names, standard, none, none⟩

/-- The regions that keep an offset of whole hours, named with the sign turned over. -/
def wholeHours : List Rules :=
  (List.range 13).map (fun n =>
    Rules.constant ["Etc/GMT+" ++ String.ofList (Nat.toDigits 10 n)] (-3600 * (n : Int))) ++
  (List.range 15).map fun n =>
    Rules.constant ["Etc/GMT-" ++ String.ofList (Nat.toDigits 10 n)] (3600 * (n : Int))

/-- The known regions. -/
def regions : List Rules :=
  [.constant ["Etc/UTC", "Etc/UCT", "Etc/Universal", "Etc/Zulu", "UCT", "Universal", "Zulu"] 0,
   .constant ["Etc/GMT", "Etc/GMT0", "Etc/Greenwich", "GMT+0", "GMT-0", "GMT0", "Greenwich"] 0,
   .constant ["Factory"] 0,
   .constant ["EST", "America/Panama"] (-18000),
   .constant ["MST", "America/Phoenix"] (-25200),
   .constant ["HST", "Pacific/Honolulu"] (-36000),
   .constant ["America/Argentina/Buenos_Aires", "America/Buenos_Aires"] (-10800),
   ⟨["Asia/Kolkata", "Asia/Calcutta"], 19800, none,
     some (instantOf 1854 6 27 65192, 21208)⟩,
   ⟨["Asia/Kathmandu", "Asia/Katmandu"], 20700, none,
     some (instantOf 1919 12 31 65924, 20476)⟩,
   ⟨["Asia/Tokyo", "Japan"], 32400, none, some (instantOf 1887 12 31 54000, 33539)⟩,
   ⟨["Europe/Paris"], 3600, some (europeanSummer 7200),
     some (instantOf 1911 3 10 85839, 561)⟩,
   ⟨["Europe/Brussels", "CET", "MET"], 3600, some (europeanSummer 7200), none⟩,
   ⟨["Europe/London", "GB"], 0, some (europeanSummer 3600), some (instantOf 1847 12 1 75, -75)⟩,
   ⟨["Antarctica/Troll"], 0, some (europeanSummer 7200), none⟩,
   ⟨["America/New_York", "US/Eastern", "EST5EDT"], -18000, some (americanSummer (-14400)),
     some (instantOf 1883 11 18 61200, -17762)⟩,
   ⟨["America/Indiana/Indianapolis", "America/Indianapolis", "US/East-Indiana"], -18000,
     some (americanSummer (-14400)), some (instantOf 1883 11 18 64800, -20678)⟩,
   ⟨["America/St_Johns", "Canada/Newfoundland"], -12600, some (americanSummer (-9000)),
     some (instantOf 1884 1 1 12652, -12652)⟩,
   ⟨["Australia/Sydney", "Australia/NSW"], 36000, some (australianSummer 39600 10800),
     some (instantOf 1895 1 31 50108, 36292)⟩,
   ⟨["Australia/Lord_Howe", "Australia/LHI"], 37800, some (australianSummer 39600 7200),
     some (instantOf 1895 1 31 48220, 38180)⟩] ++
  wholeHours

/-- The rules of the region of a name. Names are told apart by letter case. -/
def Rules.find? (name : String) : Option Rules :=
  regions.find? fun rules => rules.names.contains name

/-- The names under which the zone database groups regions, and which name no region themselves. -/
def regionGroups : List String :=
  ["Africa", "America", "America/Argentina", "America/Indiana", "America/Kentucky",
   "America/North_Dakota", "Antarctica", "Arctic", "Asia", "Atlantic", "Australia", "Brazil",
   "Canada", "Chile", "Etc", "Europe", "Indian", "Mexico", "Pacific", "US"]

/-- What the almanac answers to a key. -/
def lookUpRegion (key : String) : Except ZoneError (Option Region) :=
  match Rules.find? key with
  | some rules => .ok (some rules.region)
  | none =>
    let components := Text.split '/' key
    let group := String.intercalate "/" components.dropLast
    let name := components.getLast?.getD ""
    let known := group = "" ∨ regionGroups.contains group
    if regionGroups.contains key then .error (.storage .isDirectory)
    else if known ∧ name.toList.contains '\x00' then .error (.refused .nulInZone)
    else if known ∧ 255 < name.utf8ByteSize then .error (.storage .nameTooLong)
    else .ok none

theorem isKeyChar_names :
    ∀ rules ∈ regions, ∀ name ∈ rules.names, ∀ c ∈ name.toList, isKeyChar c = true := by
  have hall : (regions.all fun rules => rules.names.all fun name => name.toList.all isKeyChar) = true := by
    decide +kernel
  simpa only [List.all_eq_true] using hall

/-- The zone database of the known regions. -/
def almanac : ZoneDatabase where
  find := lookUpRegion
  isKeyChar_of_find := by
    intro key region h
    unfold lookUpRegion at h
    split at h
    · next rules hrules =>
      have hname := List.find?_some hrules
      exact isKeyChar_names rules (List.mem_of_find?_eq_some hrules) key (List.contains_iff_mem.1 hname)
    · -- Any other key is refused, or no region has it.
      dsimp only at h
      split at h
      · cases h
      · split at h
        · cases h
        · split at h <;> cases h

end Lookup.Time
