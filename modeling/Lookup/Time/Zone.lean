import Lookup.Time.Calendar

/-!
# Time zones

A zone is either a fixed offset from UTC or a named region, whose offset changes from one instant to another. What
the offsets of a region are is for a zone database to say: a region is the offset of its clocks as a function of the
instant, and as a function of the time that the clocks show. A local time that the clocks skip, or show twice, has
the offset from before the change.

## Main definitions

* `Offset` — a fixed offset of less than a day
* `Region` — the offsets of a region
* `Zone` — a fixed offset or a region
* `Zoned` — a date-time in a zone
-/

namespace Lookup.Time

/-! ### Fixed offsets -/

/-- The offset of local time from UTC in seconds, less than a day either way. -/
structure Offset where
  seconds : Int
  above : -86400 < seconds
  below : seconds < 86400
  deriving DecidableEq, Repr

/-- The offset of a number of seconds, where it is less than a day. -/
def Offset.of? (seconds : Int) : Option Offset :=
  if h : -86400 < seconds ∧ seconds < 86400 then some ⟨seconds, h.1, h.2⟩ else none

/-- The text of a number of seconds as an offset: sign, hours, minutes, and seconds where there are
any. -/
def offsetText (seconds : Int) : String :=
  let n := seconds.natAbs
  (if seconds < 0 then "-" else "+") ++ Text.padded 2 (n / 3600) ++ ":" ++
    Text.padded 2 (n / 60 % 60) ++ (if n % 60 = 0 then "" else ":" ++ Text.padded 2 (n % 60))

/-- The name of a fixed offset, `UTC` alone where it is zero. -/
def Offset.name (offset : Offset) : String :=
  if offset.seconds = 0 then "UTC" else "UTC" ++ offsetText offset.seconds

/-! ### Regions -/

/-- The offsets of a region from UTC in seconds. -/
structure Region where
  /-- The offset at an instant, given in seconds of UTC. -/
  offsetAt : Int → Int
  /-- The offset at a local time, given in seconds. -/
  localOffset : Int → Int

/-! ### Zones -/

/-- A time zone. -/
inductive Zone where
  /-- A fixed offset. -/
  | fixed (offset : Offset)
  /-- A region, by the name it was asked for. -/
  | region (name : String) (rules : Region)

/-- UTC itself. -/
def Zone.utc : Zone := .fixed ⟨0, by decide, by decide⟩

/-- Whether a zone is UTC itself. No region is, whatever its offsets are. -/
def Zone.isUtc : Zone → Bool
  | .fixed offset => offset.seconds == 0
  | .region _ _ => false

/-- The name of a zone. -/
def Zone.text : Zone → String
  | .fixed offset => offset.name
  | .region name _ => name

/-- The offset of a zone at an instant, given in seconds of UTC. -/
def Zone.offsetAt : Zone → Int → Int
  | .fixed offset, _ => offset.seconds
  | .region _ rules, instant => rules.offsetAt instant

/-- The offset of a zone at a local time, given in seconds. -/
def Zone.localOffset : Zone → Int → Int
  | .fixed offset, _ => offset.seconds
  | .region _ rules, time => rules.localOffset time

/-! ### Date-times in a zone -/

/-- A local date and time in a zone, with the offset that the zone has there. -/
structure Zoned where
  moment : Moment
  zone : Zone
  offset : Int

/-- A local time placed in a zone, its fields kept. -/
def Zoned.ofLocal (moment : Moment) (zone : Zone) : Zoned :=
  ⟨moment, zone, zone.localOffset moment.seconds⟩

/-- The same instant in another zone; none where UTC or the new local time falls outside the years 1
to 9999. A time that is in UTC already stays as it is. -/
def Zoned.toZone? (time : Zoned) (zone : Zone) : Option Zoned :=
  if time.zone.isUtc && zone.isUtc then some time
  else
    (time.moment.shift? (-time.offset)).bind fun utc =>
      let offset := zone.offsetAt utc.seconds
      (utc.shift? offset).map fun moment => ⟨moment, zone, offset⟩

/-- The text of a date-time with its offset, with a separator between date and time. -/
def Zoned.text (separator : String) (time : Zoned) : String :=
  time.moment.text separator ++ offsetText time.offset

end Lookup.Time
