import Lookup.Files.Errno
import Lookup.Time.Zone
import Lookup.Value.Reason

/-!
# The zone database

Which regions there are, and what their offsets are, is kept by the zone database of the system. It is asked for the
key of a region, which is made of letters, digits and a few signs.

## Main definitions

* `ZoneError` — why a zone could not be read
* `ZoneDatabase` — the answers of a zone database
-/

namespace Lookup.Time

/-- Why a zone could not be read: the text is refused, or the zone database failed. -/
inductive ZoneError where
  /-- The text names no zone. -/
  | refused (reason : Reason)
  /-- The zone database reported an error of the system. -/
  | storage (errno : Files.Errno)
  deriving DecidableEq, Repr

/-- Whether a character may stand in the key of a region. -/
def isKeyChar (c : Char) : Bool := c.isAlphanum || ['+', '-', '.', '/', '_'].contains c

/-- A zone database, by its answers. -/
structure ZoneDatabase where
  /-- The region of a key, `none` where there is no such region. A database may also refuse a key, or fail. -/
  find : String → Except ZoneError (Option Region)
  /-- Other characters do not occur in the keys of regions. -/
  isKeyChar_of_find : ∀ {key region}, find key = .ok (some region) → ∀ c ∈ key.toList, isKeyChar c = true

end Lookup.Time
