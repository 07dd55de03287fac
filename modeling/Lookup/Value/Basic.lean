import Lookup.Number.Shortest
import Lookup.Time.Duration
import Lookup.Time.Zone

/-!
# Typed values

## Main definitions

* `Value` — what a text is converted to
* `Value.plain` — the text in which a value is printed
-/

namespace Lookup

/-- A typed value. -/
inductive Value where
  /-- No value, which a converter of the caller's own may yield. -/
  | nothing
  | boolean (value : Bool)
  | integer (value : Int)
  | number (value : Number.Binary)
  | text (value : String)
  | date (value : Time.Date)
  | time (value : Time.Clock)
  | moment (value : Time.Moment)
  | zoned (value : Time.Zoned)
  | duration (value : Time.Duration)
  | zone (value : Time.Zone)
  /-- Several values, which a converter of the caller's own may yield. -/
  | several (values : List Value)

mutual

/-- The text in which a value is printed. -/
def Value.plain : Value → String
  | .nothing => "None"
  | .boolean b => if b then "True" else "False"
  | .integer n => toString n
  | .number x => x.text
  | .text s => s
  | .date d => d.text
  | .time t => t.text
  | .moment m => m.text " "
  | .zoned z => z.text " "
  | .duration d => d.text
  | .zone z => z.text
  | .several values => "[" ++ String.intercalate ", " (Value.plainAll values) ++ "]"

/-- The texts in which several values are printed. -/
def Value.plainAll : List Value → List String
  | [] => []
  | value :: rest => value.plain :: Value.plainAll rest

end

end Lookup
