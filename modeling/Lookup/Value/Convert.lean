import Lookup.Number.Decimal
import Lookup.Text.Blank
import Lookup.Value.Basic
import Lookup.Value.Tag

/-!
# Converting texts to values

Each built-in tag has a converter from texts to values. A registry extends them by converters for
other keys. Keys are compared after normalising, so that no further converter can replace a built-in
one or another further one.

## Main definitions

* `Converter` — a converter, and `Refusal`, why it yields no value
* `Tag.read` — the built-in converters
* `Registry`, `Registry.build` — the built-in converters with further ones
* `Registry.convert` — the value of a text as a type
-/

namespace Lookup

open Number Time

/-- Why a converter yields no value. `ε` is the type of errors that belong to the caller. -/
inductive Refusal (ε : Type) where
  /-- The text is refused. -/
  | refused (reason : Reason)
  /-- The zone database reported an error of the system. -/
  | storage (errno : Files.Errno)
  /-- The converter failed with an error of the caller's own. -/
  | foreign (error : ε)

/-- A converter from texts to values. -/
abbrev Converter (ε : Type) := String → Except (Refusal ε) Value

/-! ### The built-in converters -/

/-- Whether a text is the word true, in any letter case. -/
def readBoolean (text : String) : Bool := Text.lowerString text = "true"

/-- A whole number that fits into a number of bits, one of them the sign. -/
def readInteger (bits : Nat) (text : String) : Except Reason Int :=
  let (negative, digits) := takeSign text.toList
  if digits = [] ∨ !digits.all isDigit then .error (.notInteger text)
  else if digitLimit < digits.length then .error (.tooManyDigits digits.length)
  else
    let n := digitsValue 0 digits
    let value : Int := if negative then -(n : Int) else n
    let bound : Int := Nat.pow 2 (bits - 1)
    if -bound ≤ value ∧ value < bound then .ok value
    else .error (.outOfRange bits text)

/-- The double precision number nearest to a numeral with white space around it. -/
def readFloat64 (text : String) : Except Reason Binary :=
  let body := Text.strip text.toList
  match Numeral.parse? body with
  | some numeral => .ok numeral.round
  | none => .error (.notNumber (String.ofList body))

/-- The single precision number nearest to the double precision number that is nearest to a
numeral. -/
def readFloat32 (text : String) : Except Reason Binary :=
  (readFloat64 text).map (Binary.roundTo binary32)

/-- The number of double precision that a number of single precision is. -/
def widen (number : Binary) : Binary := number.roundTo binary64

/-- The value of a text as a built-in type. -/
def Tag.read (zones : ZoneDatabase) (tag : Tag) (text : String) : Except ZoneError Value :=
  match tag with
  | .string => .ok (.text text)
  | .boolean => .ok (.boolean (readBoolean text))
  | .int8 => ((readInteger 8 text).map Value.integer).mapError .refused
  | .int16 => ((readInteger 16 text).map Value.integer).mapError .refused
  | .int32 => ((readInteger 32 text).map Value.integer).mapError .refused
  | .int64 => ((readInteger 64 text).map Value.integer).mapError .refused
  | .float32 => ((readFloat32 text).map fun x => Value.number (widen x)).mapError .refused
  | .float64 => ((readFloat64 text).map Value.number).mapError .refused
  | .date => ((readDate text).map Value.date).mapError .refused
  | .time => ((readTime text).map Value.time).mapError .refused
  | .datetime => ((readMoment text).map Value.moment).mapError .refused
  | .zonedDatetime => (readZoned zones text).map Value.zoned
  | .duration => ((readDuration text).map Value.duration).mapError .refused
  | .zoneId => (readZone zones text).map Value.zone

/-! ### Registries -/

/-- A registry: the zone database that the built-in converters ask, and the further converters, under normalised keys
in the order of registration. -/
structure Registry (ε : Type) where
  zones : ZoneDatabase
  further : List (TypeKey × Converter ε)

/-- The registry of the built-in converters alone. -/
def Registry.builtin {ε : Type} (zones : ZoneDatabase) : Registry ε := ⟨zones, []⟩

/-- Whether a normalised key has a converter. -/
def Registry.has {ε : Type} (registry : Registry ε) (key : TypeKey) : Bool :=
  key.tag?.isSome || registry.further.any fun entry => entry.1.same key

/-- The registry with one more converter, or the normalised key that has one already. -/
def Registry.register {ε : Type} (registry : Registry ε) (key : TypeKey)
    (converter : Converter ε) : Except TypeKey (Registry ε) :=
  let key := key.normalize
  if registry.has key then .error key else .ok ⟨registry.zones, registry.further ++ [(key, converter)]⟩

/-- The built-in converters with further ones, or the first key that is registered twice. -/
def Registry.build {ε : Type} (zones : ZoneDatabase) (further : List (TypeKey × Converter ε)) :
    Except TypeKey (Registry ε) :=
  further.foldlM (fun registry entry => registry.register entry.1 entry.2) (.builtin zones)

/-- Why a text could not be converted. -/
inductive ConvertError (ε : Type) where
  /-- No converter is registered for the key. -/
  | unsupported (key : TypeKey)
  /-- The text is refused as a value of the normalised key. -/
  | refused (text : String) (key : TypeKey) (reason : Reason)
  /-- The zone database reported an error of the system. -/
  | storage (errno : Files.Errno)
  /-- The converter failed with an error of the caller's own. -/
  | foreign (error : ε)

/-- The converter of a normalised key. -/
def Registry.find? {ε : Type} (registry : Registry ε) (key : TypeKey) : Option (Converter ε) :=
  match key.tag? with
  | some tag => some fun text =>
    (tag.read registry.zones text).mapError fun
      | .refused reason => .refused reason
      | .storage errno => .storage errno
  | none => (registry.further.find? fun entry => entry.1.same key).map (·.2)

/-- The value of a text as the type that a key names. -/
def Registry.convert {ε : Type} (registry : Registry ε) (key : TypeKey) (text : String) :
    Except (ConvertError ε) Value :=
  match registry.find? key.normalize with
  | none => .error (.unsupported key)
  | some converter =>
    (converter text).mapError fun
      | .refused reason => .refused text key.normalize reason
      | .storage errno => .storage errno
      | .foreign error => .foreign error

end Lookup
