import Lookup.Command.Line
import Lookup.Command.Toolkit
import Lookup.Text.Terminal

/-!
# The built-in toolkit

The toolkit of the library's own: its reader of command lines, its printer of tables, and streams that are
no terminals, so that what is written to them is free of control sequences for colours and the cursor.

## Main definitions

* `Rejection.ending` — how a run ends whose command line is rejected
* `Toolkit.builtin` — the toolkit
-/

namespace Lookup.Command

open Text

/-- The end of a run whose command line is rejected. -/
def Rejection.ending : Rejection → Ending
  | .help form => .help form.usage
  | .usage form error => .usage (error.report form)
  | .nulInPath => .fault .nulInPath

/-- The toolkit of the library's own. Half a character cannot be written. -/
def Toolkit.builtin : Toolkit where
  parse world line := (Invocation.read world.disk line).mapError Rejection.ending
  tabulate table :=
    match table.render? with
    | some text => .ok text
    | none => .error .truthAmongNumbers
  write text := if text.toList.any isHalf then none else some (dropColours text)
  report := dropColours

end Lookup.Command
