import Lookup.Command.Request
import Lookup.Error.Basic
import Lookup.Table
import Lookup.World

/-!
# What the program is built upon

The program does not read its command line, print tables and write texts itself. It is given what does.

## Main definitions

* `Ending` — the end of a run whose command line asks for nothing
* `Toolkit` — the reader of command lines, the printer of tables, and the streams that are written to
-/

namespace Lookup.Command

/-- The end of a run whose command line asks for nothing. -/
inductive Ending where
  /-- It asks for help, which is printed. -/
  | help (text : String)
  /-- It is none of the program, which is reported. -/
  | usage (report : String)
  /-- Reading it fails. -/
  | fault (fault : Fault)
  deriving DecidableEq, Repr

/-- What the program is built upon. -/
structure Toolkit where
  /-- What a command line asks for. -/
  parse : World → List String → Except Ending Invocation
  /-- The text of a table, without a line break at its end. -/
  tabulate : Table → Except Fault String
  /-- What is written to the output for a text; none if the output lacks one of its characters. -/
  write : String → Option String
  /-- What is written to the output for errors for a text. -/
  report : String → String

end Lookup.Command
