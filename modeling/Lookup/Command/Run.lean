import Lookup.Command.Answer
import Lookup.Command.Toolkit

/-!
# Running a command line

A run of the program reads the command line, answers the request and prints the answer, or reports
why there is none.

## Main definitions

* `Outcome` — what is printed, and the exit status
* `Answer.json`, `Answer.sheet` — the two forms of an answer
* `Toolkit.print`, `Trouble.outcome` — printing, and reports
* `run` — a run of the program
-/

namespace Lookup.Command

open Text

variable {ε : Type}

/-- What a run prints, and its exit status. -/
structure Outcome where
  status : Nat
  output : String
  errors : String
  deriving DecidableEq, Repr

/-- The outcome of a run that prints a text and succeeds. -/
def Toolkit.print (kit : Toolkit) (text : String) : Except (Failure ε) Outcome :=
  match kit.write text with
  | some output => .ok ⟨0, output, ""⟩
  | none => .error (.fault .unencodable)

/-! ### Answers -/

/-- The JSON document of a value. Values that JSON does not have are texts. -/
def valueJson : Value → Json
  | .nothing => .null
  | .boolean value => .boolean value
  | .integer value => .integer value
  | .number value => .number value
  | .text value => .text value
  | value => .text value.plain

/-- The JSON document of a resource. -/
def resourceJson (resource : Resource) : Json :=
  .ofMembers [("name", .text resource.name), ("location", .text resource.location)]

/-- The JSON document of an answer. -/
def Answer.json : Answer → Json
  | .mounts package locations =>
    .ofMembers [("namespace", .text package), ("mounts", .ofTexts locations)]
  | .resources package found =>
    .ofMembers [("namespace", .text package), ("resources", .array (found.map resourceJson))]
  | .modules package names =>
    .ofMembers [("namespace", .text package), ("modules", .ofTexts names)]
  | .content name text => .ofMembers [("path", .text name), ("content", .text text)]
  | .property key value => .ofMembers [("key", .text key), ("value", valueJson value)]
  | .properties store =>
    .ofMembers [("properties", .ofMembers (store.entries.map fun e => (e.1, .text e.2)))]

/-- An answer as it is printed for readers. -/
inductive Sheet where
  /-- A text. -/
  | text (text : String)
  /-- A table, with a line break behind it. -/
  | table (table : Table)

/-- A table, or a remark where it has no rows. -/
def Sheet.tableOr (remark : String) (table : Table) : Sheet :=
  if table.body = [] then .text (remark ++ "\n") else .table table

/-- An answer as it is printed for readers. -/
def Answer.sheet : Answer → Sheet
  | .mounts _ locations =>
    .tableOr "No mounts found" ⟨["MOUNT"], locations.map fun location => [location]⟩
  | .resources _ found =>
    .tableOr "No resources found"
      ⟨["NAME", "LOCATION"], found.map fun resource => [resource.name, resource.location]⟩
  | .modules _ names =>
    .tableOr "No resources found" ⟨["MODULE"], names.map fun name => [name]⟩
  | .content _ text => .text text
  | .property _ value => .text (value.plain ++ "\n")
  | .properties store => .table ⟨["KEY", "VALUE"], store.toList.map fun e => [e.1, e.2]⟩

/-- The text of a sheet. -/
def Toolkit.text (kit : Toolkit) : Sheet → Except Fault String
  | .text text => .ok text
  | .table table => (kit.tabulate table).map (· ++ "\n")

/-- The records that are logged when an answer is printed as text. -/
def Answer.records : Answer → List LogRecord
  | .resources _ [] => []
  | .resources _ found => [resourceRecord ("Rendering " ++ toString found.length ++ " resources")]
  | _ => []

/-- The outcome of a run that has an answer. -/
def Answer.outcome (kit : Toolkit) (json : Bool) (answer : Answer) :
    Logged (Except (Failure ε) Outcome) :=
  if json then ([], kit.print (answer.json.render ++ "\n"))
  else
    (answer.records,
      match kit.text answer.sheet with
      | .ok text => kit.print text
      | .error fault => .error (.fault fault))

/-! ### Reports -/

/-- The most steps of advice that are given. -/
def adviceLimit : Nat := 3

/-- The advice against an error. -/
def adviceLines (error : Error) : List String :=
  match error.advice.take adviceLimit with
  | [] => []
  | steps => "\nTroubleshooting suggestions:\n" :: steps.map fun step => "  • " ++ step ++ "\n"

/-- The exit status of a run that ends in trouble. -/
def Trouble.status : Trouble → Nat
  | .failed _ _ _ | .settings _ => 2
  | .undefined _ => 1

/-- The lines that report trouble. -/
def Trouble.lines (verbose : Bool) : Trouble → List String
  | .failed operation context error =>
    (error.explain operation context error.cause? ++ "\n") ::
      if verbose then adviceLines error else []
  | .settings error => [error.explainConfig ++ "\n"]
  | .undefined key => ["Property not found: " ++ key ++ "\n"]

/-- The outcome of a run that ends in trouble. -/
def Trouble.outcome (kit : Toolkit) (verbose : Bool) (trouble : Trouble) : Outcome :=
  ⟨trouble.status, "", String.join ((trouble.lines verbose).map kit.report)⟩

/-- The outcome of a run whose command line asks for nothing. -/
def Ending.outcome : Ending → Except (Failure ε) Outcome
  | .help text => .ok ⟨0, text, ""⟩
  | .usage report => .ok ⟨2, "", report⟩
  | .fault reason => .error (.fault reason)

/-! ### Runs -/

/-- The outcome of an invocation, with the records that are logged. -/
def Invocation.run (kit : Toolkit) (world : World) (invocation : Invocation) :
    Logged (Except (Failure ε) Outcome) :=
  let (records, answer) := invocation.request.answer (ε := ε) world
  match answer with
  | .ok answer =>
    let (more, outcome) := answer.outcome kit invocation.json
    (records ++ more, outcome)
  | .error (.trouble trouble) => (records, .ok (trouble.outcome kit invocation.verbose))
  | .error (.escape failure) => (records, .error failure)

/-- A run of the program on a command line, with the records that are logged. -/
def run (kit : Toolkit) (world : World) (line : List String) : Logged (Except (Failure ε) Outcome) :=
  match kit.parse world line with
  | .ok invocation => invocation.run kit world
  | .error ending => ([], ending.outcome)

end Lookup.Command
