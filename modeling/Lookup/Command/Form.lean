import Lookup.Text.Quoted
import Lookup.Value.Tag

/-!
# The forms of commands

A form says which options a command takes and what follows them. A command line that does not fit
its form is reported with the form.

## Main definitions

* `OptionForm`, `Form` — options and commands
* `UsageError`, `UsageError.message` — what is wrong with a command line
* `UsageError.report` — the report of it
-/

namespace Lookup.Command

open Text

/-! ### Forms -/

/-- What the value of an option has to be. -/
inductive ValueRule where
  /-- Any text. -/
  | any
  /-- The text of a built-in tag. -/
  | tag
  /-- A path. -/
  | path
  /-- The path of something that is no directory. -/
  | file
  deriving DecidableEq, Repr

/-- An option: a switch, or one with a value. -/
structure OptionForm where
  /-- The name, with the two dashes in front of it. -/
  name : String
  /-- The letter by which the option may be given as well. -/
  letter? : Option Char
  /-- What the value has to be; a switch takes none. -/
  rule? : Option ValueRule
  /-- Whether all values count, and not only the last one. -/
  repeatable : Bool
  deriving DecidableEq, Repr

namespace OptionForm

/-- A switch. -/
def switch (name : String) (letter? : Option Char) : OptionForm := ⟨name, letter?, none, false⟩

/-- An option of whose values the last one counts. -/
def single (name : String) (rule : ValueRule) : OptionForm := ⟨name, none, some rule, false⟩

/-- An option of which all values count. -/
def repeated (name : String) (rule : ValueRule) : OptionForm := ⟨name, none, some rule, true⟩

/-- The option that asks for help. -/
def help : OptionForm := switch "--help" (some 'h')

end OptionForm

/-- A command or a group of commands. -/
structure Form where
  /-- The words that lead to it. -/
  path : String
  /-- What stands behind the options, if anything does. -/
  operands? : Option String
  options : List OptionForm
  deriving DecidableEq, Repr

/-- The form of a group of commands with options of its own. -/
def Form.group (path : String) (options : List OptionForm) : Form :=
  ⟨path, some "COMMAND [ARGS]...", options ++ [.help]⟩

/-- The form of a command. -/
def Form.command (path : String) (operands? : Option String) (options : List OptionForm) : Form :=
  ⟨path, operands?, options ++ [.help]⟩

/-- The line that shows how a command is used. -/
def Form.usage (form : Form) : String :=
  "Usage: " ++ String.intercalate " " ([form.path, "[OPTIONS]"] ++ form.operands?.toList) ++ "\n"

/-- The line that says where help is to be had. -/
def Form.hint (form : Form) : String := "Try '" ++ form.path ++ " -h' for help.\n"

/-! ### Errors -/

/-- What is wrong with a command line. -/
inductive UsageError where
  /-- No option has the name; some have one that is alike. -/
  | unknownOption (name : String) (similar : List String)
  /-- The value of an option is missing. -/
  | missingValue (name : String)
  /-- A switch is given a value. -/
  | unwantedValue (name : String)
  /-- The value of an option is the text of no tag. -/
  | unknownTag (name value : String)
  /-- The value of an option is the path of a directory. -/
  | directory (name value : String)
  /-- No command has the name. -/
  | unknownCommand (name : String)
  /-- There is no command. -/
  | missingCommand
  /-- There is no operand. -/
  | missingOperand (name : String)
  /-- There are more operands than the command takes. -/
  | extraOperands (operands : List String)
  deriving DecidableEq, Repr

/-- The offer of names that are alike. -/
def offer : List String → String
  | [] => ""
  | [name] => " Did you mean " ++ name ++ "?"
  | names => " (Possible options: " ++ String.intercalate ", " names ++ ")"

/-- The wording of what is wrong with a command line. -/
def UsageError.message : UsageError → String
  | .unknownOption name similar => "No such option: " ++ name ++ offer similar
  | .missingValue name => "Option " ++ quote name ++ " requires an argument."
  | .unwantedValue name => "Option " ++ quote name ++ " does not take a value."
  | .unknownTag name value =>
    "Invalid value for '" ++ name ++ "': " ++ quote value ++ " is not one of " ++
      String.intercalate ", " (Tag.all.map fun tag => quote tag.text) ++ "."
  | .directory name value =>
    "Invalid value for '" ++ name ++ "': File " ++ quote value ++ " is a directory."
  | .unknownCommand name => "No such command " ++ quote name ++ "."
  | .missingCommand => "Missing command."
  | .missingOperand name => "Missing argument '" ++ name ++ "'."
  | .extraOperands operands =>
    (if operands.length = 1 then "Got unexpected extra argument ("
      else "Got unexpected extra arguments (") ++ String.intercalate " " operands ++ ")"

/-- Whether the form of the command is shown with an error. It is not where an option and a value do
not go together. -/
def UsageError.showsForm : UsageError → Bool
  | .missingValue _ | .unwantedValue _ => false
  | _ => true

/-- The report of what is wrong with a command line. -/
def UsageError.report (form : Form) (error : UsageError) : String :=
  (if error.showsForm then form.usage ++ form.hint ++ "\n" else "") ++
    "Error: " ++ error.message ++ "\n"

end Lookup.Command
