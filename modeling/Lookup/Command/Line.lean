import Lookup.Command.Request
import Lookup.Command.Words
import Lookup.Files.Tree
import Lookup.Text.Identifier

/-!
# Reading command lines

Options are checked in the order in which they were given, operands after them.

## Main definitions

* `Verb.form` — the forms of the commands
* `Rejection` — why a command line asks for nothing
* `Invocation.read` — the invocation that a command line is
-/

namespace Lookup.Command

open Files Text

/-! ### Forms -/

/-- The name of the program. -/
def programName : String := "autumnctl"

/-- The commands. -/
inductive Verb where
  | mounts
  | scan
  | cat
  | get
  | list
  deriving DecidableEq, Repr

/-- The option for an entry of the path. -/
def pathOption : OptionForm := .repeated "--path" .path

/-- The option for the settings file. -/
def settingsOption : OptionForm := .single "--settings" .file

/-- The option for a setting. -/
def setOption : OptionForm := .repeated "--set" .any

/-- The form of the program. -/
def programForm : Form :=
  .group programName [.switch "--json-output" none, .switch "--verbose" (some 'v')]

/-- The form of the commands for resources. -/
def resourcesForm : Form := .group "autumnctl resources" []

/-- The form of the commands for properties. -/
def propertiesForm : Form := .group "autumnctl props" []

/-- The form of a command. -/
def Verb.form : Verb → Form
  | .mounts => .command "autumnctl resources mounts" (some "NAMESPACE") [pathOption]
  | .scan =>
    .command "autumnctl resources scan" (some "NAMESPACE")
      [pathOption, .single "--suffix" .any, .switch "--modules" none]
  | .cat => .command "autumnctl resources cat" (some "RESOURCE_PATH") [pathOption]
  | .get =>
    .command "autumnctl props get" (some "KEY")
      [.single "--type" .tag, .single "--default" .any, settingsOption, setOption]
  | .list =>
    .command "autumnctl props list" none [settingsOption, setOption, .switch "--no-env" none]

/-- The commands for resources by their names. -/
def resourceVerbs : List (String × Verb) := [("mounts", .mounts), ("scan", .scan), ("cat", .cat)]

/-- The commands for properties by their names. -/
def propertyVerbs : List (String × Verb) := [("get", .get), ("list", .list)]

/-! ### Rejections -/

/-- Why a command line asks for nothing. -/
inductive Rejection where
  /-- It asks how a command is used. -/
  | help (form : Form)
  /-- It does not fit the form of a command. -/
  | usage (form : Form) (error : UsageError)
  /-- A path holds a NUL character. -/
  | nulInPath
  deriving DecidableEq, Repr

/-- The words of a command line of a form. -/
def Form.words (form : Form) (among : Bool) (line : List String) : Except Rejection Words :=
  match form.read among line with
  | .error error => .error (.usage form error)
  | .ok words => if words.has OptionForm.help.name then .error (.help form) else .ok words

/-- Whether the name of a command looks like an option. -/
def looksLikeOption (name : String) : Bool :=
  match name.toList with
  | c :: _ => !(c.isAlphanum || identifierContinue.contains c) || c = '_'
  | [] => false

/-- What is wrong with the name of a command that a group does not have. A name that looks like an
option is taken for a question how the group is used. -/
def Form.unknown (form : Form) (name : String) : Rejection :=
  if looksLikeOption name then .help form else .usage form (.unknownCommand name)

/-- The options of a group, the name of the command behind them, and the words that follow. -/
def Form.enter (form : Form) (line : List String) : Except Rejection (Words × String × List String) :=
  if line = [] then .error (.help form)
  else
    match form.words false line with
    | .error rejection => .error rejection
    | .ok words =>
      match words.operands with
      | [] => .error (.usage form .missingCommand)
      | name :: rest => .ok (words, name, rest)

/-! ### Checks -/

/-- Checks a value of an option. -/
def checkValue (disk : Disk) (form : Form) (option : OptionForm) (value : String) :
    Except Rejection Unit :=
  match option.rule? with
  | none | some .any => .ok ()
  | some .tag =>
    if (Tag.ofText? value).isSome then .ok ()
    else .error (.usage form (.unknownTag option.name value))
  | some .path => if value.toList.contains '\x00' then .error .nulInPath else .ok ()
  | some .file =>
    match disk.resolveText value with
    | .error .nul => .error .nulInPath
    | .ok (_, .directory _) => .error (.usage form (.directory option.name value))
    | _ => .ok ()

/-- The values of an option that count. -/
def Words.counting (words : Words) (option : OptionForm) : List String :=
  if option.repeatable then words.all option.name else (words.last? option.name).toList

/-- Checks the options of a command line. -/
def checkOptions (disk : Disk) (form : Form) (words : Words) : Except Rejection Unit :=
  words.options.forM fun option => (words.counting option).forM (checkValue disk form option)

/-- The operand of a command line; of a command without operands an empty text. -/
def Form.operand (form : Form) (words : Words) : Except Rejection String :=
  match form.operands?, words.operands with
  | some name, [] => .error (.usage form (.missingOperand name))
  | some _, [operand] => .ok operand
  | some _, _ :: extra => .error (.usage form (.extraOperands extra))
  | none, [] => .ok ""
  | none, extra => .error (.usage form (.extraOperands extra))

/-! ### Reading -/

/-- The request of a command with its operand and its options. -/
def Verb.request (verb : Verb) (operand : String) (words : Words) : Request :=
  let path := words.all pathOption.name
  let settings? := words.last? settingsOption.name
  let pairs := words.all setOption.name
  match verb with
  | .mounts => .mounts operand path
  | .scan => .scan operand path (words.last? "--suffix") (words.has "--modules")
  | .cat => .cat operand path
  | .get =>
    .get operand ((words.last? "--type").bind Tag.ofText?) (words.last? "--default") settings? pairs
  | .list => .list settings? pairs (words.has "--no-env")

/-- The request that the words behind the name of a command are. -/
def Verb.read (verb : Verb) (disk : Disk) (line : List String) : Except Rejection Request := do
  let words ← verb.form.words true line
  checkOptions disk verb.form words
  let operand ← verb.form.operand words
  pure (verb.request operand words)

/-- The command that words behind the name of a group lead to, and the words behind its name. -/
def Form.verb (form : Form) (verbs : List (String × Verb)) (line : List String) :
    Except Rejection (Verb × List String) := do
  let (_, name, rest) ← form.enter line
  match verbs.lookup name with
  | some verb => pure (verb, rest)
  | none => throw (form.unknown name)

/-- The invocation that a command line is. -/
def Invocation.read (disk : Disk) (line : List String) : Except Rejection Invocation := do
  let (words, name, rest) ← programForm.enter line
  let (verb, rest) ←
    if name = "resources" then resourcesForm.verb resourceVerbs rest
    else if name = "props" then propertiesForm.verb propertyVerbs rest
    else throw (programForm.unknown name)
  let request ← verb.read disk rest
  pure ⟨words.has "--json-output", words.has "--verbose", request⟩

end Lookup.Command
