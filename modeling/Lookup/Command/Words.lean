import Lookup.Command.Form
import Lookup.Text.Likeness

/-!
# Reading the words of a command line

The words of a command line are options, values of options, and operands. An option is given by its
name, which an equals sign and the value may follow, or by its letter; several letters may share a
dash. A value may also be the next word, whatever that looks like. Behind two dashes alone there are
only operands.

## Main definitions

* `Given` — an option as it was given
* `Words`, `Form.read` — the options and the operands of a command line
* `Words.has`, `Words.last?`, `Words.all` — what was given for an option
-/

namespace Lookup.Command

open Text

/-- An option as it was given. The value of a switch is empty. -/
structure Given where
  option : OptionForm
  value : String
  deriving DecidableEq, Repr

/-- What one word gives: options, the last of which may still be without its value. -/
structure Reading where
  given : List Given
  waiting? : Option OptionForm

/-- The reading with one more option in front. -/
def Reading.cons (option : OptionForm) (reading : Reading) : Reading :=
  ⟨⟨option, ""⟩ :: reading.given, reading.waiting?⟩

/-- The option of a name. -/
def Form.named? (form : Form) (name : String) : Option OptionForm :=
  form.options.find? fun option => option.name = name

/-- The option of a letter. -/
def Form.lettered? (form : Form) (letter : Char) : Option OptionForm :=
  form.options.find? fun option => option.letter? = some letter

/-- The options that the letters behind a dash give. What follows the letter of an option with a value
is the value. -/
def Form.readLetters (form : Form) : List Char → Except UsageError Reading
  | [] => .ok ⟨[], none⟩
  | letter :: rest =>
    match form.lettered? letter with
    | none => .error (.unknownOption (String.ofList ['-', letter]) [])
    | some option =>
      if option.rule?.isNone then (form.readLetters rest).map (Reading.cons option)
      else if rest = [] then .ok ⟨[], some option⟩
      else .ok ⟨[⟨option, String.ofList rest⟩], none⟩

/-- What an option that is given by its name amounts to. -/
def OptionForm.read (option : OptionForm) (value? : Option String) : Except UsageError Reading :=
  match option.rule?, value? with
  | none, none => .ok ⟨[⟨option, ""⟩], none⟩
  | none, some _ => .error (.unwantedValue option.name)
  | some _, none => .ok ⟨[], some option⟩
  | some _, some value => .ok ⟨[⟨option, value⟩], none⟩

/-- The name and the value that a word is made of. -/
def splitWord (word : String) : String × Option String :=
  match cut '=' word.toList with
  | some (name, value) => (String.ofList name, some (String.ofList value))
  | none => (word, none)

/-- The options that a word gives. -/
def Form.readWord (form : Form) (word : String) : Except UsageError Reading :=
  let (name, value?) := splitWord word
  match form.named? name with
  | some option => option.read value?
  | none =>
    -- Only a word with one dash can be made of letters.
    if startsWith "--" word then
      .error (.unknownOption name (alike name (form.options.map (·.name))))
    else form.readLetters (word.toList.drop 1)

/-- Whether a word gives options: it is a dash with something behind it. -/
def isOption (word : String) : Bool := startsWith "-" word && word ≠ "-"

/-- The options and the operands of a command line. -/
structure Words where
  given : List Given
  operands : List String
  deriving DecidableEq, Repr

/-- The words with further options in front. -/
def Words.withOptions (given : List Given) (words : Words) : Words :=
  ⟨given ++ words.given, words.operands⟩

/-- The words with one more operand in front. -/
def Words.withOperand (operand : String) (words : Words) : Words :=
  ⟨words.given, operand :: words.operands⟩

/-- The options and the operands of a command line. Unless options are read from among the operands,
all words from the first operand on are operands. -/
def Form.read (form : Form) (among : Bool) : List String → Except UsageError Words
  | [] => .ok ⟨[], []⟩
  | word :: rest =>
    if word = "--" then .ok ⟨[], rest⟩
    else if isOption word then
      match form.readWord word, rest with
      | .error error, _ => .error error
      | .ok ⟨given, none⟩, rest => (form.read among rest).map (Words.withOptions given)
      | .ok ⟨_, some option⟩, [] => .error (.missingValue option.name)
      | .ok ⟨given, some option⟩, value :: rest =>
        (form.read among rest).map (Words.withOptions (given ++ [⟨option, value⟩]))
    else if among then (form.read among rest).map (Words.withOperand word)
    else .ok ⟨[], word :: rest⟩

namespace Words

/-- The values that were given for an option, in order. -/
def all (words : Words) (name : String) : List String :=
  (words.given.filter fun given => given.option.name = name).map (·.value)

/-- The last value that was given for an option. -/
def last? (words : Words) (name : String) : Option String := (words.all name).getLast?

/-- Whether an option was given. -/
def has (words : Words) (name : String) : Bool := !(words.all name).isEmpty

/-- The options that were given, each once, in the order in which they came first. -/
def options (words : Words) : List OptionForm := (words.given.map (·.option)).eraseDups

end Words

end Lookup.Command
