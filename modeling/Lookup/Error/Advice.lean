import Lookup.Error.Basic
import Lookup.Text.Case

/-!
# Explaining errors

An error is explained to the user by a sentence that names what failed, and by steps that may help.

## Main definitions

* `Error.explain` — the sentence
* `Error.advice` — the steps
* `Error.explainConfig` — the sentence for an error of settings
-/

namespace Lookup

/-- What is known about an operation that failed. -/
structure Context where
  /-- The package that was scanned. -/
  package? : Option String
  /-- The property that was read. -/
  key? : Option String
  deriving DecidableEq, Repr

/-- The wording of what made an error happen, where that is another error. -/
def Error.cause? : Error → Option String
  | .resource (.failed _ cause) => some cause.message
  | _ => none

/-- The sentence for an error of an operation; `cause?` is the wording of what made it happen. -/
def Error.explain (operation : String) (context : Context) (cause? : Option String)
    (error : Error) : String :=
  let text := "Original error: " ++ error.message
  match error with
  | .resource (.notFound name) =>
    "Resource '" ++ name ++ "' was not found in any search-path entry. " ++ text
  | .resource (.malformed location _) =>
    "Mount location '" ++ location ++ "' could not be parsed. " ++
      "Only directory and zip archive mounts are supported. " ++ text
  | .resource (.failed _ _) | .resource (.unread _) =>
    let detail := match cause? with | some cause => " (" ++ cause ++ ")" | none => ""
    "I/O failure while scanning " ++ context.package?.getD "namespace" ++ detail ++ ". " ++ text
  | .property (.resolve (.missing key)) =>
    "Property '" ++ key ++ "' is not defined in the environment or settings. " ++ text
  | .property (.resolve (.cycle _)) =>
    "Property placeholders reference each other in a loop. " ++ text
  | .property (.resolve (.depth key _)) =>
    "Property placeholders for '" ++ key ++ "' are nested too deeply. " ++ text
  | .property (.resolve (.keyless _)) | .property (.unsupported _)
  | .property (.conversion _ _ _) =>
    "Cannot read " ++ context.key?.getD "property" ++ ". " ++ text
  | _ => "Failed to " ++ operation ++ ": " ++ error.message

/-- Steps that may help against an error. -/
def Error.advice : Error → List String
  | .resource (.notFound _) =>
    ["Check the resource path spelling (use '/' separators)",
     "Add the directory or archive holding it with --path",
     "List what is visible with: autumnctl resources scan <namespace>"]
  | .resource (.failed _ _) | .resource (.unread _) =>
    ["Verify every --path entry is readable",
     "Check that archives on the search path are valid zip files"]
  | .property (.resolve (.missing _)) =>
    ["Define the key in your settings file or with --set key=value",
     "Use a default in the placeholder: $\x7bkey:default\x7d",
     "List known keys with: autumnctl props list"]
  | .property (.resolve (.depth _ _)) =>
    ["Shorten the chain of $\x7b...\x7d references between keys"]
  | .property (.resolve (.cycle _)) =>
    ["Break the loop by giving one of the keys a literal value"]
  | .property (.unsupported _) | .property (.conversion _ _ _) =>
    ["Check the --type tag against: autumnctl props get --help",
     "Make sure the value uses its ISO-8601 or plain decimal form"]
  | _ =>
    ["Check the logs with -v/--verbose flag for more details",
     "Verify your settings file is correct"]

/-- The sentence for an error of settings. An error whose wording says that a path was not found is
taken to be about the variable that names the settings file. -/
def Error.explainConfig (error : Error) : String :=
  let text := error.message
  if Text.occurs "path not found".toList (Text.lower text.toList) then
    "Settings file not found: " ++ text ++ "\n  • Fix AUTUMN_CONFIG, or\n" ++
      "  • Unset it to fall back to ~/.config/autumn/settings.yaml"
  else "Configuration error: " ++ text

end Lookup
