import Lookup.Files.Archive
import Lookup.Files.Errno
import Lookup.Property.Resolve
import Lookup.Uri.Basic
import Lookup.Value.Convert

/-!
# Errors

Errors fall into those of resources, those of properties and those of settings. Each names its cause;
the wording is a function of it. What goes wrong below the library and is not reported as one of its
errors is a fault.

## Main definitions

* `ResourceError`, `PropertyError`, `ConfigError`, `Error` — the errors of the library
* `Error.message` — their wording
* `Fault` — what is let through from below
* `Failure` — all that may end an operation
-/

namespace Lookup

open Files

/-! ### Resources -/

/-- Why files or archives could not be read. -/
inductive Cause where
  /-- The system refused. -/
  | system (error : SystemError)
  /-- An archive is damaged. -/
  | archive (error : ArchiveError)
  deriving DecidableEq, Repr

/-- The wording of a cause. -/
def Cause.message : Cause → String
  | .system error => error.message
  | .archive error => error.message

/-- What was being done when reading failed. -/
inductive Activity where
  | reading (name : String)
  | walking (path : String)
  | readingArchive (path : String)
  | enumerating (package : String)
  deriving DecidableEq, Repr

/-- The wording of an activity that failed. -/
def Activity.failed : Activity → String
  | .reading name => "Failed to read resource " ++ name
  | .walking path => "Failed to walk " ++ path
  | .readingArchive path => "Failed to read archive " ++ path
  | .enumerating package => "Failed to enumerate mounts for " ++ package

/-- What is wrong with the location of a mount. -/
inductive LocationFault where
  /-- There is no colon. -/
  | missingScheme
  /-- The scheme is neither that of directories nor that of archives. -/
  | unsupportedScheme (scheme : String)
  /-- An archive is not separated from what is inside. -/
  | missingSeparator
  /-- The URI does not name a file. -/
  | notFile
  /-- The URI is malformed itself. -/
  | uri (fault : Uri.Fault)
  /-- Nothing more is known. -/
  | unsupported
  /-- A reason in its own words. -/
  | other (reason : String)
  deriving DecidableEq, Repr

/-- The wording of a location's fault. -/
def LocationFault.message : LocationFault → String
  | .missingScheme => "missing scheme"
  | .unsupportedScheme scheme => "unsupported scheme '" ++ scheme ++ "'"
  | .missingSeparator => "missing '!/' separator"
  | .notFile => "expected an absolute file URI"
  | .uri fault => fault.message
  | .unsupported => "unsupported location"
  | .other reason => reason

/-- Errors of resources. -/
inductive ResourceError where
  /-- An error in its own words. -/
  | general (text : String)
  /-- Files or archives could not be read. -/
  | failed (activity : Activity) (cause : Cause)
  /-- Files or archives could not be read, in the error's own words. -/
  | unread (text : String)
  /-- No entry of the search path has the resource. -/
  | notFound (name : String)
  /-- A text is not the location of a mount. -/
  | malformed (location : String) (fault : LocationFault)
  deriving DecidableEq, Repr

/-- The wording of an error of resources. -/
def ResourceError.message : ResourceError → String
  | .general text => text
  | .failed activity cause => activity.failed ++ ": " ++ cause.message
  | .unread text => text
  | .notFound name => "Resource not found on search path: " ++ name
  | .malformed location fault =>
    "Malformed resource location '" ++ location ++ "': " ++ fault.message

/-! ### Properties -/

/-- The wording of why a property has no value. -/
def ResolveError.message : ResolveError → String
  | .keyless text => "Invalid key in placeholder expression: " ++ text
  | .missing key => "Property '" ++ key ++ "' not found."
  | .cycle chain => "Placeholder cycle detected: " ++ String.intercalate " -> " chain
  | .depth key limit =>
    "Placeholder expansion of '" ++ key ++ "' exceeded " ++ toString limit ++ " levels"

/-- Errors of properties. -/
inductive PropertyError where
  /-- An error in its own words. -/
  | general (text : String)
  /-- A property has no value. -/
  | resolve (error : ResolveError)
  /-- No converter yields values of the type. -/
  | unsupported (key : TypeKey)
  /-- A text is no value of the type. -/
  | conversion (text : String) (key : TypeKey) (reason : Reason)

/-- The wording of an error of properties. -/
def PropertyError.message : PropertyError → String
  | .general text => text
  | .resolve error => error.message
  | .unsupported key => "Unsupported value type: " ++ key.name
  | .conversion text key reason =>
    "Cannot convert '" ++ text ++ "' to " ++ key.shown ++ ": " ++ reason.message

/-! ### Settings -/

/-- Errors of settings. -/
inductive ConfigError where
  /-- The file that the environment names is none. -/
  | overrideMissing (path : String)
  /-- The file could not be read. -/
  | unreadable (error : SystemError)
  /-- The file is no document of the settings language, as the complaint of its reader says. -/
  | invalid (path complaint : String)
  /-- The document is no mapping. -/
  | notMapping (path : String)
  /-- An explicit setting has no key or no value. -/
  | badPair (pair : String)
  /-- An error in its own words. -/
  | general (text : String)
  deriving DecidableEq, Repr

/-- The wording of an error of settings. -/
def ConfigError.message : ConfigError → String
  | .overrideMissing path => "AUTUMN_CONFIG path not found: " ++ path
  | .unreadable error => error.message
  | .invalid path complaint => "Invalid YAML in " ++ path ++ ": " ++ complaint
  | .notMapping path => "Settings file must contain a mapping at the top level: " ++ path
  | .badPair pair => "Expected key=value, got: " ++ Text.quote pair
  | .general text => text

/-! ### All errors -/

/-- The errors of the library. -/
inductive Error where
  /-- An error in its own words. -/
  | general (text : String)
  | resource (error : ResourceError)
  | property (error : PropertyError)
  | config (error : ConfigError)

/-- The wording of an error. -/
def Error.message : Error → String
  | .general text => text
  | .resource error => error.message
  | .property error => error.message
  | .config error => error.message

/-- What goes wrong below the library and is let through as it is. -/
inductive Fault where
  /-- The system refused an operation. -/
  | system (errno : Errno)
  /-- A path holds a NUL character. -/
  | nulInPath
  /-- An archive or a member cannot be read. -/
  | archive (fault : ArchiveFault)
  /-- Bytes are no text of their encoding. -/
  | undecodable
  /-- No encoding has the name. -/
  | unknownEncoding
  /-- A path starts in the home of a user who does not exist. -/
  | unknownUser
  /-- A scalar of a settings document has no value of its type. -/
  | badScalar
  /-- A scalar of a settings document is no truth value. -/
  | badBoolean
  /-- A scalar of a settings document is no timestamp. -/
  | badTimestamp
  /-- A number of a settings document has no digits. -/
  | emptyNumber
  /-- A number of a settings document is written with units out of the range of numbers. -/
  | hugeNumber
  /-- A code point of a settings document is that of no character. -/
  | noCharacter
  /-- A code point of a settings document exceeds the machine word. -/
  | hugeCharacter
  /-- A settings document or an archive leads back into itself without an end. -/
  | endless
  /-- A truth value stands among the numbers of a table. -/
  | truthAmongNumbers
  /-- The output lacks a character that is to be written. -/
  | unencodable
  deriving DecidableEq, Repr

/-- All that may end an operation without a result. `ε` is the type of errors that belong to the
caller. -/
inductive Failure (ε : Type) where
  | error (error : Error)
  | fault (fault : Fault)
  /-- A second converter for a type. -/
  | duplicate (key : TypeKey)
  /-- An error of the caller's own. -/
  | foreign (error : ε)

/-- The failure that a conversion error amounts to. -/
def ConvertError.failure {ε : Type} : ConvertError ε → Failure ε
  | .unsupported key => .error (.property (.unsupported key))
  | .refused text key reason => .error (.property (.conversion text key reason))
  | .storage errno => .fault (.system errno)
  | .foreign error => .foreign error

/-- The failure that a resolution error amounts to. -/
def ResolveError.failure {ε : Type} (error : ResolveError) : Failure ε :=
  .error (.property (.resolve error))

end Lookup
