import Lookup.Resource.SearchPath

/-!
# Reading resources

A resource is read from the first entry of the search path that has it.

## Main definitions

* `Holder`, `locate` — what holds a resource
* `Stream` — the bytes of a resource as they are read
* `openResource` — the result of a reader of the first resource of a name
* `readBytes`, `readText` — the bytes and the text of a resource
-/

namespace Lookup

open Files Text

variable {ε : Type}

/-- What holds a resource. -/
inductive Holder where
  /-- A file at a path. -/
  | file (path : Path) (content : Content)
  /-- A member of the archive at a path. -/
  | member (archive : Path) (name : String) (member : Member)

/-- The record that is logged when a resource is opened. -/
def Holder.record : Holder → LogRecord
  | .file path _ => ⟨.debug, "autumnio.classpath", "reading " ++ path.text⟩
  | .member archive name _ =>
    ⟨.debug, "autumnio.classpath", "reading " ++ archive.text ++ "!/" ++ name⟩

/-- What holds a resource in an entry of the search path. -/
def holder? (disk : Disk) (name : String) (entry : Path) : Except (Failure ε) (Option Holder) :=
  let activity := Activity.reading name
  match disk.isDirectory entry with
  | .error error => .error (.during activity (.system error))
  | .ok true =>
    if name = "" then .ok none
    else
      let candidate := entry.append (Path.ofText name)
      match disk.isFile candidate with
      | .error error => .error (.during activity (.system error))
      | .ok false => .ok none
      | .ok true =>
        match disk.content candidate with
        | .error error => .error (.opening activity error)
        | .ok content => .ok (some (.file candidate content))
  | .ok false =>
    match isArchive disk entry with
    | .error error => .error (.during activity (.system error))
    | .ok false => .ok none
    | .ok true =>
      (openArchive disk activity entry).map fun archive =>
        -- A name with a slash at its end is that of a directory, which cannot be read.
        if Archive.isDirectory name then none
        else (archive.member? name).map fun member => .member entry name member

/-- What holds a resource in the first of several entries that has it. -/
def locateIn (disk : Disk) (name : String) : List Path → Except (Failure ε) Holder
  | [] => .error (.error (.resource (.notFound name)))
  | entry :: rest =>
    match holder? disk name entry with
    | .error failure => .error failure
    | .ok (some holder) => .ok holder
    | .ok none => locateIn disk name rest

/-- The name under which a resource is looked up. -/
def lookupName (name : String) : String := canonicalName name

/-- What holds a resource in the first entry of the search path that has it. -/
def locate (disk : Disk) (entries : List String) (name : String) : Except (Failure ε) Holder :=
  locateIn disk (lookupName name) (searchEntries disk entries)

/-- The bytes of a resource as they are read. -/
inductive Stream where
  | file (bytes : Bytes)
  | member (member : Member)

/-- All bytes of a stream. -/
def Stream.read : Stream → Except Defect Bytes
  | .file bytes => .ok bytes
  | .member entry => entry.read

/-- The first bytes of a stream. -/
def Stream.readFirst (count : Nat) : Stream → Except Defect Bytes
  | .file bytes => .ok (bytes.take count)
  | .member entry => entry.readFirst count

/-- Why a reader fails. -/
inductive ReadError (ε : Type) where
  /-- The system or the archive reports an error. -/
  | cause (cause : Cause)
  /-- The archive cannot be read, and this is let through. -/
  | fault (fault : ArchiveFault)
  /-- An error of the caller's own. -/
  | foreign (error : ε)

/-- The error of a reader at what is wrong with a member. -/
def ReadError.ofDefect : Defect → ReadError ε
  | .error reported => .cause (.archive reported)
  | .fault escaping => .fault escaping

/-- The failure of an activity at the error of a reader. -/
def ReadError.failure (activity : Activity) : ReadError ε → Failure ε
  | .cause reported => .during activity reported
  | .fault escaping => .fault (.archive escaping)
  | .foreign error => .foreign error

/-- The stream of what holds a resource. -/
def Holder.stream : Holder → Except (Failure ε) Stream
  | .file _ content => .ok (.file content.bytes)
  | .member _ name entry =>
    match entry.barrier? with
    | none => .ok (.member entry)
    | some defect => .error (.defective (.reading name) defect)

/-- The result of a reader on the first resource of a name, with the records that are logged. -/
def openResource {α : Type} (disk : Disk) (entries : List String) (name : String)
    (reader : Stream → Except (ReadError ε) α) : List LogRecord × Except (Failure ε) α :=
  match locate disk entries name with
  | .error failure => ([], .error failure)
  | .ok holder =>
    ([holder.record],
      match holder.stream with
      | .error failure => .error failure
      | .ok stream => (reader stream).mapError (ReadError.failure (.reading (lookupName name))))

/-- The reader of all bytes. -/
def Stream.readAll (stream : Stream) : Except (ReadError ε) Bytes := stream.read.mapError .ofDefect

/-- The bytes of the first resource of a name. -/
def readBytes (disk : Disk) (entries : List String) (name : String) :
    List LogRecord × Except (Failure ε) Bytes :=
  openResource disk entries name Stream.readAll

/-- The text of bytes in the encoding of a name. No bytes are a text in any encoding. -/
def decodeAs (encoding : String) (bytes : Bytes) : Except (Failure ε) String :=
  if bytes.isEmpty then .ok ""
  else
    match Encoding.ofName? encoding with
    | none => .error (.fault .unknownEncoding)
    | some e =>
      match e.decode? bytes with
      | none => .error (.fault .undecodable)
      | some text => .ok (String.ofList text)

/-- The text of the first resource of a name. -/
def readText (disk : Disk) (entries : List String) (name encoding : String) :
    List LogRecord × Except (Failure ε) String :=
  let (records, bytes) := readBytes (ε := ε) disk entries name
  (records, bytes.bind (decodeAs encoding))

end Lookup
