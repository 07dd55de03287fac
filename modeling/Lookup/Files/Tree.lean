import Lookup.Files.Archive
import Lookup.Files.Errno
import Lookup.Files.Path

/-!
# Trees of files

A file system is a tree of directories, files and symbolic links. Following a path leads through
links, at most forty of them, and ends at a directory or a file.

## Main definitions

* `Node` — files, links and directories
* `Node.follow` — the directory or file at the end of a path
* `Disk` — a tree with a current directory
* `Disk.isDirectory`, `Disk.isFile` — what is at a path
* `Disk.walk` — the files below a directory, in order
* `Disk.put`, `Disk.remove` — changes to a tree
-/

namespace Lookup.Files

open Text

/-- What a file holds: bytes, which may make up an archive. -/
structure Content where
  bytes : Bytes
  archive : Option Archive
  deriving DecidableEq, Repr

/-- A node of a tree of files. -/
inductive Node where
  /-- A regular file. -/
  | file (content : Content)
  /-- A symbolic link. -/
  | link (target : String)
  /-- A directory. -/
  | directory (entries : List (String × Node))

namespace Node

/-- The entries of a directory; none in anything else. -/
def entries : Node → List (String × Node)
  | .directory entries => entries
  | _ => []

/-- The entry of a name in a directory. -/
def entry? (node : Node) (name : String) : Option Node := node.entries.lookup name

/-- The node that names lead to, links not followed. -/
def at? (node : Node) : List String → Option Node
  | [] => some node
  | name :: rest => (node.entry? name).bind fun child => child.at? rest

/-- The most bytes in a component of a path. -/
def componentLimit : Nat := 255

/-- The most bytes in a path. -/
def pathLimit : Nat := 4095

/-- The most symbolic links on the way along a path. -/
def linkLimit : Nat := 40

/-- The components of a text that the system takes as a path. A slash at the end asks for a
directory, as a dot does. -/
def steps (text : String) : List String :=
  (split '/' text).filter (· ≠ "") ++ (if endsWith "/" text then ["."] else [])

/-- How far components can be followed without passing a symbolic link. -/
inductive Reach where
  /-- To the end: where that is from the root, and what is there. -/
  | done (names : List String) (node : Node)
  /-- To a link: the place it leads on from, and the components left to follow. -/
  | detour (names : List String) (todo : List String)
  /-- Nowhere. -/
  | failed (errno : Errno)

/-- Follows components from a place to the first link. -/
def advance (root : Node) (names : List String) : List String → Reach
  | [] =>
    match root.at? names with
    | some node => .done names node
    | none => .failed .noEntry
  | name :: rest =>
    match root.at? names with
    | some (.directory entries) =>
      if name = "." then advance root names rest
      else if name = ".." then advance root names.dropLast rest
      else if componentLimit < name.utf8ByteSize then .failed .nameTooLong
      else
        match entries.lookup name with
        | none => .failed .noEntry
        | some (.link target) =>
          -- A relative target is followed from the directory of the link.
          .detour (if startsWith "/" target then [] else names) (steps target ++ rest)
        | some _ => advance root (names ++ [name]) rest
    | some _ => .failed .notDirectory
    | none => .failed .noEntry

/-- Follows components from a place through at most `links - 1` links. -/
def followWithin (root : Node) (links : Nat) (names todo : List String) :
    Except Errno (List String × Node) :=
  match links with
  | 0 => .error .loop
  | links + 1 =>
    match advance root names todo with
    | .done names node => .ok (names, node)
    | .detour names todo => followWithin root links names todo
    | .failed errno => .error errno

/-- Where components lead from a place, and what is there. -/
def follow (root : Node) (names todo : List String) : Except Errno (List String × Node) :=
  followWithin root (linkLimit + 1) names todo

/-- Whether a path is longer than the system takes. -/
def tooLong (path : Path) : Bool := pathLimit < path.text.utf8ByteSize

mutual

/-- The paths of the files and links below a directory, those of a directory in the order of its
names, with what is there. A directory whose path is too long is not entered and stands for itself. -/
def leaves (path : Path) : Node → List (Path × Node)
  | .directory entries =>
    ((leavesOf path entries).mergeSort fun a b => precedes a.1 b.1).flatMap (·.2)
  | .file content => [(path, .file content)]
  | .link target => [(path, .link target)]

/-- For each entry of a directory its name and its leaves. -/
def leavesOf (path : Path) : List (String × Node) → List (String × List (Path × Node))
  | [] => []
  | (name, node) :: rest =>
    let child := path.child name
    (name, if tooLong child then [(child, node)] else leaves child node) :: leavesOf path rest

end

/-- The node with another node at a place, which must be in an existing directory. -/
def put (node : Node) (names : List String) (new : Node) : Node :=
  match names with
  | [] => new
  | name :: rest =>
    let child := ((node.entry? name).getD (.directory [])).put rest new
    if (node.entry? name).isSome then
      .directory (node.entries.map fun e => if e.1 = name then (name, child) else e)
    else .directory (node.entries ++ [(name, child)])

/-- The node without what is at a place. -/
def remove (node : Node) (names : List String) : Node :=
  match names with
  | [] => node
  | [name] => .directory (node.entries.filter fun e => e.1 ≠ name)
  | name :: rest =>
    match node.entry? name with
    | some child =>
      .directory (node.entries.map fun e => if e.1 = name then (name, child.remove rest) else e)
    | none => node

end Node

/-- Why the system does not follow a path. -/
inductive PathError where
  /-- The path holds a NUL character. -/
  | nul
  /-- The system refuses. -/
  | refused (errno : Errno)
  deriving DecidableEq, Repr

/-- A tree of files with a current directory, which is given by the names from the root. -/
structure Disk where
  root : Node
  cwd : List String
  /-- How often more than once a walk that leads back to its start is let through it before it is stopped. -/
  rounds : Nat

namespace Disk

/-- Where a text leads as a path, and what is there. -/
def resolveText (disk : Disk) (text : String) : Except PathError (List String × Node) :=
  if text.toList.contains '\x00' then .error .nul
  else if Node.pathLimit < text.utf8ByteSize then .error (.refused .nameTooLong)
  else if text = "" then .error (.refused .noEntry)
  else
    let start := if startsWith "/" text then [] else disk.cwd
    (disk.root.follow start (Node.steps text)).mapError .refused

/-- Where a path leads, and what is there. -/
def resolve (disk : Disk) (path : Path) : Except PathError (List String × Node) :=
  disk.resolveText path.text

/-- Whether what a path leads to has a property. A path that leads nowhere has none, unless it is too
long, which is an error. -/
def check (disk : Disk) (property : Node → Bool) (path : Path) : Except SystemError Bool :=
  match disk.resolve path with
  | .ok (_, node) => .ok (property node)
  | .error (.refused .nameTooLong) => .error (.refused .nameTooLong path.text)
  | .error _ => .ok false

/-- Whether a path leads to a directory. -/
def isDirectory (disk : Disk) (path : Path) : Except SystemError Bool :=
  disk.check (fun node => match node with | .directory _ => true | _ => false) path

/-- Whether a path leads to a regular file. -/
def isFile (disk : Disk) (path : Path) : Except SystemError Bool :=
  disk.check (fun node => match node with | .file _ => true | _ => false) path

/-- Why a file cannot be opened. -/
inductive OpenError where
  /-- The path holds a NUL character. -/
  | nul
  /-- The system refuses. -/
  | system (error : SystemError)
  deriving DecidableEq, Repr

/-- The error of an operation on a path. -/
def OpenError.on (path : Path) : PathError → OpenError
  | .nul => .nul
  | .refused errno => .system (.refused errno path.text)

/-- The content of the file at a path. -/
def content (disk : Disk) (path : Path) : Except OpenError Content :=
  match disk.resolve path with
  | .ok (_, .file content) => .ok content
  | .ok _ => .error (.system (.refused .isDirectory path.text))
  | .error error => .error (.on path error)

/-- What a walk comes to. -/
inductive Found where
  /-- A file. -/
  | file (path : Path)
  /-- An error, which ends the walk. -/
  | error (error : OpenError)
  deriving DecidableEq, Repr

/-- What a walk comes to at a leaf: links are followed to files but not to directories, and a path
that is too long is refused. -/
def visit (disk : Disk) (leaf : Path × Node) : List Found :=
  if Node.tooLong leaf.1 then [.error (.system (.refused .nameTooLong leaf.1.text))]
  else
    match leaf.2 with
    | .link _ =>
      match disk.isFile leaf.1 with
      | .ok true => [.file leaf.1]
      | .ok false => []
      | .error error => [.error (.system error)]
    | _ => [.file leaf.1]

/-- What a walk below a directory comes to: the files in order, and the error that cuts it short. -/
def walk (disk : Disk) (path : Path) : List Found :=
  match disk.resolve path with
  | .ok (_, .directory entries) =>
    (Node.leaves path (.directory entries)).flatMap (disk.visit ·)
  | .ok _ => [.error (.system (.refused .notDirectory path.text))]
  | .error error => [.error (.on path error)]

/-! ### Changes -/

/-- The place that a path names, the directories on the way to it made where they are missing. -/
def place (disk : Disk) (path : Path) : Disk × List String :=
  let start := if path.isAbsolute then [] else disk.cwd
  -- Links on the way are followed, so that the place is where they lead.
  let (root, names) := path.names.dropLast.foldl (fun (root, names) name =>
    match root.follow names [name] with
    | .ok (names, _) => (root, names)
    | .error _ => (root.put (names ++ [name]) (.directory []), names ++ [name]))
    (disk.root, start)
  ({ disk with root := root }, names ++ path.names.getLast?.toList)

/-- The tree with a node at a path. -/
def put (disk : Disk) (path : Path) (node : Node) : Disk :=
  let (disk, names) := disk.place path
  { disk with root := disk.root.put names node }

/-- The tree with a directory at a path, unless there is one. -/
def makeDirectory (disk : Disk) (path : Path) : Disk :=
  match disk.isDirectory path with
  | .ok true => disk
  | _ => disk.put path (.directory [])

/-- The tree without what is at a path. -/
def remove (disk : Disk) (path : Path) : Disk :=
  let (placed, names) := disk.place path
  { disk with root := placed.root.remove names }

/-- The tree with another current directory, unless the path leads to none. -/
def change (disk : Disk) (path : Path) : Disk :=
  match disk.resolve path with
  | .ok (names, .directory _) => { disk with cwd := names }
  | _ => disk

end Disk

end Lookup.Files
