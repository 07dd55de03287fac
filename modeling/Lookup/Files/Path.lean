import Lookup.Text.Basic

/-!
# Paths

A path is a sequence of components, relative or starting at the root. Empty components and single
dots are dropped when a text is read as a path; components that step back are kept, since what they
mean depends on symbolic links. A path that starts with exactly two slashes keeps both.

## Main definitions

* `Path`, `Path.ofText`, `Path.text` — paths and their text
* `Path.append` — a path below another
* `Path.components` — the components, the root being the first
* `Path.absolute` — a path made absolute, components that step back taken away

## Main results

* `Path.isAbsolute_absolute`, `Path.dotdot_notMem_settle` — what making a path absolute achieves
-/

namespace Lookup.Files

/-- What a path starts from. -/
inductive Root where
  /-- The current directory. -/
  | here
  /-- The root. -/
  | slash
  /-- The root, written with two slashes. -/
  | slashes
  deriving DecidableEq, Repr

/-- The text of a path's start. -/
def Root.text : Root → String
  | .here => ""
  | .slash => "/"
  | .slashes => "//"

/-- A path. -/
structure Path where
  root : Root
  names : List String
  deriving DecidableEq, Repr

/-- What a text starts from when it is read as a path. -/
def Root.ofText (text : List Char) : Root :=
  match (text.takeWhile fun c => c = '/').length with
  | 0 => .here
  | 2 => .slashes
  | _ => .slash

namespace Path

/-- The current directory. -/
def here : Path := ⟨.here, []⟩

/-- The path of a text. -/
def ofText (text : String) : Path :=
  let names := (Text.split '/' text).filter fun name => name ≠ "" ∧ name ≠ "."
  ⟨Root.ofText text.toList, names⟩

/-- The text of a path; a dot for the current directory. -/
def text (path : Path) : String :=
  if path.root = .here ∧ path.names = [] then "."
  else path.root.text ++ String.intercalate "/" path.names

/-- Whether a path starts at the root. -/
def isAbsolute (path : Path) : Bool := path.root ≠ .here

/-- A path seen from another: an absolute path stays as it is. -/
def append (base path : Path) : Path :=
  if path.isAbsolute then path else ⟨base.root, base.names ++ path.names⟩

/-- The path of a name in a directory. -/
def child (path : Path) (name : String) : Path := ⟨path.root, path.names ++ [name]⟩

/-- The components of a path, its root being the first. -/
def components (path : Path) : List String :=
  if path.isAbsolute then path.root.text :: path.names else path.names

/-- The path with the given components. -/
def ofComponents : List String → Path
  | [] => here
  | first :: rest =>
    let start := ofText first
    ⟨start.root, start.names ++ rest⟩

/-- The components without those that step back, each of which takes away the one before it. -/
def settle (names : List String) : List String :=
  (names.foldl (fun done name => if name = ".." then done.tail else name :: done) []).reverse

theorem dotdot_notMem_settle (names : List String) : ".." ∉ settle names := by
  have kept : ∀ (names done : List String), ".." ∉ done →
      ".." ∉ names.foldl (fun done name => if name = ".." then done.tail else name :: done) done := by
    intro names
    induction names with
    | nil => exact fun _ h => h
    | cons name rest ih =>
      intro done h
      rw [List.foldl_cons]
      refine ih _ ?_
      split
      · exact fun hmem => h (List.mem_of_mem_tail hmem)
      · next hname => exact List.not_mem_cons_of_ne_of_not_mem (Ne.symm hname) h
  rw [settle, List.mem_reverse]
  exact kept names [] (List.not_mem_nil)

/-- A path made absolute by the current directory `cwd`, components that step back taken away. -/
def absolute (cwd : List String) (path : Path) : Path :=
  if path.isAbsolute then ⟨path.root, settle path.names⟩
  else ⟨.slash, settle (cwd ++ path.names)⟩

@[simp] theorem isAbsolute_absolute (cwd : List String) (path : Path) :
    (path.absolute cwd).isAbsolute = true := by
  by_cases h : path.isAbsolute
  · rwa [absolute, if_pos h]
  · rw [absolute, if_neg h]
    rfl

theorem append_of_isAbsolute (base : Path) {path : Path} (h : path.isAbsolute = true) :
    base.append path = path := if_pos h

end Path

end Lookup.Files
