import Lookup.Proofs.Files.Path
import Lookup.Proofs.Uri.Read
import Lookup.Resource.Mount

/-!
# Which locations are absolute

A location that is accepted names a file by a URI, and a location that is not is malformed. That the path
of the URI is absolute is not checked: it only must not be empty. A path without a slash in front, which a
host would have required, is accepted and is relative. All other paths that are accepted are absolute.

## Main definitions

* `IsRelativeFile`, `IsRelativeLocation` — URIs of files, and locations, with a path that is not rooted
* `Mount.path` — the directory or the archive of a mount

## Main results

* `filePath_isAbsolute_iff` — which URIs name an absolute path
* `Mount.ofLocation_isAbsolute_iff` — which locations have an absolute path
-/

namespace Lookup

open Files Text

variable {uri rest : List Char} {location package : String}

/-! ### Files -/

/-- The URI of a file has a path, and the path does not start with a slash. -/
def IsRelativeFile (uri : List Char) : Prop :=
  ∃ scheme rest, Uri.cleaned uri = scheme ++ ':' :: rest ∧ scheme.map Char.toLower = fileScheme ∧
    Uri.pathPart rest ≠ [] ∧ ¬ Uri.HasSlashFirst (Uri.pathPart rest)

theorem isRelativeFile_iff :
    IsRelativeFile uri ↔ (Uri.takeScheme (Uri.cleaned uri)).1 = fileScheme ∧
      Uri.pathPart (Uri.takeScheme (Uri.cleaned uri)).2 ≠ [] ∧
      ¬ Uri.HasSlashFirst (Uri.pathPart (Uri.takeScheme (Uri.cleaned uri)).2) := by
  have hfile : ∀ {text rest : List Char}, Uri.takeScheme text = (fileScheme, rest) ↔
      ∃ written, text = written ++ ':' :: rest ∧ written.map Char.toLower = fileScheme :=
    Uri.takeScheme_eq_iff (by decide) (by simp [fileScheme])
  constructor
  · rintro ⟨scheme, rest, huri, hscheme, hpath⟩
    rw [hfile.2 ⟨scheme, huri, hscheme⟩]
    exact ⟨rfl, hpath⟩
  · rintro ⟨hscheme, hpath⟩
    obtain ⟨written, huri, hwritten⟩ := hfile.1 (Prod.ext hscheme rfl)
    exact ⟨written, _, huri, hwritten, hpath⟩

/-- A host stands before a path with a slash in front, so without a slash there is none. -/
theorem takeHost_of_not_hasSlashFirst (h : ¬ Uri.HasSlashFirst (Uri.pathPart rest)) :
    Uri.takeHost rest = ([], rest) := by
  refine Uri.takeHost_of_not_prefix ?_
  rintro ⟨more, rfl⟩
  exact h (Uri.hasSlashFirst_iff.2 (.inl rfl))

/-- A URI is taken for a file if it has the scheme, an own host, and a path. -/
theorem filePath_eq_ok_iff {path : Path} :
    filePath uri = .ok path ↔ ∃ parts, Uri.read uri = .ok parts ∧
      (parts.scheme = String.ofList fileScheme ∧ parts.host ∈ ["", "localhost"] ∧ parts.path ≠ "") ∧
      path = Path.ofText (String.ofList (Uri.decodePercent parts.path.toList)) := by
  rw [filePath]
  cases Uri.read uri with
  | error fault =>
    refine iff_of_false nofun ?_
    rintro ⟨parts, hread, -⟩
    cases hread
  | ok parts =>
    simp only [Except.ok.injEq, exists_eq_left']
    split_ifs with hparts
    · exact ⟨fun h => ⟨hparts, (Except.ok.inj h).symm⟩, fun h => congrArg _ h.2.symm⟩
    · exact iff_of_false nofun fun h => hparts h.1

/-- A URI that is not taken for a file is malformed. -/
theorem filePath_error {error : ResourceError} (h : filePath uri = .error error) :
    ∃ fault, error = .malformed (String.ofList uri) fault := by
  rw [filePath] at h
  split at h
  · exact ⟨_, (Except.error.inj h).symm⟩
  · split at h
    · cases h
    · exact ⟨_, (Except.error.inj h).symm⟩

/-- A URI of a file without a slash in front of its path is taken all the same. -/
theorem exists_filePath_of_isRelativeFile (h : IsRelativeFile uri) :
    ∃ path, filePath uri = .ok path := by
  obtain ⟨hscheme, hne, hslash⟩ := isRelativeFile_iff.1 h
  have hhost := takeHost_of_not_hasSlashFirst hslash
  refine ⟨_, filePath_eq_ok_iff.2 ⟨_, Uri.read_eq_ok_iff.2 ⟨?_, rfl⟩, ⟨?_, ?_, ?_⟩, rfl⟩⟩
  · rw [hhost]
    exact ⟨rfl, rfl⟩
  · rw [hscheme]
  · rw [hhost]
    exact List.mem_cons_self
  · rw [hhost]
    simpa using hne

/-- A decoded path is absolute exactly if a slash stands in front of the encoded one. -/
theorem isAbsolute_decodePercent_iff {path : List Char} :
    (Path.ofText (String.ofList (Uri.decodePercent path))).isAbsolute = true ↔ Uri.HasSlashFirst path := by
  rw [Path.isAbsolute_ofText_iff, String.toList_ofList, ← List.head?_eq_some_iff,
    Uri.head?_decodePercent_eq_slash_iff]

/-- The path that a URI names is absolute exactly if a slash stands in front of it. -/
theorem filePath_isAbsolute_iff {path : Path} (h : filePath uri = .ok path) :
    path.isAbsolute = true ↔ ¬ IsRelativeFile uri := by
  obtain ⟨parts, hread, ⟨hscheme, -, hpath⟩, rfl⟩ := filePath_eq_ok_iff.1 h
  obtain ⟨-, rfl⟩ := Uri.read_eq_ok_iff.1 hread
  have hne : Uri.pathPart (Uri.takeHost (Uri.takeScheme (Uri.cleaned uri)).2).2 ≠ [] := by
    simpa using hpath
  have hrelative : IsRelativeFile uri ↔ _ := isRelativeFile_iff
  simp only [String.ofList_inj.1 hscheme, true_and] at hrelative
  rw [String.toList_ofList, isAbsolute_decodePercent_iff, hrelative]
  -- What stands behind the scheme is the path, unless there is a host in front of it.
  generalize (Uri.takeScheme (Uri.cleaned uri)).2 = rest at hne ⊢
  by_cases hslashes : "//".toList <+: rest
  · have hfirst := Uri.head?_pathPart_takeHost hslashes hne
    obtain ⟨more, rfl⟩ := hslashes
    exact iff_of_true (Uri.hasSlashFirst_iff.2 (.inl hfirst))
      fun h => h.2 (Uri.hasSlashFirst_iff.2 (.inl rfl))
  · rw [Uri.takeHost_of_not_prefix hslashes] at hne ⊢
    simp [hne]

/-! ### Mounts -/

/-- The directory or the archive of a mount. -/
def Mount.path : Mount → Path
  | .directory mount => mount.root
  | .archive mount => mount.archive

/-- The URI of a file in a location: all of it for a directory, what stands before the separator for an
archive. -/
def mountUri? (location : String) : Option (List Char) :=
  match cut ':' location.toList with
  | none => none
  | some (scheme, rest) =>
    if scheme = fileScheme then some location.toList
    else if scheme = archiveScheme then (cutAt archiveSeparator rest).map (·.1)
    else none

/-- The URI in a location is that of a file without a slash in front of its path. -/
def IsRelativeLocation (location : String) : Prop := ∃ uri ∈ mountUri? location, IsRelativeFile uri

/-- A location is malformed, or it is that of the path which its URI names. -/
theorem Mount.ofLocation_cases (location package : String) :
    (mountUri? location = none ∧
      ∃ fault, Mount.ofLocation location package = .error (.malformed location fault)) ∨
    ∃ uri, mountUri? location = some uri ∧
      ((∃ error, filePath uri = .error error ∧ Mount.ofLocation location package = .error error) ∨
        ∃ mount, filePath uri = .ok mount.path ∧ Mount.ofLocation location package = .ok mount) := by
  rw [mountUri?, Mount.ofLocation]
  match hcut : cut ':' location.toList with
  | none => exact .inl ⟨rfl, _, rfl⟩
  | some (scheme, rest) =>
    simp only
    split_ifs with hfile harchive
    · refine .inr ⟨_, rfl, ?_⟩
      rw [DirectoryMount.ofLocation]
      match filePath location.toList with
      | .error error => exact .inl ⟨error, rfl, rfl⟩
      | .ok root => exact .inr ⟨.directory _, rfl, rfl⟩
    · have hrest : location.toList.drop (archiveScheme.length + 1) = rest := by
        rw [(cut_eq_some_iff.1 hcut).2, harchive]
        rfl
      rw [ArchiveMount.ofLocation, hrest]
      match cutAt archiveSeparator rest with
      | none => exact .inl ⟨rfl, .missingSeparator, by rw [String.ofList_toList]; rfl⟩
      | some (uri, inner) =>
        refine .inr ⟨uri, rfl, ?_⟩
        simp only
        match filePath uri with
        | .error error => exact .inl ⟨error, rfl, rfl⟩
        | .ok path => exact .inr ⟨.archive _, rfl, rfl⟩
    · exact .inl ⟨rfl, _, rfl⟩

/-- Every location is malformed or has a mount. The path of a mount is absolute unless the URI in the
location is that of a file without a slash in front of its path, and no such location is malformed. -/
theorem Mount.ofLocation_isAbsolute_iff (location package : String) :
    (¬ IsRelativeLocation location ∧
      ∃ text fault, Mount.ofLocation location package = .error (.malformed text fault)) ∨
    ∃ mount, Mount.ofLocation location package = .ok mount ∧
      (mount.path.isAbsolute = true ↔ ¬ IsRelativeLocation location) := by
  rcases Mount.ofLocation_cases location package with
    ⟨hnone, fault, hmount⟩ | ⟨uri, huri, houtcome⟩
  · have hrelative : ¬ IsRelativeLocation location := by simp [IsRelativeLocation, hnone]
    exact .inl ⟨hrelative, location, fault, hmount⟩
  have hrelative : IsRelativeLocation location ↔ IsRelativeFile uri := by
    simp [IsRelativeLocation, huri]
  rw [hrelative]
  rcases houtcome with ⟨error, herror, hmount⟩ | ⟨mount, hpath, hmount⟩
  · obtain ⟨fault, rfl⟩ := filePath_error herror
    refine .inl ⟨fun h => ?_, _, fault, hmount⟩
    obtain ⟨path, hpath⟩ := exists_filePath_of_isRelativeFile h
    rw [hpath] at herror
    cases herror
  · exact .inr ⟨mount, hmount, filePath_isAbsolute_iff hpath⟩

theorem isRelativeFile_foo : IsRelativeFile "file:foo".toList :=
  ⟨"file".toList, "foo".toList, rfl, rfl, by decide, by decide⟩

/-- A directory and an archive that are accepted although their paths are relative. -/
theorem Mount.ofLocation_isAbsolute_iff_foo :
    (∃ mount, Mount.ofLocation "file:foo" "" = .ok mount ∧ mount.path.isAbsolute = false) ∧
    ∃ mount, Mount.ofLocation "zip:file:foo!/a" "a" = .ok mount ∧ mount.path.isAbsolute = false := by
  have hrelative : ∀ location package, IsRelativeLocation location →
      ∃ mount, Mount.ofLocation location package = .ok mount ∧ mount.path.isAbsolute = false := by
    intro location package h
    rcases Mount.ofLocation_isAbsolute_iff location package with ⟨hnot, -⟩ | ⟨mount, hmount, hiff⟩
    · exact absurd h hnot
    · exact ⟨mount, hmount, Bool.eq_false_iff.2 fun habsolute => hiff.1 habsolute h⟩
  exact ⟨hrelative "file:foo" "" ⟨_, rfl, isRelativeFile_foo⟩,
    hrelative "zip:file:foo!/a" "a" ⟨_, rfl, isRelativeFile_foo⟩⟩

end Lookup
