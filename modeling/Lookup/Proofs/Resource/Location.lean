import Mathlib.Data.List.TakeWhile
import Lookup.Proofs.Except
import Lookup.Proofs.Resource.Package
import Lookup.Proofs.Uri.Percent
import Lookup.Resource.SearchPath

/-!
# Locations and their mounts

The location of a package in an entry of the search path is written by one function and read by
another. A directory is written as a URI in which each special character is encoded, so it is read
back as it is. An archive is written in the same way, but the package inside it is not encoded and yet
decoded, so it is read back only if it has no escape. The base from which names are reckoned loses one
slash of either kind at its end.

## Main definitions

* `archiveLocation` — the location of a package in an archive
* `ReadsBack` — what a location is read as, and when that is what it was made from

## Main results

* `filePath_fileUri` — a path is read back from its URI
* `mountLocations_readsBack` — every location of a package is read back
-/

namespace Lookup

open Files Text

/-! ### Files -/

/-- The URI of a file is read as its path. -/
theorem Uri.read_file {path : List Char} (h : ∀ c ∈ path, Uri.isPlain c = true ∨ c = '%') :
    Uri.read ("file://".toList ++ '/' :: path) = .ok ⟨"file", "", String.ofList ('/' :: path)⟩ := by
  -- No character occurs that is dropped from a URI or that ends its path.
  have hchars : ∀ c ∈ '/' :: path, c ∉ ['\t', '\r', '\n', '?', '#'] := by
    intro c hc hmem
    have hspecial : ∀ d ∈ ['\t', '\r', '\n', '?', '#'], Uri.isPlain d = false ∧ d ≠ '%' ∧ d ≠ '/' := by
      simp [Uri.isPlain]
    obtain ⟨hplain, hpercent, hslash⟩ := hspecial c hmem
    rcases List.mem_cons.1 hc with hc | hc
    · exact hslash hc
    rcases h c hc with hc | hc
    · exact absurd hc (by simp [hplain])
    · exact hpercent hc
  have hpath : ('/' :: path).filter (fun c => c ∉ ['\t', '\r', '\n']) = '/' :: path := by
    rw [List.filter_eq_self]
    exact fun c hc => decide_eq_true fun hmem =>
      hchars c hc (List.mem_append_left ['?', '#'] hmem)
  have hfilter : ("file://".toList ++ '/' :: path).filter (fun c => c ∉ ['\t', '\r', '\n']) =
      "file://".toList ++ '/' :: path := by
    rw [List.filter_append, hpath]
    rfl
  have htake : ('/' :: path).takeWhile (fun c => c ∉ ['?', '#']) = '/' :: path := by
    rw [List.takeWhile_eq_self_iff]
    exact fun c hc => decide_eq_true fun hmem =>
      hchars c hc (List.mem_append_right ['\t', '\r', '\n'] hmem)
  have hdrop : ("file://".toList ++ '/' :: path).dropWhile (fun c => c.toNat ≤ 32) =
      "file://".toList ++ '/' :: path := rfl
  have hscheme : Uri.takeScheme ("file://".toList ++ '/' :: path) =
      ("file".toList, "//".toList ++ '/' :: path) := rfl
  have hhost : Uri.takeHost ("//".toList ++ '/' :: path) = ([], '/' :: path) := rfl
  have hfault : Uri.hostFault? [] = none := rfl
  have hequivalent : Uri.equivalentFault? [] = none := rfl
  simp only [Uri.read, hdrop, hfilter, hscheme, hhost, hfault, hequivalent, htake]
  rfl

theorem toList_fileUri (path : Path) :
    (fileUri path).toList = "file://".toList ++ Uri.encodePercent path.text.toList := by
  simp [fileUri]

/-- A path is read back from its URI. -/
theorem filePath_fileUri {path : Path} (h : path.IsNormal) :
    filePath (fileUri path).toList = .ok path := by
  obtain ⟨rest, hrest⟩ := Path.exists_toList_text_eq_cons h.isAbsolute
  have hread : Uri.read ("file://".toList ++ '/' :: Uri.encodePercent rest) =
      .ok ⟨"file", "", String.ofList ('/' :: Uri.encodePercent rest)⟩ :=
    Uri.read_file fun _ => Uri.isPlain_or_eq_of_mem_encodePercent
  have hdecode : Uri.decodePercent ('/' :: Uri.encodePercent rest) = path.text.toList := by
    rw [← Uri.encodePercent_cons_slash, ← hrest, Uri.decodePercent_encodePercent]
  have hparts : "file" = String.ofList fileScheme ∧ "" ∈ ["", "localhost"] ∧
      String.ofList ('/' :: Uri.encodePercent rest) ≠ "" :=
    ⟨rfl, by decide, fun hempty => by simpa using congrArg String.toList hempty⟩
  rw [toList_fileUri, hrest, Uri.encodePercent_cons_slash]
  simp only [filePath, hread]
  rw [if_pos hparts, String.toList_ofList, hdecode, String.ofList_toList, Path.ofText_text h]

/-! ### Directories -/

variable {entry : Path} {package : String}

theorem ofText_root_text {root : Root} (h : root ≠ .here) : Path.ofText root.text = ⟨root, []⟩ := by
  match root with
  | .here => exact absurd rfl h
  | .slash => rfl
  | .slashes => rfl

/-- A path is made up again of its components. -/
theorem ofComponents_components {path : Path} (h : path.isAbsolute = true) :
    Path.ofComponents path.components = path := by
  have hroot : path.root ≠ .here := by simpa [Path.isAbsolute] using h
  rw [Path.components, if_pos h, Path.ofComponents, ofText_root_text hroot, List.nil_append]

/-- Taking away as many components as a path goes down leads back up. -/
theorem keepComponents_below (h : entry.isAbsolute = true) (names : List String) :
    keepComponents (entry.below names).components names.length = entry.components := by
  have hbelow : (entry.below names).isAbsolute = true := h
  have hcount : (entry.below names).components.length = entry.components.length + names.length := by
    rw [Path.components, if_pos hbelow, Path.components, if_pos h]
    simp [Path.below]
    omega
  have htake : (entry.below names).components = entry.components ++ names := by
    rw [Path.components, if_pos hbelow, Path.components, if_pos h]
    rfl
  rw [keepComponents, if_pos (by omega), hcount, Nat.add_sub_cancel, htake, List.take_left']
  rfl

theorem length_fields_packagePath (package : String) :
    ((fields '/' (packagePath package).toList).filter fun part => part ≠ []).length =
      (packageNames package).length := by
  rw [fields_packagePath, packageNames, List.length_map]

/-- From the directory of a package in another one the way leads back to that one. -/
theorem basePath_below (h : entry.isAbsolute = true) (package : String) :
    DirectoryMount.basePath (entry.below (packageNames package)) (packagePath package) = entry := by
  simp only [DirectoryMount.basePath, length_fields_packagePath, keepComponents_below h,
    ofComponents_components h]
  split
  · next hnone => rw [List.length_eq_zero_iff.1 hnone, Path.below_nil]
  · rfl

/-- The location of a package in a directory is read as that directory. -/
theorem directoryMount_ofLocation (hentry : entry.IsNormal) (package : String) :
    DirectoryMount.ofLocation (fileUri (entry.below (packageNames package))).toList
        (packagePath package) =
      .ok ⟨entry.below (packageNames package), dropTrailingSlash entry.text⟩ := by
  have hroot : (entry.below (packageNames package)).IsNormal :=
    hentry.below fun _ => isComponent_packageNames
  rw [DirectoryMount.ofLocation, filePath_fileUri hroot]
  dsimp only
  rw [basePath_below hentry.isAbsolute]

theorem cut_fileUri (path : Path) :
    cut ':' (fileUri path).toList = some (fileScheme, "//".toList ++ Uri.encodePercent path.text.toList) := by
  rw [toList_fileUri]
  have hmark : ':' ∉ fileScheme := by decide
  exact cut_append hmark

theorem mount_ofLocation_directory (hentry : entry.IsNormal) (package : String) :
    Mount.ofLocation (fileUri (entry.below (packageNames package))) (packagePath package) =
      .ok (.directory
        ⟨entry.below (packageNames package), dropTrailingSlash entry.text⟩) := by
  rw [Mount.ofLocation, cut_fileUri]
  simp only [if_true, directoryMount_ofLocation hentry]
  rfl

/-! ### Archives -/

/-- The location of a package in an archive. -/
def archiveLocation (entry : Path) (package : String) : String :=
  String.ofList archiveScheme ++ ":" ++ fileUri entry ++ String.ofList archiveSeparator ++
    packagePath package

/-- The location of an archive itself, without the package. -/
def archiveBase (entry : Path) : String :=
  String.ofList (archiveScheme ++ ':' :: (fileUri entry).toList ++ ['!'])

theorem toList_archiveLocation (entry : Path) (package : String) :
    (archiveLocation entry package).toList =
      archiveScheme ++ ':' :: ((fileUri entry).toList ++ archiveSeparator ++
        (packagePath package).toList) := by
  simp [archiveLocation]

/-- The location of a package in an archive is read as that archive, and what is inside is decoded. -/
theorem mount_ofLocation_archive (hentry : entry.IsNormal) (package : String) :
    Mount.ofLocation (archiveLocation entry package) (packagePath package) =
      .ok (.archive ⟨entry, archiveBase entry, String.ofList
        (trimBoth (fun c => c = '/') (Uri.decodePercent (packagePath package).toList))⟩) := by
  -- The exclamation mark is encoded in the URI, so the first one belongs to the separator.
  have hmark : '!' ∉ (fileUri entry).toList := by
    rw [toList_fileUri, List.mem_append, not_or]
    exact ⟨by decide, Uri.notMem_encodePercent (by decide) (by decide) _⟩
  have hcut : cut ':' (archiveLocation entry package).toList = some (archiveScheme,
      (fileUri entry).toList ++ archiveSeparator ++ (packagePath package).toList) := by
    rw [toList_archiveLocation]
    exact cut_append (by decide)
  have hdrop : (archiveLocation entry package).toList.drop (archiveScheme.length + 1) =
      (fileUri entry).toList ++ archiveSeparator ++ (packagePath package).toList := by
    rw [toList_archiveLocation]
    rfl
  have hcutAt : cutAt archiveSeparator
      ((fileUri entry).toList ++ archiveSeparator ++ (packagePath package).toList) =
        some ((fileUri entry).toList, (packagePath package).toList) := cutAt_append hmark
  rw [Mount.ofLocation, hcut]
  simp only
  rw [if_neg (by decide), if_pos trivial, ArchiveMount.ofLocation, hdrop, hcutAt]
  simp only [filePath_fileUri hentry]
  rfl

/-! ### Locations of a package -/

variable {ε : Type} {disk : Disk} {activity : Activity} {location : String}

theorem candidate_eq_below (entry : Path) (package : String) :
    (if packagePath package = "" then entry else entry.append (Path.ofText (packagePath package))) =
      entry.below (packageNames package) := by
  split
  · next hempty => rw [packagePath_eq_empty_iff.1 hempty, Path.below_nil]
  · rw [ofText_packagePath, Path.append_relative]

/-- A directory holds a package if the directory of the package is below it. -/
theorem entryLocation?_directory (hentry : disk.isDirectory entry = .ok true) :
    (entryLocation? disk activity (packagePath package) entry : Except (Failure ε) _) =
      ((disk.isDirectory (entry.below (packageNames package))).mapError
        fun error => .during activity (.system error)).map
        fun found => if found then some (fileUri (entry.below (packageNames package))) else none := by
  simp only [entryLocation?, hentry, candidate_eq_below]
  match disk.isDirectory (entry.below (packageNames package)) with
  | .error _ => rfl
  | .ok true => rfl
  | .ok false => rfl

/-- An archive holds a package if it exposes it. -/
theorem entryLocation?_archive (hentry : disk.isDirectory entry = .ok false)
    (harchive : isArchive disk entry = .ok true) :
    (entryLocation? disk activity (packagePath package) entry : Except (Failure ε) _) =
      (openArchive disk activity entry).map fun archive =>
        if exposes archive (packagePath package) then some (archiveLocation entry package) else none := by
  simp only [entryLocation?, hentry, harchive, archiveLocation]

/-- An entry with a location is a directory with the directory of the package below it, or an archive
that exposes the package. -/
theorem entryLocation?_eq_some
    (h : entryLocation? disk activity (packagePath package) entry =
      (.ok (some location) : Except (Failure ε) _)) :
    (disk.isDirectory entry = .ok true ∧
      disk.isDirectory (entry.below (packageNames package)) = .ok true ∧
      location = fileUri (entry.below (packageNames package))) ∨
    (isArchive disk entry = .ok true ∧ location = archiveLocation entry package ∧
      ∃ archive, (openArchive disk activity entry : Except (Failure ε) _) = .ok archive ∧
        exposes archive (packagePath package) = true) := by
  match hentry : disk.isDirectory entry with
  | .error error => simp [entryLocation?, hentry] at h
  | .ok true =>
    rw [entryLocation?_directory hentry] at h
    match hbelow : disk.isDirectory (entry.below (packageNames package)), h with
    | .ok true, h =>
      obtain rfl : fileUri (entry.below (packageNames package)) = location := by
        simpa [Except.map, Except.mapError] using h
      exact .inl ⟨rfl, rfl, rfl⟩
    | .ok false, h => simp [Except.map, Except.mapError] at h
    | .error _, h => simp [Except.map, Except.mapError] at h
  | .ok false =>
    match harchive : isArchive disk entry with
    | .error error => simp [entryLocation?, hentry, harchive] at h
    | .ok false => simp [entryLocation?, hentry, harchive] at h
    | .ok true =>
      rw [entryLocation?_archive hentry harchive] at h
      match hopen : (openArchive disk activity entry : Except (Failure ε) _) with
      | .error _ => simp [hopen, Except.map] at h
      | .ok archive =>
        by_cases hexposes : exposes archive (packagePath package) = true
        · obtain rfl : archiveLocation entry package = location := by
            simpa [hopen, Except.map, hexposes] using h
          exact .inr ⟨rfl, rfl, archive, rfl, hexposes⟩
        · simp [hopen, Except.map, hexposes] at h

/-- The locations of a package are those of the entries that hold it, in order. -/
theorem exists_holders {entries locations : List String}
    (h : mountLocations disk entries package = (.ok locations : Except (Failure ε) _)) :
    ∃ holders, holders.Sublist (searchEntries disk entries) ∧
      List.Forall₂ (fun entry location =>
        entryLocation? disk (.enumerating package) (packagePath package) entry =
          (.ok (some location) : Except (Failure ε) _)) holders locations := by
  obtain ⟨found, hfound, rfl⟩ : ∃ found,
      (searchEntries disk entries).mapM
        (entryLocation? disk (.enumerating package) (packagePath package)) =
          (.ok found : Except (Failure ε) _) ∧ found.filterMap id = locations := by
    rw [mountLocations] at h
    match hfound : (searchEntries disk entries).mapM
        (entryLocation? disk (.enumerating package) (packagePath package) :
          Path → Except (Failure ε) _) with
    | .error _ => simp [hfound, Except.map] at h
    | .ok found => exact ⟨found, rfl, by simpa [hfound, Except.map] using h⟩
  have hall := forall₂_of_mapM_eq_ok hfound
  clear h hfound
  generalize searchEntries disk entries = items at hall ⊢
  induction hall with
  | nil => exact ⟨[], List.Sublist.slnil, .nil⟩
  | @cons entry location? rest found hentry _ ih =>
    obtain ⟨holders, hsub, hlocations⟩ := ih
    cases location? with
    | none => exact ⟨holders, hsub.cons entry, hlocations⟩
    | some location => exact ⟨entry :: holders, hsub.cons_cons entry, .cons hentry hlocations⟩

/-! ### Reading locations back -/

/-- The text without one character `c` at its end. -/
def dropFinal (c : Char) (text : String) : String :=
  if text.toList.getLast? = some c then String.ofList text.toList.dropLast else text

/-- A slash of either kind is dropped at the end of a text, so that no more than one slash is dropped
exactly if the text does not end in a backslash. -/
theorem dropTrailingSlash_eq_dropFinal_iff {text : String} :
    dropTrailingSlash text = dropFinal '/' text ↔ text.toList.getLast? ≠ some '\\' := by
  rw [dropTrailingSlash, dropFinal]
  conv_lhs => rw [← String.ofList_toList (s := text)]
  generalize text.toList = chars
  simp only [String.toList_ofList]
  rcases List.eq_nil_or_concat chars with rfl | ⟨chars, c, rfl⟩
  · simp [dropLeading]
  · rw [List.concat_eq_append, List.reverse_append, List.reverse_singleton, List.singleton_append,
      dropLeading, List.getLast?_concat, List.dropLast_concat]
    by_cases hslash : c = '/'
    · simp [isSlash, hslash]
    by_cases hback : c = '\\'
    · have hlonger : String.ofList chars ≠ String.ofList (chars ++ ['\\']) := fun h => by
        simpa using congrArg (fun text => text.toList.length) h
      simpa [isSlash, hback] using hlonger
    · simp [isSlash, hslash, hback]

/-- The package inside an archive is read back exactly if its path has no escape. -/
theorem ofList_trimBoth_decodePercent_eq_iff (package : String) :
    String.ofList (trimBoth (fun c => c = '/') (Uri.decodePercent (packagePath package).toList)) =
        packagePath package ↔ ¬ Uri.HasEscape (packagePath package).toList := by
  constructor
  · -- Trimming cannot make up for the length that an escape takes away.
    intro h hescape
    have hchars := congrArg (fun text => text.toList.length) h
    have htrim : (trimBoth (fun c => c = '/') (Uri.decodePercent (packagePath package).toList)).length ≤
        (Uri.decodePercent (packagePath package).toList).length := length_trimBoth_le _
    have hlt := Uri.length_decodePercent_lt hescape
    rw [String.toList_ofList] at hchars
    omega
  · intro h
    rw [Uri.decodePercent_eq_self_iff.2 h, trimBoth_packagePath, String.ofList_toList]

/-- A package without a percent sign has a path without an escape. -/
theorem not_hasEscape_packagePath (h : '%' ∉ package.toList) :
    ¬ Uri.HasEscape (packagePath package).toList := by
  rintro ⟨a, b, hpart, -, -⟩
  rcases mem_of_mem_packagePath (hpart.subset List.mem_cons_self) with hslash | hmem
  · exact absurd hslash (by decide)
  · exact h hmem

/-- What the location of a package in an entry of the search path is read as. -/
inductive ReadsBack (disk : Disk) (package : String) (entry : Path) (location : String) : Prop where
  /-- The location in a directory is read as the directory of the package. The base is the text of
  the entry without a slash at its end, provided that the text does not end in a backslash. -/
  | directory (base : String) (isDirectory : disk.isDirectory entry = .ok true)
      (read : Mount.ofLocation location (packagePath package) =
        .ok (.directory ⟨entry.append (Path.ofText (packagePath package)), base⟩))
      (exact_iff : base = dropFinal '/' entry.text ↔ entry.text.toList.getLast? ≠ some '\\')
  /-- The location in an archive is read as the archive. The directory inside is the path of the
  package, provided that the path has no escape. -/
  | archive (inner : String) (isArchive : isArchive disk entry = .ok true)
      (read : Mount.ofLocation location (packagePath package) =
        .ok (.archive ⟨entry, archiveBase entry, inner⟩))
      (exact_iff : inner = packagePath package ↔ ¬ Uri.HasEscape (packagePath package).toList)

theorem readsBack_of_entryLocation? (hentry : entry.IsNormal)
    (h : entryLocation? disk activity (packagePath package) entry =
      (.ok (some location) : Except (Failure ε) _)) : ReadsBack disk package entry location := by
  rcases entryLocation?_eq_some h with ⟨hdirectory, -, rfl⟩ | ⟨harchive, rfl, -⟩
  · refine .directory (dropTrailingSlash entry.text) hdirectory ?_ dropTrailingSlash_eq_dropFinal_iff
    rw [ofText_packagePath, Path.append_relative]
    exact mount_ofLocation_directory hentry package
  · exact .archive _ harchive (mount_ofLocation_archive hentry package)
      (ofList_trimBoth_decodePercent_eq_iff package)

/-- Every location that a package has along a search path is read as the directory or the archive
that it was made for, with the base and the directory inside as they were except for backslashes at
the end of an entry and escapes in the path of the package. -/
theorem mountLocations_readsBack {entries locations : List String}
    (hcwd : ∀ name ∈ disk.cwd, IsComponent name)
    (h : mountLocations disk entries package = (.ok locations : Except (Failure ε) _)) :
    ∃ holders, holders.Sublist (searchEntries disk entries) ∧
      List.Forall₂ (ReadsBack disk package) holders locations := by
  obtain ⟨holders, hsub, hlocations⟩ := exists_holders h
  refine ⟨holders, hsub, ?_⟩
  have hnormal : ∀ entry ∈ holders, entry.IsNormal := by
    intro entry hentry
    obtain ⟨text, -, rfl⟩ := List.mem_map.1 (hsub.subset hentry)
    exact Path.isNormal_absolute hcwd text
  clear h hsub
  induction hlocations with
  | nil => exact .nil
  | @cons entry location holders locations hentry _ ih =>
    exact .cons (readsBack_of_entryLocation? (hnormal entry List.mem_cons_self) hentry)
      (ih fun entry hentry => hnormal entry (List.mem_cons_of_mem _ hentry))

/-- A directory whose name ends in a backslash beside an archive, both with the package `a%41`. -/
def escapeDisk : Disk :=
  ⟨.directory
    [("d\\", .directory [("a%41", .directory [])]),
      ("z", .file ⟨[], some ⟨[.stored "a%41/x" []], none⟩⟩)], [], 0⟩

/-- Of two locations one loses the backslash of its entry and the other the escape of its package. -/
theorem mountLocations_readsBack_escapeDisk :
    ∃ holders, holders.Sublist (searchEntries escapeDisk ["d\\", "z"]) ∧
      List.Forall₂ (ReadsBack escapeDisk "a%41") holders
        ["file:///d%5C/a%2541", "zip:file:///z!/a%41"] :=
  have hlocations : mountLocations escapeDisk ["d\\", "z"] "a%41" =
      (.ok ["file:///d%5C/a%2541", "zip:file:///z!/a%41"] : Except (Failure Empty) _) := rfl
  mountLocations_readsBack (fun _ hname => absurd hname List.not_mem_nil) hlocations

end Lookup
