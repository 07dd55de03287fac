import Lookup.Proofs.Files.Traversal
import Lookup.Settings.Load
import Lookup.Time.Almanac
import Lookup.Yaml.Data

/-!
# Looking for the settings file

A settings file that the environment names is the only one that counts: if it is none, there is an error and
nothing else is tried. Where the environment names none, the first place for settings that leads to a file
counts, that of the user before those of the system.

An empty variable counts as unset where it would name the file itself. An empty directory of the user stands for
the current directory, though, and an empty list of system directories for no directories, so that the
default places are not looked at.

## Main definitions

* `IsTried`, `IsFirstOf` — how far a list of paths is tried, and what that comes to
* `IsSetTo` — a variable of the environment holds a text that is not empty
* `searchedPlaces` — the places for settings
* `IsSearch` — what looking for the settings file comes to
* `FailsOverrideCheck` — there is no file where the environment names one

## Main results

* `firstFile_isFirstOf` — the first path that leads to a file is taken
* `settingsPath_error_cases`, `loadSettings_error_cases` — how looking for settings and loading them fail
* `settingsPath_isSearch` — what looking comes to, and what empty variables do to it
-/

namespace Lookup

open Files Text

variable {ε : Type} {world : World} {path : Path} {paths : List Path}

/-! ### The first file of a list -/

/-- A path of a list is tried, since those before it lead to no file, and this is the answer. -/
def IsTried (disk : Disk) (paths : List Path) (path : Path) (answer : Except SystemError Bool) : Prop :=
  ∃ before after, paths = before ++ path :: after ∧ (∀ other ∈ before, disk.isFile other = .ok false) ∧
    disk.isFile path = answer

/-- What trying the paths of a list one after the other comes to. -/
structure IsFirstOf (disk : Disk) (paths : List Path) (result : Except (Failure ε) (Option Path)) :
    Prop where
  /-- A path that leads to a file is taken if none before it does. -/
  found_iff : ∀ path, result = .ok (some path) ↔ IsTried disk paths path (.ok true)
  /-- There is no file exactly if no path leads to one. -/
  none_iff : result = .ok none ↔ ∀ path ∈ paths, disk.isFile path = .ok false
  /-- A path that is too long for the system ends the search. -/
  refused_iff : ∀ failure, result = .error failure ↔ failure = .fault (.system .nameTooLong) ∧
    ∃ path error, IsTried disk paths path (.error error)

section

variable {disk : Disk} {first : Path} {answer : Except SystemError Bool}

theorem not_isTried_nil : ¬ IsTried disk [] path answer := by
  rintro ⟨before, after, hpaths, -⟩
  simp at hpaths

/-- The first path is always tried, and the others if it leads to no file. -/
theorem isTried_cons : IsTried disk (first :: paths) path answer ↔
    path = first ∧ disk.isFile first = answer ∨
      disk.isFile first = .ok false ∧ IsTried disk paths path answer := by
  constructor
  · rintro ⟨before, after, hpaths, hbefore, hanswer⟩
    cases before with
    | nil =>
      obtain ⟨rfl, rfl⟩ := List.cons.inj hpaths
      exact .inl ⟨rfl, hanswer⟩
    | cons other before =>
      obtain ⟨rfl, rfl⟩ := List.cons.inj hpaths
      obtain ⟨hfirst, hrest⟩ := List.forall_mem_cons.1 hbefore
      exact .inr ⟨hfirst, before, after, rfl, hrest, hanswer⟩
  · rintro (⟨rfl, hanswer⟩ | ⟨hfirst, before, after, rfl, hbefore, hanswer⟩)
    · exact ⟨[], paths, rfl, by simp, hanswer⟩
    · exact ⟨first :: before, after, rfl, List.forall_mem_cons.2 ⟨hfirst, hbefore⟩, hanswer⟩

theorem IsTried.mem (h : IsTried disk paths path answer) : path ∈ paths := by
  obtain ⟨before, after, rfl, -, -⟩ := h
  exact List.mem_append_right before List.mem_cons_self

end

theorem firstFile_cons_of_file (h : world.disk.isFile path = .ok true) :
    (firstFile world (path :: paths) : Except (Failure ε) _) = .ok (some path) := by
  rw [firstFile, checkFile, h]
  rfl

theorem firstFile_cons_of_none (h : world.disk.isFile path = .ok false) :
    (firstFile world (path :: paths) : Except (Failure ε) _) = firstFile world paths := by
  rw [firstFile, checkFile, h]
  rfl

theorem firstFile_cons_of_refused {error : SystemError} (h : world.disk.isFile path = .error error) :
    (firstFile world (path :: paths) : Except (Failure ε) _) =
      .error (.fault (.system .nameTooLong)) := by
  rw [firstFile, checkFile, h, Disk.isFile_eq_error h]
  rfl

/-- The first path of a list that leads to a file is taken. -/
theorem firstFile_isFirstOf (world : World) (paths : List Path) :
    IsFirstOf world.disk paths (firstFile world paths : Except (Failure ε) _) := by
  induction paths with
  | nil => constructor <;> simp [firstFile, not_isTried_nil]
  | cons first rest ih =>
    -- The first path decides, unless it leads to no file.
    rcases hfirst : world.disk.isFile first with error | _ | _
    · rw [firstFile_cons_of_refused hfirst]
      constructor
      · simp [isTried_cons, hfirst]
      · simp [hfirst]
      · simp [isTried_cons, hfirst, eq_comm]
    · rw [firstFile_cons_of_none hfirst]
      constructor
      · simp [isTried_cons, hfirst, ih.found_iff]
      · simp [hfirst, ih.none_iff]
      · simp [isTried_cons, hfirst, ih.refused_iff]
    · rw [firstFile_cons_of_file hfirst]
      constructor
      · simp [isTried_cons, hfirst, eq_comm]
      · simp [hfirst]
      · simp [isTried_cons, hfirst]

/-! ### Places -/

/-- A variable of the environment is set to a text that is not empty. -/
def IsSetTo (world : World) (name text : String) : Prop :=
  world.environment.get? name = some text ∧ text ≠ ""

/-- The text for the directory of the user's settings. -/
def userDirectoryText (world : World) : String :=
  (world.environment.get? "XDG_CONFIG_HOME").getD "~/.config"

/-- The text for the directories of the system's settings. -/
def systemDirectoriesText (world : World) : String :=
  (world.environment.get? "XDG_CONFIG_DIRS").getD "/etc/xdg"

/-- The places for settings of the system, given the list of its directories. -/
def systemPlaces (list : String) : List Path :=
  ((split ':' list).filter (· ≠ "")).map fun name => settingsFileIn (Path.ofText name)

/-- The places for settings, given the user's directory and the list of the system's directories. -/
def searchedPlaces (directory : Path) (list : String) : List Path :=
  settingsFileIn directory :: systemPlaces list

variable {text : String} {directory : Path}

theorem IsSetTo.overridePath_eq (h : IsSetTo world "AUTUMN_CONFIG" text) : overridePath world = text := by
  rw [overridePath, h.1, Option.getD_some]

theorem overridePath_eq_empty (h : ∀ text, ¬ IsSetTo world "AUTUMN_CONFIG" text) : overridePath world = "" := by
  rw [overridePath]
  cases hget : world.environment.get? "AUTUMN_CONFIG" with
  | none => rfl
  | some text => exact not_not.1 fun hne => h text ⟨hget, hne⟩

theorem settingsPlaces_of_named (hset : IsSetTo world "AUTUMN_CONFIG" text)
    (hpath : world.expandHome (Path.ofText text) = some path) :
    (settingsPlaces world : Except (Failure ε) _) = .ok [path] := by
  rw [settingsPlaces, hset.overridePath_eq, if_pos hset.2, expandHome, hpath]
  rfl

theorem settingsPlaces_of_unnamed (hnone : overridePath world = "")
    (hpath : world.expandHome (Path.ofText (userDirectoryText world)) = some directory) :
    (settingsPlaces world : Except (Failure ε) _) =
      .ok (searchedPlaces directory (systemDirectoriesText world)) := by
  rw [userDirectoryText] at hpath
  simp only [settingsPlaces, hnone, ne_eq, not_true_eq_false, if_false, expandHome, hpath]
  rfl

/-- Where the environment names no file, the places for settings are tried one after the other. -/
theorem settingsPath_of_unnamed (hnone : overridePath world = "")
    (hpath : world.expandHome (Path.ofText (userDirectoryText world)) = some directory) :
    (settingsPath world : Except (Failure ε) _) =
      firstFile world (searchedPlaces directory (systemDirectoriesText world)) := by
  rw [settingsPath, settingsPlaces_of_unnamed hnone hpath]
  dsimp only [searchedPlaces]
  rcases (firstFile world (settingsFileIn directory :: systemPlaces (systemDirectoriesText world)) :
    Except (Failure ε) _) with failure | _ | path
  · rfl
  · exact if_neg (not_not.2 hnone)
  · rfl

/-- A path in the home of a user who does not exist ends the search. -/
theorem settingsPath_of_homeless (h : (settingsPlaces world : Except (Failure ε) _) = .error (.fault .unknownUser)) :
    (settingsPath world : Except (Failure ε) _) = .error (.fault .unknownUser) := by
  rw [settingsPath, h]

/-- What looking for the settings file comes to. -/
structure IsSearch (world : World) (result : Except (Failure ε) (Option Path)) : Prop where
  /-- The file that the environment names is taken. -/
  named : ∀ text path, IsSetTo world "AUTUMN_CONFIG" text →
    world.expandHome (Path.ofText text) = some path → world.disk.isFile path = .ok true →
      result = .ok (some path)
  /-- If there is no such file, that is an error, and nothing else is tried. -/
  missing : ∀ text path, IsSetTo world "AUTUMN_CONFIG" text →
    world.expandHome (Path.ofText text) = some path → world.disk.isFile path = .ok false →
      result = .error (ConfigError.overrideMissing path.text).failure
  /-- A named path that is too long for the system is let through as a fault. -/
  refused : ∀ text path error, IsSetTo world "AUTUMN_CONFIG" text →
    world.expandHome (Path.ofText text) = some path → world.disk.isFile path = .error error →
      result = .error (.fault (.system .nameTooLong))
  /-- Otherwise the first of the places for settings that leads to a file is taken. -/
  searched : ∀ directory, (∀ text, ¬ IsSetTo world "AUTUMN_CONFIG" text) →
    world.expandHome (Path.ofText (userDirectoryText world)) = some directory →
      IsFirstOf world.disk (searchedPlaces directory (systemDirectoriesText world)) result
  /-- A path in the home of a user who does not exist is let through as a fault. -/
  homeless : ∀ text, IsSetTo world "AUTUMN_CONFIG" text ∨
      (∀ other, ¬ IsSetTo world "AUTUMN_CONFIG" other) ∧ text = userDirectoryText world →
    world.expandHome (Path.ofText text) = none → result = .error (.fault .unknownUser)

theorem isSearch (world : World) : IsSearch world (settingsPath world : Except (Failure ε) _) := by
  constructor
  · intro text path hset hpath hfile
    rw [settingsPath, settingsPlaces_of_named hset hpath]
    dsimp only
    rw [firstFile_cons_of_file hfile]
  · intro text path hset hpath hfile
    rw [settingsPath, settingsPlaces_of_named hset hpath]
    dsimp only
    rw [firstFile_cons_of_none hfile, firstFile]
    exact if_pos (hset.overridePath_eq ▸ hset.2)
  · intro text path error hset hpath hfile
    rw [settingsPath, settingsPlaces_of_named hset hpath]
    dsimp only
    rw [firstFile_cons_of_refused hfile]
  · intro directory hnone hpath
    rw [settingsPath_of_unnamed (overridePath_eq_empty hnone) hpath]
    exact firstFile_isFirstOf world _
  · rintro text (hset | ⟨hnone, rfl⟩) hpath
    · apply settingsPath_of_homeless
      rw [settingsPlaces, hset.overridePath_eq, if_pos hset.2, expandHome, hpath]
      rfl
    · apply settingsPath_of_homeless
      rw [userDirectoryText] at hpath
      simp only [settingsPlaces, overridePath_eq_empty hnone, ne_eq, not_true_eq_false, if_false, expandHome, hpath]
      rfl

/-- The check of the file that the environment names ends in an error, because there is no such file. -/
def FailsOverrideCheck (world : World) (error : ConfigError) : Prop :=
  ∃ text path, IsSetTo world "AUTUMN_CONFIG" text ∧ world.expandHome (Path.ofText text) = some path ∧
    world.disk.isFile path = .ok false ∧ error = .overrideMissing path.text

/-- Looking for the settings file ends in an error only if that check does. -/
theorem settingsPath_error_cases {failure : Failure ε} (h : settingsPath world = .error failure) :
    (∃ error, FailsOverrideCheck world error ∧ failure = error.failure) ∨ ∃ fault, failure = .fault fault := by
  have hsearch := isSearch (ε := ε) world
  by_cases hset : ∃ text, IsSetTo world "AUTUMN_CONFIG" text
  · obtain ⟨text, hset⟩ := hset
    cases hpath : world.expandHome (Path.ofText text) with
    | none => exact .inr ⟨_, Except.error.inj (h.symm.trans (hsearch.homeless text (.inl hset) hpath))⟩
    | some path =>
      rcases hfile : world.disk.isFile path with error | _ | _
      · exact .inr ⟨_, Except.error.inj (h.symm.trans (hsearch.refused text path error hset hpath hfile))⟩
      · have hmissing := hsearch.missing text path hset hpath hfile
        exact .inl ⟨_, ⟨text, path, hset, hpath, hfile, rfl⟩, Except.error.inj (h.symm.trans hmissing)⟩
      · cases h.symm.trans (hsearch.named text path hset hpath hfile)
  · have hnone := not_exists.1 hset
    cases hpath : world.expandHome (Path.ofText (userDirectoryText world)) with
    | none => exact .inr ⟨_, Except.error.inj (h.symm.trans (hsearch.homeless _ (.inr ⟨hnone, rfl⟩) hpath))⟩
    | some directory =>
      exact .inr ⟨_, (((hsearch.searched directory hnone hpath).refused_iff failure).1 h).1⟩

/-- Loading settings ends in a failure of looking for the file or of loading it. -/
theorem loadSettings_error_cases {failure : Failure ε} {path? : Option Path}
    (h : loadSettings world path? = .error failure) :
    settingsPath world = .error failure ∨ ∃ path, loadFile world path = .error failure := by
  cases path? with
  | some path => exact .inr ⟨path, h⟩
  | none =>
    simp only [loadSettings] at h
    rcases hpath : (settingsPath world : Except (Failure ε) _) with other | _ | path
    · rw [hpath] at h
      cases h
      exact .inl rfl
    · rw [hpath] at h
      cases h
    · rw [hpath] at h
      exact .inr ⟨path, h⟩

/-! ### Empty variables -/

/-- The world in which a variable of the environment has another text. -/
def World.setting (world : World) (name text : String) : World :=
  { world with environment := world.environment.insert name text }

variable {name : String}

theorem get?_setting (world : World) (name text other : String) :
    (world.setting name text).environment.get? other =
      if other = name then some text else world.environment.get? other :=
  Store.get?_insert world.environment name text other

/-- Only one variable says where home directories are. -/
theorem expandHome_setting (h : "HOME" ≠ name) (path : Path) :
    (world.setting name text).expandHome path = world.expandHome path := by
  have hhome : ∀ component, (world.setting name text).home? component = world.home? component := by
    intro component
    rw [World.home?, World.home?, get?_setting, if_neg h]
    rfl
  simp only [World.expandHome, hhome]

theorem firstFile_congr {other : World} (h : other.disk = world.disk) (paths : List Path) :
    (firstFile other paths : Except (Failure ε) _) = firstFile world paths := by
  induction paths with
  | nil => rfl
  | cons path rest ih => rw [firstFile, firstFile, checkFile, checkFile, h, ih]

/-- Looking for the settings file depends on the files, the home directories and three variables. -/
theorem settingsPath_congr {other : World} (hdisk : other.disk = world.disk)
    (hexpand : ∀ path, other.expandHome path = world.expandHome path)
    (hoverride : overridePath other = overridePath world)
    (huser : Path.ofText (userDirectoryText other) = Path.ofText (userDirectoryText world))
    (hsystem : systemDirectoriesText other = systemDirectoriesText world) :
    (settingsPath other : Except (Failure ε) _) = settingsPath world := by
  have hdirectories : systemDirectories other = systemDirectories world :=
    congrArg (fun list => (split ':' list).filter (· ≠ "")) hsystem
  have hplaces : (settingsPlaces other : Except (Failure ε) _) = settingsPlaces world := by
    rw [userDirectoryText, userDirectoryText] at huser
    simp only [settingsPlaces, expandHome, hexpand, hoverride, huser, hdirectories]
  simp only [settingsPath, hplaces, hoverride, firstFile_congr hdisk]

/-- Whether the file is named does not depend on the variables for directories. -/
theorem overridePath_setting (h : "AUTUMN_CONFIG" ≠ name) :
    overridePath (world.setting name text) = overridePath world := by
  rw [overridePath, overridePath, get?_setting, if_neg h]

/-- An empty name for the file is none. -/
theorem settingsPath_setting_override (h : world.environment.get? "AUTUMN_CONFIG" = none) :
    (settingsPath (world.setting "AUTUMN_CONFIG" "") : Except (Failure ε) _) = settingsPath world := by
  refine settingsPath_congr rfl (expandHome_setting (by decide)) ?_ ?_ ?_
  · rw [overridePath, overridePath, get?_setting, if_pos rfl, h]
    rfl
  · rw [userDirectoryText, userDirectoryText, get?_setting, if_neg (by decide)]
  · rw [systemDirectoriesText, systemDirectoriesText, get?_setting, if_neg (by decide)]

/-- An empty text for the user's directory stands for the current directory. -/
theorem settingsPath_setting_user (world : World) :
    (settingsPath (world.setting "XDG_CONFIG_HOME" "") : Except (Failure ε) _) =
      settingsPath (world.setting "XDG_CONFIG_HOME" ".") := by
  refine settingsPath_congr rfl (fun path => ?_) ?_ ?_ ?_
  · rw [expandHome_setting (by decide), expandHome_setting (by decide)]
  · rw [overridePath_setting (by decide), overridePath_setting (by decide)]
  · rw [userDirectoryText, userDirectoryText, get?_setting, get?_setting, if_pos rfl, if_pos rfl]
    decide
  · rw [systemDirectoriesText, systemDirectoriesText, get?_setting, get?_setting, if_neg (by decide),
      if_neg (by decide)]

/-- The default directory of the user is not the current one. -/
theorem ne_here_of_expandHome (h : world.expandHome (Path.ofText "~/.config") = some directory) :
    directory ≠ Path.here := by
  have htext : Path.ofText "~/.config" = ⟨.here, ["~", ".config"]⟩ := by decide
  rw [htext, World.expandHome] at h
  dsimp only at h
  split at h
  · next hplain => simp [startsWith] at hplain
  · split at h
    · cases h
    · split at h
      · cases h
      · obtain rfl := Option.some.inj h
        simp [Path.here]

theorem settingsFileIn_injective {other : Path} (h : settingsFileIn directory = settingsFileIn other) :
    directory = other := by
  obtain ⟨root, names⟩ := directory
  obtain ⟨root', names'⟩ := other
  simpa [settingsFileIn, Path.child] using h

/-- An empty text for the user's directory takes the place of the default one unnoticed only if neither of the two
leads to a file. -/
theorem settingsPath_setting_user_iff {default current : Bool} (hnone : ∀ text, ¬ IsSetTo world "AUTUMN_CONFIG" text)
    (hunset : world.environment.get? "XDG_CONFIG_HOME" = none)
    (hhome : world.expandHome (Path.ofText "~/.config") = some directory)
    (hdefault : world.disk.isFile (settingsFileIn directory) = .ok default)
    (hcurrent : world.disk.isFile (settingsFileIn Path.here) = .ok current)
    (hsystem : settingsFileIn directory ∉ systemPlaces (systemDirectoriesText world) ∧
      settingsFileIn Path.here ∉ systemPlaces (systemDirectoriesText world)) :
    (settingsPath (world.setting "XDG_CONFIG_HOME" "") : Except (Failure ε) _) = settingsPath world ↔
      default = false ∧ current = false := by
  have hoverride : overridePath (world.setting "XDG_CONFIG_HOME" "") = "" := by
    rw [overridePath_setting (by decide), overridePath_eq_empty hnone]
  have hlist : systemDirectoriesText (world.setting "XDG_CONFIG_HOME" "") = systemDirectoriesText world := by
    rw [systemDirectoriesText, systemDirectoriesText, get?_setting, if_neg (by decide)]
  have hhere : (world.setting "XDG_CONFIG_HOME" "").expandHome
      (Path.ofText (userDirectoryText (world.setting "XDG_CONFIG_HOME" ""))) = some Path.here := by
    rw [userDirectoryText, get?_setting, if_pos rfl]
    rfl
  have huser : userDirectoryText world = "~/.config" := by
    rw [userDirectoryText, hunset]
    rfl
  have hone : (settingsPath (world.setting "XDG_CONFIG_HOME" "") : Except (Failure ε) _) =
      firstFile world (searchedPlaces Path.here (systemDirectoriesText world)) := by
    rw [settingsPath_of_unnamed hoverride hhere, hlist]
    exact firstFile_congr (show (world.setting "XDG_CONFIG_HOME" "").disk = world.disk from rfl) _
  have htwo : (settingsPath world : Except (Failure ε) _) =
      firstFile world (searchedPlaces directory (systemDirectoriesText world)) :=
    settingsPath_of_unnamed (overridePath_eq_empty hnone) (huser ▸ hhome)
  have hne : settingsFileIn directory ≠ settingsFileIn Path.here := fun heq =>
    ne_here_of_expandHome hhome (settingsFileIn_injective heq)
  rw [hone, htwo]
  constructor
  · -- A file in one of the places is not among the other places, so it is not found there.
    intro heq
    constructor
    · refine Bool.eq_false_iff.2 fun htrue => ?_
      have hfound : (firstFile world (searchedPlaces directory (systemDirectoriesText world)) :
          Except (Failure ε) _) = .ok (some (settingsFileIn directory)) :=
        firstFile_cons_of_file (htrue ▸ hdefault)
      rw [hfound, (firstFile_isFirstOf world _).found_iff] at heq
      exact (List.mem_cons.1 heq.mem).elim hne hsystem.1
    · refine Bool.eq_false_iff.2 fun htrue => ?_
      have hfound : (firstFile world (searchedPlaces Path.here (systemDirectoriesText world)) :
          Except (Failure ε) _) = .ok (some (settingsFileIn Path.here)) :=
        firstFile_cons_of_file (htrue ▸ hcurrent)
      rw [hfound, eq_comm, (firstFile_isFirstOf world _).found_iff] at heq
      exact (List.mem_cons.1 heq.mem).elim hne.symm hsystem.2
  · rintro ⟨rfl, rfl⟩
    rw [searchedPlaces, searchedPlaces, firstFile_cons_of_none hcurrent, firstFile_cons_of_none hdefault]

/-- The default list of system directories counts only if the user's place leads to no file. -/
theorem settingsPath_setting_system_iff (hnone : ∀ text, ¬ IsSetTo world "AUTUMN_CONFIG" text)
    (hunset : world.environment.get? "XDG_CONFIG_DIRS" = none)
    (hhome : world.expandHome (Path.ofText (userDirectoryText world)) = some directory) :
    (settingsPath (world.setting "XDG_CONFIG_DIRS" "") : Except (Failure ε) _) = settingsPath world ↔
      (world.disk.isFile (settingsFileIn directory) = .ok false →
        world.disk.isFile (settingsFileIn (Path.ofText "/etc/xdg")) = .ok false) := by
  have hoverride : overridePath (world.setting "XDG_CONFIG_DIRS" "") = "" := by
    rw [overridePath_setting (by decide), overridePath_eq_empty hnone]
  have huser : userDirectoryText (world.setting "XDG_CONFIG_DIRS" "") = userDirectoryText world := by
    rw [userDirectoryText, userDirectoryText, get?_setting, if_neg (by decide)]
  have hlist : systemDirectoriesText (world.setting "XDG_CONFIG_DIRS" "") = "" := by
    rw [systemDirectoriesText, get?_setting, if_pos rfl]
    rfl
  have hdefault : systemDirectoriesText world = "/etc/xdg" := by
    rw [systemDirectoriesText, hunset]
    rfl
  have hhome' : (world.setting "XDG_CONFIG_DIRS" "").expandHome
      (Path.ofText (userDirectoryText (world.setting "XDG_CONFIG_DIRS" ""))) = some directory := by
    rw [huser, expandHome_setting (by decide), hhome]
  have hone : (settingsPath (world.setting "XDG_CONFIG_DIRS" "") : Except (Failure ε) _) =
      firstFile world [settingsFileIn directory] := by
    rw [settingsPath_of_unnamed hoverride hhome', hlist]
    exact firstFile_congr rfl _
  have htwo : (settingsPath world : Except (Failure ε) _) =
      firstFile world [settingsFileIn directory, settingsFileIn (Path.ofText "/etc/xdg")] := by
    rw [settingsPath_of_unnamed (overridePath_eq_empty hnone) hhome, hdefault]
    rfl
  rw [hone, htwo]
  -- The user's place decides alone, unless it leads to no file.
  rcases hfile : world.disk.isFile (settingsFileIn directory) with error | _ | _
  · simp [firstFile_cons_of_refused hfile]
  · rw [firstFile_cons_of_none hfile, firstFile_cons_of_none hfile, eq_comm, firstFile,
      (firstFile_isFirstOf world _).none_iff]
    simp
  · simp [firstFile_cons_of_file hfile]

/-- Looking for the settings file takes the file that the environment names, and nothing else, or else the first
place for settings that leads to a file. An empty variable that would name the file counts as unset. An empty text
for the user's directory stands for the current directory, and where the system takes both places and has neither
of them among its own, it counts as unset only if no file is in either. An empty list of system directories counts as
unset only if the user's place decides or the default place of the system leads to no file. -/
theorem settingsPath_isSearch (world : World) :
    IsSearch world (settingsPath world : Except (Failure ε) _) ∧
    (world.environment.get? "AUTUMN_CONFIG" = none →
      (settingsPath (world.setting "AUTUMN_CONFIG" "") : Except (Failure ε) _) = settingsPath world) ∧
    (settingsPath (world.setting "XDG_CONFIG_HOME" "") : Except (Failure ε) _) =
      settingsPath (world.setting "XDG_CONFIG_HOME" ".") ∧
    (∀ directory default current, (∀ text, ¬ IsSetTo world "AUTUMN_CONFIG" text) →
      world.environment.get? "XDG_CONFIG_HOME" = none →
      world.expandHome (Path.ofText "~/.config") = some directory →
      world.disk.isFile (settingsFileIn directory) = .ok default →
      world.disk.isFile (settingsFileIn Path.here) = .ok current →
      settingsFileIn directory ∉ systemPlaces (systemDirectoriesText world) ∧
        settingsFileIn Path.here ∉ systemPlaces (systemDirectoriesText world) →
        ((settingsPath (world.setting "XDG_CONFIG_HOME" "") : Except (Failure ε) _) = settingsPath world ↔
          default = false ∧ current = false)) ∧
    (∀ directory, (∀ text, ¬ IsSetTo world "AUTUMN_CONFIG" text) →
      world.environment.get? "XDG_CONFIG_DIRS" = none →
      world.expandHome (Path.ofText (userDirectoryText world)) = some directory →
        ((settingsPath (world.setting "XDG_CONFIG_DIRS" "") : Except (Failure ε) _) = settingsPath world ↔
          (world.disk.isFile (settingsFileIn directory) = .ok false →
            world.disk.isFile (settingsFileIn (Path.ofText "/etc/xdg")) = .ok false))) := by
  refine ⟨isSearch world, settingsPath_setting_override, settingsPath_setting_user world, ?_, ?_⟩
  · intro directory default current hnone hunset hhome hdefault hcurrent hsystem
    exact settingsPath_setting_user_iff hnone hunset hhome hdefault hcurrent hsystem
  · intro directory hnone hunset hhome
    exact settingsPath_setting_system_iff hnone hunset hhome

/-- A world with settings in the default places of the user and of the system. -/
def homeWorld : World :=
  let settings : Node := .directory [("autumn", .directory [("settings.yaml", .file ⟨[], none⟩)])]
  ⟨⟨.directory [("h", .directory [(".config", settings)]), ("etc", .directory [("xdg", settings)])], [], 0⟩,
    .ofList [("HOME", "/h")], [], "", [], Time.almanac, Yaml.read fun _ => ""⟩

/-- The user's settings are not found if the variable for their directory is empty, and neither are those of the
system if the user has none and the variable for the system's directories is empty. -/
theorem settingsPath_isSearch_homeWorld :
    (settingsPath homeWorld : Except (Failure Empty) _) =
      .ok (some (Path.ofText "/h/.config/autumn/settings.yaml")) ∧
    (settingsPath (homeWorld.setting "XDG_CONFIG_HOME" "") : Except (Failure Empty) _) ≠ settingsPath homeWorld ∧
    (settingsPath ((homeWorld.setting "XDG_CONFIG_HOME" "/u").setting "XDG_CONFIG_DIRS" "") :
      Except (Failure Empty) _) ≠ settingsPath (homeWorld.setting "XDG_CONFIG_HOME" "/u") := by
  have hnone : ∀ text, ¬ IsSetTo homeWorld "AUTUMN_CONFIG" text := by
    rintro text ⟨hget, -⟩
    cases hget
  have hnone' : ∀ text, ¬ IsSetTo (homeWorld.setting "XDG_CONFIG_HOME" "/u") "AUTUMN_CONFIG" text := by
    rintro text ⟨hget, -⟩
    cases hget
  obtain ⟨hsearch, -, -, huser, -⟩ := settingsPath_isSearch (ε := Empty) homeWorld
  refine ⟨?_, ?_, ?_⟩
  · exact ((hsearch.searched (Path.ofText "/h/.config") hnone rfl).found_iff _).2 ⟨[], _, rfl, by simp, rfl⟩
  · intro heq
    cases ((huser _ true false hnone rfl rfl rfl rfl (by decide)).1 heq).1
  · intro heq
    have hfile := ((settingsPath_isSearch (homeWorld.setting "XDG_CONFIG_HOME" "/u")).2.2.2.2 (Path.ofText "/u")
      hnone' rfl rfl).1 heq rfl
    cases hfile

end Lookup
