import Lookup.Command.Answer
import Lookup.Proofs.Settings.Load
import Lookup.Proofs.Settings.Search
import Lookup.Proofs.Text.Order
import Lookup.Time.Almanac

/-!
# The layers of the properties

The properties that a command sees come from three places: pairs on the command line, a settings file and the
environment, each of them over the next one. Of several pairs for a key the last one counts. All pairs must be
complete, and the settings must load; otherwise there is no store at all.

## Main definitions

* `Sets`, `IsIncomplete` — what a pair sets, and pairs that set nothing
* `PutOver` — a store that results from pairs that are put over another one
* `IsLayered` — a store that results from pairs, settings and an environment

## Main results

* `putPairs_of_complete`, `putPairs_of_incomplete` — what putting pairs over settings comes to
* `loadSettings_error` — settings that do not load give an error of settings or a fault
* `Command.loadResolver_isLayered` — when there is a store, and what it holds
-/

namespace Lookup

open Text

variable {ε : Type}

/-! ### Pairs -/

section

variable {pair key value : String} {pairs : List String} {settings : Store}

/-- A pair sets a key to a value if they stand before and behind its first equals sign. -/
def Sets (pair key value : String) : Prop :=
  '=' ∉ key.toList ∧ pair.toList = key.toList ++ '=' :: value.toList

/-- A pair is incomplete if it has no equals sign, or nothing before the first one. -/
def IsIncomplete (pair : String) : Prop := '=' ∉ pair.toList ∨ pair.toList.head? = some '='

theorem cut_eq_some_iff_sets :
    cut '=' pair.toList = some (key.toList, value.toList) ↔ Sets pair key value := cut_eq_some_iff

/-- A pair sets one key to one value. -/
theorem Sets.unique {key' value' : String} (h : Sets pair key value) (h' : Sets pair key' value') :
    key = key' ∧ value = value' := by
  have hcut := (cut_eq_some_iff_sets.2 h).symm.trans (cut_eq_some_iff_sets.2 h')
  rw [Option.some.injEq, Prod.mk.injEq, String.toList_inj, String.toList_inj] at hcut
  exact hcut

/-- A pair is read unless it is incomplete. -/
theorem exists_readPair?_of_complete (h : ¬ IsIncomplete pair) :
    ∃ key value, readPair? pair = some (key, value) ∧ Sets pair key value := by
  cases hcut : cut '=' pair.toList with
  | none => exact absurd (.inl (cut_eq_none_iff.1 hcut)) h
  | some parts =>
    obtain ⟨key, value⟩ := parts
    cases key with
    | nil =>
      obtain ⟨-, htext⟩ := cut_eq_some_iff.1 hcut
      exact absurd (.inr (by rw [htext]; rfl)) h
    | cons c key =>
      refine ⟨String.ofList (c :: key), String.ofList value, by rw [readPair?, hcut], ?_⟩
      exact cut_eq_some_iff_sets.1 (by rw [hcut, String.toList_ofList, String.toList_ofList])

theorem readPair?_of_incomplete (h : IsIncomplete pair) : readPair? pair = none := by
  rw [readPair?]
  split
  · next c key value hcut =>
    obtain ⟨hkey, htext⟩ := cut_eq_some_iff.1 hcut
    rcases h with hnone | hfirst
    · exact absurd (by simp [htext]) hnone
    · rw [htext, List.cons_append, List.head?_cons, Option.some.injEq] at hfirst
      exact absurd (hfirst ▸ List.mem_cons_self) hkey
  · rfl

/-- A store results from pairs that are put over another one: a key has the value that the last pair for it
sets, and its value there if no pair sets it. -/
structure PutOver (pairs : List String) (base store : Store) : Prop where
  last : ∀ before pair after key value, pairs = before ++ pair :: after → Sets pair key value →
    (∀ other ∈ after, ∀ value', ¬ Sets other key value') → store.get? key = some value
  others : ∀ key, (∀ pair ∈ pairs, ∀ value, ¬ Sets pair key value) → store.get? key = base.get? key

/-- Putting one pair over a store and then others over the result is putting all of them over it. -/
theorem PutOver.cons {store : Store} (hpair : Sets pair key value)
    (h : PutOver pairs (settings.insert key value) store) : PutOver (pair :: pairs) settings store := by
  constructor
  · intro before pair' after key' value' hpairs hpair' hlast
    cases before with
    | nil =>
      -- The first pair is the last one for its key, so that no other changes what it sets.
      obtain ⟨rfl, rfl⟩ := List.cons.inj hpairs
      obtain ⟨rfl, rfl⟩ := hpair.unique hpair'
      rw [h.others key hlast, Store.get?_insert, if_pos rfl]
    | cons first before =>
      exact h.last before pair' after key' value' (List.cons.inj hpairs).2 hpair' hlast
  · intro key' hnone
    have hne : key' ≠ key := by
      rintro rfl
      exact hnone pair List.mem_cons_self value hpair
    rw [h.others key' fun other hother => hnone other (List.mem_cons_of_mem _ hother),
      Store.get?_insert, if_neg hne]

/-- Complete pairs are put over settings. -/
theorem putPairs_of_complete (settings : Store) (h : ∀ pair ∈ pairs, ¬ IsIncomplete pair) :
    ∃ store, (putPairs settings pairs : Except (Failure ε) Store) = .ok store ∧
      PutOver pairs settings store := by
  -- A pair is put over what the pairs before it have left of the settings.
  induction pairs generalizing settings with
  | nil => exact ⟨settings, rfl, ⟨by simp, fun _ _ => rfl⟩⟩
  | cons pair rest ih =>
    obtain ⟨key, value, hread, hsets⟩ := exists_readPair?_of_complete (h pair List.mem_cons_self)
    obtain ⟨store, hput, hover⟩ :=
      ih (settings.insert key value) fun other hother => h other (List.mem_cons_of_mem _ hother)
    exact ⟨store, by rw [putPairs, hread]; exact hput, hover.cons hsets⟩

/-- One incomplete pair is enough for all of them to be refused. -/
theorem putPairs_of_incomplete (settings : Store) (hmem : pair ∈ pairs) (h : IsIncomplete pair) :
    ∃ refused, (putPairs settings pairs : Except (Failure ε) Store) =
      .error (ConfigError.badPair refused).failure := by
  induction pairs generalizing settings with
  | nil => exact absurd hmem List.not_mem_nil
  | cons first rest ih =>
    rw [putPairs]
    cases hread : readPair? first with
    | none => exact ⟨first, rfl⟩
    | some entry =>
      rcases List.mem_cons.1 hmem with rfl | hmem
      · rw [readPair?_of_incomplete h] at hread
        cases hread
      · exact ih (settings.insert entry.1 entry.2) hmem

end

/-! ### Settings that do not load -/

section

variable {world : World} {failure : Failure ε}

/-- A failure is an error of settings or a fault. -/
def Failure.IsOfSettings (failure : Failure ε) : Prop :=
  (∃ error : ConfigError, failure = error.failure) ∨ ∃ fault, failure = .fault fault

theorem settingsPath_error (h : settingsPath world = .error failure) : failure.IsOfSettings := by
  rcases settingsPath_error_cases h with ⟨error, -, rfl⟩ | ⟨fault, rfl⟩
  · exact .inl ⟨error, rfl⟩
  · exact .inr ⟨fault, rfl⟩

theorem loadFile_error {path : Files.Path} (h : loadFile world path = .error failure) :
    failure.IsOfSettings := by
  rcases promised_or_slip (ε := ε) world path with hresult | hresult
  · rw [h] at hresult
    cases hresult with
    | refused error => exact .inl ⟨error, rfl⟩
  · rw [h] at hresult
    generalize hfailure : (.error failure : Except (Failure ε) Store) = result at hresult
    cases hresult with
    | hollow => cases hfailure
    | nul | undecodable | valueless | endless | unwritten => exact .inr ⟨_, Except.error.inj hfailure⟩

/-- Settings that do not load give an error of settings or a fault. -/
theorem loadSettings_error {path? : Option Files.Path} (h : loadSettings world path? = .error failure) :
    failure.IsOfSettings := by
  rcases loadSettings_error_cases h with hsearch | ⟨path, hload⟩
  · exact settingsPath_error hsearch
  · exact loadFile_error hload

end

/-! ### Keys -/

namespace Store

theorem mem_keys_iff {store : Store} {key : String} : key ∈ store.keys ↔ store.get? key ≠ none := by
  rw [keys, sorted, List.mem_mergeSort, get?, ne_eq, List.lookup_eq_none_iff, List.mem_map]
  simp only [bne_iff_ne, ne_eq, not_forall, not_not]
  constructor
  · rintro ⟨entry, hentry, hkey⟩
    exact ⟨entry, hentry, hkey.symm⟩
  · rintro ⟨entry, hentry, hkey⟩
    exact ⟨entry, hentry, hkey.symm⟩

/-- The keys of a store stand in the order of their code points, each one once. -/
theorem pairwise_keys (store : Store) : store.keys.Pairwise (· < ·) := by
  have hnodup : ((store.entries.map Prod.fst).map id).Nodup := by
    rw [List.map_id]
    exact store.nodup
  exact pairwise_key_lt_mergeSort hnodup

end Store

/-! ### Resolvers -/

/-- A store results from pairs, settings and an environment: a key has the value that the last pair for it
sets, else its value in the settings, else its value in the environment, if there is one. -/
structure IsLayered (pairs : List String) (settings environment store : Store) : Prop where
  fromPairs : ∀ before pair after key value, pairs = before ++ pair :: after → Sets pair key value →
    (∀ other ∈ after, ∀ value', ¬ Sets other key value') → store.get? key = some value
  fromSettings : ∀ key value, (∀ pair ∈ pairs, ∀ value', ¬ Sets pair key value') →
    settings.get? key = some value → store.get? key = some value
  fromEnvironment : ∀ key, (∀ pair ∈ pairs, ∀ value', ¬ Sets pair key value') →
    settings.get? key = none → store.get? key = environment.get? key

/-- Putting pairs over settings and the result over an environment makes layers. -/
theorem PutOver.isLayered {pairs : List String} {settings explicit : Store} (h : PutOver pairs settings explicit)
    (environment : Store) : IsLayered pairs settings environment (environment.merge explicit) := by
  constructor
  · intro before pair after key value hpairs hpair hlast
    rw [Store.get?_merge, h.last before pair after key value hpairs hpair hlast, Option.some_or]
  · intro key value hnone hvalue
    rw [Store.get?_merge, h.others key hnone, hvalue, Option.some_or]
  · intro key hnone habsent
    rw [Store.get?_merge, h.others key hnone, habsent, Option.none_or]

namespace Command

variable {world : World} {environment : Store} {settings? : Option String} {pairs : List String}

theorem loadResolver_of_error {failure : Failure ε}
    (h : explicitSettings world settings? pairs = .error failure) :
    (loadResolver world environment settings? pairs).2 =
      (.error (.during .settings failure) : Except (Stop ε) _) := by
  simp only [loadResolver, h]

theorem loadResolver_of_ok {settings : Store}
    (h : (explicitSettings world settings? pairs : Except (Failure ε) _) = .ok settings) :
    (loadResolver world environment settings? pairs).2 =
      (.ok ⟨environment.merge settings, .builtin world.zones⟩ : Except (Stop ε) _) := by
  have hbuild : (Resolver.build world.zones environment settings [] : Except (Failure ε) _) =
      .ok ⟨environment.merge settings, .builtin world.zones⟩ := rfl
  simp only [loadResolver, h, hbuild]

/-- Explicit settings end in a fault of loading, in an error of settings, or in complete pairs that are put over
the settings of the file. -/
theorem explicitSettings_cases (world : World) (settings? : Option String) (pairs : List String) :
    (∃ fault, loadSettings world (settings?.map Files.Path.ofText) =
        (.error (.fault fault) : Except (Failure ε) _) ∧
      explicitSettings world settings? pairs = (.error (.fault fault) : Except (Failure ε) _)) ∨
    (∃ error : ConfigError, ((loadSettings world (settings?.map Files.Path.ofText) =
          (.error error.failure : Except (Failure ε) _)) ∨
        (∃ settings, loadSettings world (settings?.map Files.Path.ofText) =
          (.ok settings : Except (Failure ε) _)) ∧ ∃ pair ∈ pairs, IsIncomplete pair) ∧
      explicitSettings world settings? pairs = (.error error.failure : Except (Failure ε) _)) ∨
    (∃ settings explicit, loadSettings world (settings?.map Files.Path.ofText) =
        (.ok settings : Except (Failure ε) _) ∧ (∀ pair ∈ pairs, ¬ IsIncomplete pair) ∧
      PutOver pairs settings explicit ∧
      explicitSettings world settings? pairs = (.ok explicit : Except (Failure ε) _)) := by
  rw [explicitSettings]
  rcases hloaded : (loadSettings world (settings?.map Files.Path.ofText) : Except (Failure ε) _) with
    failure | settings
  · rcases loadSettings_error hloaded with ⟨error, rfl⟩ | ⟨fault, rfl⟩
    · exact .inr (.inl ⟨error, .inl rfl, rfl⟩)
    · exact .inl ⟨fault, rfl, rfl⟩
  · by_cases hcomplete : ∀ pair ∈ pairs, ¬ IsIncomplete pair
    · obtain ⟨explicit, hput, hover⟩ := putPairs_of_complete (ε := ε) settings hcomplete
      exact .inr (.inr ⟨settings, explicit, rfl, hcomplete, hover, hput⟩)
    · simp only [not_forall, not_not] at hcomplete
      obtain ⟨pair, hmem, hpair⟩ := hcomplete
      obtain ⟨refused, hput⟩ := putPairs_of_incomplete (ε := ε) settings hmem hpair
      exact .inr (.inl ⟨.badPair refused, .inr ⟨⟨settings, rfl⟩, pair, hmem, hpair⟩, hput⟩)

/-- The resolver of a command is not built if the settings do not load or if a pair is incomplete. An error of
settings is told to the user, and only a fault of loading the settings is let through. In all other cases the
store of the resolver has the layers, and its keys are listed in the order of their code points, each one
once. -/
theorem loadResolver_isLayered (world : World) (settings? : Option String) (pairs : List String)
    (bare : Bool) :
    (∀ failure : Failure ε,
      (loadResolver world (if bare then .empty else world.environment) settings? pairs).2 =
          .error (.escape failure) ↔
        loadSettings world (settings?.map Files.Path.ofText) = .error failure ∧
          ∃ fault, failure = .fault fault) ∧
    ((∃ error : ConfigError,
      (loadResolver world (if bare then .empty else world.environment) settings? pairs).2 =
          (.error (.trouble (.settings (.config error))) : Except (Stop ε) _)) ↔
        (∃ error : ConfigError, loadSettings world (settings?.map Files.Path.ofText) =
          (.error error.failure : Except (Failure ε) _)) ∨
        (∃ settings, loadSettings world (settings?.map Files.Path.ofText) =
          (.ok settings : Except (Failure ε) _)) ∧ ∃ pair ∈ pairs, IsIncomplete pair) ∧
    (∀ settings,
      loadSettings world (settings?.map Files.Path.ofText) = (.ok settings : Except (Failure ε) _) →
      (∀ pair ∈ pairs, ¬ IsIncomplete pair) →
        ∃ resolver : Resolver ε,
          (loadResolver world (if bare then .empty else world.environment) settings? pairs).2 =
            .ok resolver ∧
          IsLayered pairs settings (if bare then .empty else world.environment) resolver.store ∧
          (∀ key, key ∈ resolver.store.keys ↔ resolver.store.get? key ≠ none) ∧
          resolver.store.keys.Pairwise (· < ·)) := by
  rcases explicitSettings_cases (ε := ε) world settings? pairs with
    ⟨fault, hloaded, hexplicit⟩ | ⟨error, hreason, hexplicit⟩ |
    ⟨settings, explicit, hloaded, hcomplete, hover, hexplicit⟩
  · rw [loadResolver_of_error hexplicit, hloaded]
    refine ⟨fun failure => ?_, ?_, by simp⟩
    · simp only [Stop.during, Except.error.injEq, Stop.escape.injEq]
      exact ⟨fun h => ⟨h, fault, h.symm⟩, And.left⟩
    · simp [Stop.during, ConfigError.failure]
  · rw [loadResolver_of_error hexplicit]
    refine ⟨fun failure => ?_, ?_, fun settings hloaded hcomplete => ?_⟩
    · -- Neither an error of settings nor an incomplete pair is a fault.
      simp only [Stop.during, ConfigError.failure, Except.error.injEq, reduceCtorEq, false_iff]
      rintro ⟨hloaded, fault, rfl⟩
      rw [hloaded] at hreason
      simp [ConfigError.failure] at hreason
    · simp only [Stop.during, ConfigError.failure, Except.error.injEq, Stop.trouble.injEq,
        Trouble.settings.injEq, Error.config.injEq, exists_eq', true_iff]
      exact hreason.imp_left fun h => ⟨error, h⟩
    · rw [hloaded] at hreason
      rcases hreason with h | ⟨-, pair, hmem, hpair⟩
      · cases h
      · exact absurd hpair (hcomplete pair hmem)
  · rw [loadResolver_of_ok hexplicit, hloaded]
    refine ⟨by simp, ?_, ?_⟩
    · simp only [reduceCtorEq, exists_false, false_or, false_iff, not_and, not_exists]
      exact fun _ pair hmem => hcomplete pair hmem
    · rintro found hfound -
      obtain rfl := Except.ok.inj hfound
      exact ⟨_, rfl, hover.isLayered _, fun _ => Store.mem_keys_iff, Store.pairwise_keys _⟩

/-- A world with the settings `a: x` in a file and two keys in the environment. -/
def layeredWorld : World :=
  ⟨⟨.directory [("s", .file ⟨[0x61, 0x3A, 0x20, 0x78], none⟩)], [], 0⟩, .ofList [("a", "0"), ("e", "1")], [], "", [],
    Time.almanac, Yaml.read fun _ => ""⟩

theorem exists_loadSettings_layeredWorld :
    ∃ settings, loadSettings layeredWorld ((some "s").map Files.Path.ofText) =
      (.ok settings : Except (Failure Empty) _) ∧ settings.get? "a" = some "x" ∧ settings.get? "e" = none := by
  have hvalues : ((loadSettings layeredWorld ((some "s").map Files.Path.ofText) :
      Except (Failure Empty) _).toOption.map fun settings => (settings.get? "a", settings.get? "e")) =
        some (some "x", none) := by decide +kernel
  cases hloaded : (loadSettings layeredWorld ((some "s").map Files.Path.ofText) : Except (Failure Empty) _) with
  | error failure =>
    rw [hloaded] at hvalues
    cases hvalues
  | ok settings =>
    rw [hloaded] at hvalues
    exact ⟨settings, rfl, Prod.mk.inj (Option.some.inj hvalues)⟩

/-- A pair may set a value that holds an equals sign. The environment has the last word only on keys that are
nowhere else. -/
theorem loadResolver_isLayered_layeredWorld :
    ∃ resolver : Resolver Empty,
      (loadResolver layeredWorld (if false then .empty else layeredWorld.environment) (some "s")
        ["b=1", "b=2=3"]).2 = .ok resolver ∧
      resolver.store.get? "b" = some "2=3" ∧ resolver.store.get? "a" = some "x" ∧
      resolver.store.get? "e" = some "1" ∧ resolver.store.keys.Pairwise (· < ·) := by
  obtain ⟨settings, hloaded, ha, he⟩ := exists_loadSettings_layeredWorld
  have hcomplete : ∀ pair ∈ ["b=1", "b=2=3"], ¬ IsIncomplete pair := by
    simp [IsIncomplete]
  obtain ⟨resolver, hresult, hlayers, -, hkeys⟩ :=
    (loadResolver_isLayered layeredWorld (some "s") ["b=1", "b=2=3"] false).2.2 settings hloaded hcomplete
  have hother : ∀ key ∈ ["a", "e"], ∀ pair ∈ ["b=1", "b=2=3"], ∀ value, ¬ Sets pair key value := by
    simp [Sets]
  refine ⟨resolver, hresult, ?_, ?_, ?_, hkeys⟩
  · exact hlayers.fromPairs ["b=1"] "b=2=3" [] "b" "2=3" rfl ⟨by decide, by decide⟩ (by simp)
  · exact hlayers.fromSettings "a" "x" (hother "a" (by simp)) ha
  · exact (hlayers.fromEnvironment "e" (hother "e" (by simp)) he).trans (by decide +kernel)

end Command

end Lookup
