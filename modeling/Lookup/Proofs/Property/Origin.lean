import Lookup.Proofs.Property.Budget
import Lookup.Time.Almanac

/-!
# Where values come from

A query puts no text together. What it answers is a text that it has found as a whole: the value of a key of
the store, its own default, or the default of a placeholder that stands written in its key, in its default or
in a value of the store. All this is kept along a run, where keys are parts of such texts and the texts that
are evaluated have been found in this way. A run ends only at a text that is no placeholder, or at a key that
is none.

## Main definitions

* `Store.IsSource` — the texts that a query starts from
* `Store.HasOrigin` — what a query finds as a whole
* `Store.IsTraced` — a task that leads on to what the query finds
* `Store.IsFounded`, `Store.IsFound` — an outcome and a value that have been found

## Main results

* `Store.isFounded_runWithin` — a run from a traced task ends with a founded outcome
* `Resolver.get_isFounded` — what queries answer, and what they report as missing
-/

namespace Lookup.Store

variable {store : Store} {key text : String} {default? : Option String} {p : Placeholder}

/-- The texts that a query starts from: its key, its default and the values of the store. -/
inductive IsSource (store : Store) (key : String) (default? : Option String) : String → Prop
  | key : IsSource store key default? key
  | default {text : String} (isDefault : default? = some text) : IsSource store key default? text
  | stored {k text : String} (stored : store.get? k = some text) : IsSource store key default? text

/-- A part of a text that a query starts from. -/
def IsPart (store : Store) (key : String) (default? : Option String) (text : String) : Prop :=
  ∃ source, store.IsSource key default? source ∧ text.toList <:+: source.toList

/-- A placeholder stands written in a text that a query starts from. -/
structure IsWritten (store : Store) (key : String) (default? : Option String) (p : Placeholder) : Prop where
  reads : Placeholder.read p.render = .placeholder p
  isPart : store.IsPart key default? p.render

/-- A text is found by a query as a whole: as the value of a key, as the default of the query or as that of a
placeholder. -/
inductive HasOrigin (store : Store) (key : String) (default? : Option String) : String → Prop
  | stored {k text : String} (stored : store.get? k = some text) : HasOrigin store key default? text
  | default {text : String} (isDefault : default? = some text) : HasOrigin store key default? text
  | written {p : Placeholder} {text : String} (isWritten : store.IsWritten key default? p)
      (hasDefault : p.default? = some text) : HasOrigin store key default? text

theorem IsPart.mono {part : String} (h : store.IsPart key default? text)
    (hpart : part.toList <:+: text.toList) : store.IsPart key default? part := by
  obtain ⟨source, hsource, htext⟩ := h
  exact ⟨source, hsource, hpart.trans htext⟩

theorem IsSource.isPart (h : store.IsSource key default? text) : store.IsPart key default? text :=
  ⟨text, h, List.infix_rfl⟩

/-- What is found as a whole is a part of a text that the query starts from. -/
theorem HasOrigin.isPart (h : store.HasOrigin key default? text) : store.IsPart key default? text := by
  cases h with
  | stored stored => exact (IsSource.stored stored).isPart
  | default isDefault => exact (IsSource.default isDefault).isPart
  | written isWritten hasDefault =>
    exact isWritten.isPart.mono (Placeholder.default_isInfix_render hasDefault)

/-- A part that is read as a placeholder is that placeholder, written down. -/
theorem IsPart.isWritten (h : store.IsPart key default? text)
    (reads : Placeholder.read text = .placeholder p) : store.IsWritten key default? p := by
  obtain ⟨-, -, rfl⟩ := Placeholder.read_eq_placeholder_iff.1 reads
  exact ⟨reads, h⟩

/-! ### Runs -/

/-- A task leads on to what the query finds: it looks up a part of a text that the query starts from, evaluates
what is found as a whole, or expands a placeholder that is written down. -/
def IsTraced (store : Store) (key : String) (default? : Option String) : Task → Prop
  | .lookUp part => store.IsPart key default? part
  | .evaluate text => store.HasOrigin key default? text
  | .expand p => store.IsWritten key default? p

/-- A value has been found as a whole and is no placeholder, and a key that is reported as missing is no
placeholder and not in the store. -/
structure IsFounded (store : Store) (key : String) (default? : Option String) (outcome : Outcome) : Prop where
  value {text : String} : outcome = .ok (some text) →
    Placeholder.read text = .literal ∧ store.HasOrigin key default? text
  missing {k : String} : outcome = .error (.missing k) → Placeholder.read k = .literal ∧ store.get? k = none

theorem IsFounded.of_error {error : ResolveError} (h : ∀ k, error ≠ .missing k) :
    store.IsFounded key default? (.error error) :=
  ⟨by simp, fun {k} hmissing => absurd (Except.error.inj hmissing) (h k)⟩

theorem isFounded_none : store.IsFounded key default? (.ok none) := ⟨by simp, by simp⟩

/-- A key that is found absent may be reported as missing. -/
theorem isFounded_missing {k : String} (reads : Placeholder.read k = .literal) (absent : store.get? k = none) :
    store.IsFounded key default? (.error (.missing k)) := by
  refine ⟨by simp, fun hmissing => ?_⟩
  obtain rfl := ResolveError.missing.inj (Except.error.inj hmissing)
  exact ⟨reads, absent⟩

/-- A run from a traced task leads through traced tasks, and so ends with a founded outcome. -/
theorem isFounded_runWithin (budget : Nat) (chain : List String) (task : Task)
    (h : store.IsTraced key default? task) :
    store.IsFounded key default? (store.runWithin budget chain task) := by
  -- Texts are evaluated only after they have been found as a whole, and a key is looked up only as a part of
  -- one of them, which is why a task is traced by what it does and not by where it stands.
  induction budget, chain, task using store.run_induction with
  | lookUpKeyless reads =>
    rw [runWithin_lookUp_keyless reads]
    exact .of_error (by simp)
  | lookUpPlaceholder reads ih =>
    rw [runWithin_lookUp_placeholder reads]
    exact ih (IsPart.isWritten h reads)
  | lookUpSeen reads hkey =>
    rw [runWithin_lookUp_seen reads hkey]
    exact .of_error (by simp)
  | lookUpAbsent reads hkey absent =>
    rw [runWithin_lookUp_absent reads hkey absent]
    exact isFounded_none
  | lookUpStored reads hkey stored ih =>
    rw [runWithin_lookUp_stored reads hkey stored]
    exact ih (.stored stored)
  | evaluateLiteral reads =>
    rw [runWithin_evaluate_literal reads]
    refine ⟨fun hvalue => ?_, by simp⟩
    obtain rfl := Option.some.inj (Except.ok.inj hvalue)
    exact ⟨reads, h⟩
  | evaluateKeyless reads =>
    rw [runWithin_evaluate_keyless reads]
    exact .of_error (by simp)
  | evaluatePlaceholder reads ih =>
    rw [runWithin_evaluate_placeholder reads]
    -- What has been found is itself a part of some source, so the placeholder that it is stands written there.
    exact ih ((HasOrigin.isPart h).isWritten reads)
  | expandRefused =>
    rw [runWithin_expand_zero]
    exact .of_error (by simp)
  | @expandPresent _ _ p present ih =>
    rw [runWithin_expand_present rfl present]
    exact ih (IsPart.mono (IsWritten.isPart h) p.key_isInfix_render)
  | expandDefault absent hasDefault ih =>
    rw [runWithin_expand_default absent hasDefault]
    exact ih (.written h hasDefault)
  | expandMissing absent noDefault =>
    rw [runWithin_expand_missing absent noDefault]
    obtain ⟨reads, -, absent⟩ := runWithin_lookUp_eq_none_iff.1 absent
    exact isFounded_missing reads absent

/-! ### Queries -/

/-- A value is no placeholder, has been found as a whole, and is a part of a text that the query starts from. -/
structure IsFound (store : Store) (key : String) (default? : Option String) (value : String) : Prop where
  isShaped : Placeholder.isShaped value = false
  hasOrigin : store.HasOrigin key default? value
  isPart : store.IsPart key default? value

theorem isFounded_resolve (store : Store) (key : String) (default? : Option String) :
    store.IsFounded key default? (store.resolve key) :=
  isFounded_runWithin expansionLimit [] (.lookUp key) IsSource.key.isPart

theorem isFounded_resolveOr (store : Store) (key text : String) :
    store.IsFounded key (some text) ((store.resolveOr key text).map some) := by
  by_cases habsent : store.resolve key = .ok none
  · rw [map_resolveOr_of_absent habsent]
    exact isFounded_runWithin expansionLimit [] (.evaluate text) (.default rfl)
  · rw [map_resolveOr_of_present habsent]
    exact isFounded_resolve store key (some text)

theorem isFounded_require (store : Store) (key : String) :
    store.IsFounded key none ((store.require key).map some) := by
  by_cases habsent : store.resolve key = .ok none
  · obtain ⟨reads, absent⟩ := resolve_eq_none_iff.1 habsent
    rw [require, habsent]
    exact isFounded_missing reads absent
  · rw [map_require_of_present habsent]
    exact isFounded_resolve store key none

end Lookup.Store

namespace Lookup.Resolver

open Store

variable {ε : Type}

theorem isFound_of_mapError {store : Store} {key value : String} {default? : Option String} {outcome : Outcome}
    (h : store.IsFounded key default? outcome)
    (hvalue : outcome.mapError (ResolveError.failure (ε := ε)) = .ok (some value)) :
    store.IsFound key default? value := by
  cases outcome with
  | error error => simp [Except.mapError] at hvalue
  | ok found =>
    obtain ⟨reads, horigin⟩ := h.value (congrArg _ (Except.ok.inj hvalue))
    exact ⟨Placeholder.isShaped_eq_false_iff.2 reads, horigin, horigin.isPart⟩

theorem missing_of_mapError {store : Store} {key k : String} {default? : Option String} {outcome : Outcome}
    (h : store.IsFounded key default? outcome)
    (hmissing : outcome.mapError (ResolveError.failure (ε := ε)) = .error (ResolveError.missing k).failure) :
    Placeholder.isShaped k = false ∧ store.contains k = false := by
  cases outcome with
  | error error =>
    have herror : error = .missing k := by simpa [Except.mapError, ResolveError.failure] using hmissing
    obtain ⟨reads, absent⟩ := h.missing (congrArg _ herror)
    rw [Store.contains, absent]
    exact ⟨Placeholder.isShaped_eq_false_iff.2 reads, rfl⟩
  | ok found => simp [Except.mapError] at hmissing

/-- A query answers only texts that are no placeholders. Each of them is the value of a key of the store, the
default of the query or that of a placeholder that stands written in the key, in the default or in a value of
the store. And a key that is reported as missing is no placeholder and not in the store. -/
theorem get_isFounded (resolver : Resolver ε) (key : String) (default? : Option String) :
    (∀ value, resolver.get key default? = .ok (some value) → resolver.store.IsFound key default? value) ∧
    (∀ value, resolver.require key = .ok value → resolver.store.IsFound key none value) ∧
    (∀ k, resolver.get key default? = .error (ResolveError.missing k).failure →
      Placeholder.isShaped k = false ∧ resolver.store.contains k = false) ∧
    (∀ k, resolver.require key = .error (ResolveError.missing k).failure →
      Placeholder.isShaped k = false ∧ resolver.store.contains k = false) := by
  have hrequire := isFounded_require resolver.store key
  -- With a default and without one a query is another function, but either ends with a founded outcome.
  have hget : ∃ outcome, resolver.store.IsFounded key default? outcome ∧
      resolver.get key default? = outcome.mapError ResolveError.failure := by
    cases default? with
    | none => exact ⟨_, isFounded_resolve resolver.store key none, rfl⟩
    | some text => exact ⟨_, isFounded_resolveOr resolver.store key text, rfl⟩
  obtain ⟨outcome, hfounded, houtcome⟩ := hget
  rw [houtcome]
  refine ⟨fun value => isFound_of_mapError hfounded, fun value hvalue => ?_,
    fun k => missing_of_mapError hfounded, fun k hmissing => ?_⟩
  · refine isFound_of_mapError (ε := ε) hrequire ?_
    exact (map_require_eq_asked resolver key).symm.trans (congrArg (Except.map some) hvalue)
  · refine missing_of_mapError (ε := ε) hrequire ?_
    exact (map_require_eq_asked resolver key).symm.trans (congrArg (Except.map some) hmissing)

/-- A store with a default that is evaluated and with a reference to nothing. -/
def tracedStore : Store := .ofList [("a", "$\x7bb:x\x7d"), ("c", "$\x7bd\x7d")]

/-- A default inside a value is answered, and what a value refers to is missing. -/
theorem get_tracedStore :
    (⟨tracedStore, .builtin Time.almanac⟩ : Resolver Empty).get "a" none = .ok (some "x") ∧
    tracedStore.IsFound "a" (some "y") "x" ∧ tracedStore.IsFound "a" none "x" ∧
    (⟨tracedStore, .builtin Time.almanac⟩ : Resolver Empty).require "c" = .error (ResolveError.missing "d").failure ∧
    Placeholder.isShaped "d" = false ∧ tracedStore.contains "d" = false := by
  have hvalue : tracedStore.resolve "a" = .ok (some "x") ∧ tracedStore.resolveOr "a" "y" = .ok "x" ∧
      tracedStore.require "a" = .ok "x" := by decide +kernel
  have hmissing : tracedStore.require "c" = .error (.missing "d") := by decide +kernel
  obtain ⟨hresolve, hresolveOr, hrequire⟩ := hvalue
  obtain ⟨hget, -⟩ := get_isFounded (⟨tracedStore, .builtin Time.almanac⟩ : Resolver Empty) "a" (some "y")
  obtain ⟨-, hfound, -⟩ := get_isFounded (⟨tracedStore, .builtin Time.almanac⟩ : Resolver Empty) "a" none
  obtain ⟨-, -, -, habsent⟩ := get_isFounded (⟨tracedStore, .builtin Time.almanac⟩ : Resolver Empty) "c" none
  refine ⟨?_, hget "x" ?_, hfound "x" ?_, ?_, habsent "d" ?_⟩
  · rw [get, hresolve]
    rfl
  · rw [get, hresolveOr]
    rfl
  · rw [require, hrequire]
    rfl
  · rw [require, hmissing]
    rfl
  · rw [require, hmissing]
    rfl

end Lookup.Resolver
