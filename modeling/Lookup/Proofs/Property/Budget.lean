import Lookup.Proofs.Placeholder
import Lookup.Proofs.Property.Locality
import Lookup.Time.Almanac

/-!
# Placeholders in place of defaults

A query with a default is the expansion of a placeholder that has this key and this default, with one
expansion more to spend than the query itself may perform. So asking for the text of the placeholder comes to
the same answer as the query, unless the query performs as many expansions as are allowed: then the one that
the placeholder takes is missing at the end.

## Main definitions

* `Store.performed` — the number of expansions that a task performs under the guards
* `Store.performedByQuery` — the number of expansions that a query performs
* `Store.Shortens` — what becomes of a task when one expansion less is left for it

## Main results

* `Store.Ends.performed_eq` — a task that ends performs the expansions of its evaluation
* `Store.performed_le`, `Store.performedByQuery_le` — no more expansions are performed than are left
* `Store.shortens` — a task that does not perform the last expansion does without it, and any other task is
  refused
* `Resolver.get_render_eq` — a query for a placeholder and a query with a default
-/

namespace Lookup.Store

variable {store : Store} {task : Task} {outcome : Outcome} {budget n : Nat} {chain : List String}

/-! ### Counting expansions -/

/-- The number of expansions that are performed for a text, given the number for each placeholder. -/
def countText (count : List String → Placeholder → Nat) (chain : List String) (text : String) : Nat :=
  match Placeholder.read text with
  | .placeholder p => count chain p
  | _ => 0

/-- The number of expansions that are performed for a key, given the number for each placeholder. -/
def countKey (store : Store) (count : List String → Placeholder → Nat) (chain : List String)
    (key : String) : Nat :=
  match Placeholder.read key with
  | .keyless => 0
  | .placeholder p => count chain p
  | .literal =>
    if key ∈ chain then 0
    else
      match store.get? key with
      | none => 0
      | some text => countText count (chain ++ [key]) text

/-- The number of expansions that are performed for a placeholder when `budget` of them are left. One that is
refused is not performed. -/
def countWithin (store : Store) : Nat → List String → Placeholder → Nat
  | 0 => fun _ _ => 0
  | budget + 1 => fun chain p =>
    1 + store.countKey (store.countWithin budget) chain p.key +
      match store.lookUp (store.expandWithin budget) chain p.key, p.default? with
      | .ok none, some text => countText (store.countWithin budget) chain text
      | _, _ => 0

/-- The number of expansions that a task performs under the guards. -/
def performed (store : Store) (budget : Nat) (chain : List String) : Task → Nat
  | .lookUp key => store.countKey (store.countWithin budget) chain key
  | .evaluate text => countText (store.countWithin budget) chain text
  | .expand p => store.countWithin budget chain p

/-- The number of expansions that a query performs. -/
def performedByQuery (store : Store) (key : String) (default? : Option String) : Nat :=
  store.performed expansionLimit [] (.lookUp key) +
    match store.resolve key, default? with
    | .ok none, some text => store.performed expansionLimit [] (.evaluate text)
    | _, _ => 0

section

variable {key text : String} {p : Placeholder}

attribute [local simp] performed countKey countText

theorem performed_lookUp_keyless (reads : Placeholder.read key = .keyless) :
    store.performed budget chain (.lookUp key) = 0 := by
  simp [reads]

theorem performed_lookUp_placeholder (reads : Placeholder.read key = .placeholder p) :
    store.performed budget chain (.lookUp key) = store.performed budget chain (.expand p) := by
  simp [reads]

theorem performed_lookUp_seen (reads : Placeholder.read key = .literal) (hkey : key ∈ chain) :
    store.performed budget chain (.lookUp key) = 0 := by
  simp [reads, hkey]

theorem performed_lookUp_absent (reads : Placeholder.read key = .literal)
    (absent : store.get? key = none) : store.performed budget chain (.lookUp key) = 0 := by
  simp [reads, absent]

theorem performed_lookUp_stored (reads : Placeholder.read key = .literal) (hkey : key ∉ chain)
    (stored : store.get? key = some text) :
    store.performed budget chain (.lookUp key) =
      store.performed budget (chain ++ [key]) (.evaluate text) := by
  simp [reads, hkey, stored]

theorem performed_evaluate_literal (reads : Placeholder.read text = .literal) :
    store.performed budget chain (.evaluate text) = 0 := by
  simp [reads]

theorem performed_evaluate_keyless (reads : Placeholder.read text = .keyless) :
    store.performed budget chain (.evaluate text) = 0 := by
  simp [reads]

theorem performed_evaluate_placeholder (reads : Placeholder.read text = .placeholder p) :
    store.performed budget chain (.evaluate text) = store.performed budget chain (.expand p) := by
  simp [reads]

theorem performed_expand_zero : store.performed 0 chain (.expand p) = 0 := rfl

/-- Finding a key absent takes no expansion. -/
theorem performed_eq_zero_of_absent (h : store.runWithin budget chain (.lookUp key) = .ok none) :
    store.performed budget chain (.lookUp key) = 0 := by
  obtain ⟨reads, -, absent⟩ := runWithin_lookUp_eq_none_iff.1 h
  exact performed_lookUp_absent reads absent

theorem performed_expand_present (h : store.runWithin budget chain (.lookUp p.key) ≠ .ok none) :
    store.performed (budget + 1) chain (.expand p) =
      store.performed budget chain (.lookUp p.key) + 1 := by
  simp only [runWithin] at h
  simp only [performed, countWithin]
  split
  · next habsent _ => exact absurd habsent h
  · rw [Nat.add_zero, Nat.add_comm]

theorem performed_expand_default (h : store.runWithin budget chain (.lookUp p.key) = .ok none)
    (hasDefault : p.default? = some text) :
    store.performed (budget + 1) chain (.expand p) =
      store.performed budget chain (.evaluate text) + 1 := by
  have hzero := performed_eq_zero_of_absent h
  simp only [performed] at hzero
  simp only [runWithin] at h
  simp only [performed, countWithin, hzero, h, hasDefault]
  rw [Nat.add_comm]

theorem performed_expand_missing (h : store.runWithin budget chain (.lookUp p.key) = .ok none)
    (noDefault : p.default? = none) : store.performed (budget + 1) chain (.expand p) = 1 := by
  have hzero := performed_eq_zero_of_absent h
  simp only [performed] at hzero
  simp only [runWithin] at h
  simp only [performed, countWithin, hzero, h, noDefault]

/-- A placeholder performs one expansion more than the query for its key with its default. -/
theorem performed_expand_eq (store : Store) (p : Placeholder) :
    store.performed (expansionLimit + 1) [] (.expand p) = 1 + store.performedByQuery p.key p.default? :=
  Nat.add_assoc _ _ _

end

/-- A task that ends performs the expansions of its evaluation, if that many are left. -/
theorem Ends.performed_eq (h : store.Ends task outcome n) (hchain : store.Outlast chain (n + task.margin))
    (hn : n ≤ budget) : store.performed budget chain task = n := by
  -- As in `Ends.bounded_runWithin`, the keys of the chain go on outlasting what is left to do, so that no
  -- look-up is cut off by the chain.
  induction h generalizing budget chain with
  | lookUpKeyless reads => exact performed_lookUp_keyless reads
  | lookUpPlaceholder reads _ ih =>
    rw [performed_lookUp_placeholder reads]
    exact ih (hchain.mono (Nat.le_succ _)) hn
  | lookUpAbsent reads absent => exact performed_lookUp_absent reads absent
  | lookUpStored reads stored evaluates ih =>
    have hends := Ends.lookUpStored reads stored evaluates
    rw [performed_lookUp_stored reads (hchain.notMem hends) stored]
    exact ih ((hchain.mono (Nat.le_succ _)).concat hends) hn
  | evaluateLiteral reads => exact performed_evaluate_literal reads
  | evaluateKeyless reads => exact performed_evaluate_keyless reads
  | evaluatePlaceholder reads _ ih =>
    rw [performed_evaluate_placeholder reads]
    exact ih hchain hn
  | @expandPresent p outcome n looksUp present ih =>
    obtain ⟨less, rfl⟩ : ∃ less, budget = less + 1 := ⟨budget - 1, by omega⟩
    have hrun := (looksUp.bounded_runWithin hchain).1 (Nat.le_of_succ_le_succ hn)
    rw [performed_expand_present (hrun ▸ present)]
    exact congrArg (· + 1) (ih hchain (Nat.le_of_succ_le_succ hn))
  | @expandDefault p text outcome n m looksUp hasDefault _ _ ih =>
    obtain ⟨less, rfl⟩ : ∃ less, budget = less + 1 := ⟨budget - 1, by omega⟩
    obtain rfl := looksUp.count_eq_zero_of_absent
    have hkey : store.Outlast chain (0 + Task.margin (.lookUp p.key)) :=
      hchain.mono (by simp [Task.margin])
    have habsent := (looksUp.bounded_runWithin hkey).1 (Nat.zero_le less)
    rw [performed_expand_default habsent hasDefault, Nat.zero_add]
    exact congrArg (· + 1) (ih (hchain.mono (by simp [Task.margin])) (by omega))
  | @expandMissing p n looksUp noDefault _ =>
    obtain ⟨less, rfl⟩ : ∃ less, budget = less + 1 := ⟨budget - 1, by omega⟩
    obtain rfl := looksUp.count_eq_zero_of_absent
    have habsent := (looksUp.bounded_runWithin hchain).1 (Nat.zero_le less)
    exact performed_expand_missing habsent noDefault

/-- No more expansions are performed than are left. -/
theorem performed_le (store : Store) (budget : Nat) (chain : List String) (task : Task) :
    store.performed budget chain task ≤ budget := by
  induction budget, chain, task using store.run_induction with
  | lookUpKeyless reads => exact (performed_lookUp_keyless reads).trans_le (Nat.zero_le _)
  | lookUpPlaceholder reads ih => exact (performed_lookUp_placeholder reads).trans_le ih
  | lookUpSeen reads hkey => exact (performed_lookUp_seen reads hkey).trans_le (Nat.zero_le _)
  | lookUpAbsent reads _ absent => exact (performed_lookUp_absent reads absent).trans_le (Nat.zero_le _)
  | lookUpStored reads hkey stored ih => exact (performed_lookUp_stored reads hkey stored).trans_le ih
  | evaluateLiteral reads => exact (performed_evaluate_literal reads).trans_le (Nat.zero_le _)
  | evaluateKeyless reads => exact (performed_evaluate_keyless reads).trans_le (Nat.zero_le _)
  | evaluatePlaceholder reads ih => exact (performed_evaluate_placeholder reads).trans_le ih
  | expandRefused => exact performed_expand_zero.le
  | expandPresent present ih => exact (performed_expand_present present).trans_le (Nat.succ_le_succ ih)
  | expandDefault absent hasDefault ih =>
    exact (performed_expand_default absent hasDefault).trans_le (Nat.succ_le_succ ih)
  | expandMissing absent noDefault =>
    exact (performed_expand_missing absent noDefault).trans_le (Nat.succ_le_succ (Nat.zero_le _))

/-- A query performs no more expansions than are allowed, since finding its key absent takes none. -/
theorem performedByQuery_le (store : Store) (key : String) (default? : Option String) :
    store.performedByQuery key default? ≤ expansionLimit := by
  unfold performedByQuery
  split
  · next text habsent =>
    rw [performed_eq_zero_of_absent habsent, Nat.zero_add]
    exact performed_le store expansionLimit [] (.evaluate text)
  · exact performed_le store expansionLimit [] (.lookUp key)

/-- A query whose key is not absent performs the expansions of its evaluation. -/
theorem Ends.performedByQuery_eq {key : String} (h : store.Ends (.lookUp key) outcome n)
    (present : outcome ≠ .ok none) (hn : n ≤ expansionLimit) (default? : Option String) :
    store.performedByQuery key default? = n := by
  have hcount : store.performed expansionLimit [] (.lookUp key) = n :=
    h.performed_eq (fun _ hkey => absurd hkey List.not_mem_nil) hn
  unfold performedByQuery
  rw [hcount, h.bounded_resolve.1 hn]
  match outcome, present with
  | .error _, _ => rfl
  | .ok (some _), _ => rfl

/-! ### One expansion less -/

/-- With one expansion less a task comes to the same if it does not perform the last one, and is refused if it
does. -/
def Shortens (store : Store) (budget : Nat) (chain : List String) (task : Task) : Prop :=
  (store.performed (budget + 1) chain task ≤ budget →
    store.runWithin budget chain task = store.runWithin (budget + 1) chain task) ∧
  (budget < store.performed (budget + 1) chain task →
    ∃ key, store.runWithin budget chain task = .error (.depth key expansionLimit))

/-- A task that performs no expansion does not depend on the number of them. -/
theorem Shortens.of_eq (hcount : store.performed (budget + 1) chain task = 0)
    (hrun : store.runWithin budget chain task = store.runWithin (budget + 1) chain task) :
    store.Shortens budget chain task :=
  ⟨fun _ => hrun, fun hlt => absurd hlt (by omega)⟩

/-- A task shortens as the task that it comes down to. -/
theorem Shortens.of_callee {callee : Task} {chain' : List String}
    (h : store.Shortens budget chain' callee)
    (hcount : store.performed (budget + 1) chain task = store.performed (budget + 1) chain' callee)
    (hrun : ∀ budget, store.runWithin budget chain task = store.runWithin budget chain' callee) :
    store.Shortens budget chain task := by
  rw [Shortens, hcount, hrun, hrun]
  exact h

/-- A placeholder shortens as the task that it comes down to with one expansion less. -/
theorem Shortens.of_expands {callee : Task} {p : Placeholder} (h : store.Shortens budget chain callee)
    (hcount : store.performed (budget + 2) chain (.expand p) = store.performed (budget + 1) chain callee + 1)
    (hless : store.runWithin (budget + 1) chain (.expand p) = store.runWithin budget chain callee)
    (hrun : store.runWithin (budget + 2) chain (.expand p) = store.runWithin (budget + 1) chain callee) :
    store.Shortens (budget + 1) chain (.expand p) := by
  rw [Shortens, hcount, hless, hrun]
  exact ⟨fun hle => h.1 (by omega), fun hlt => h.2 (by omega)⟩

theorem shortens (store : Store) (budget : Nat) (chain : List String) (task : Task) :
    store.Shortens budget chain task := by
  -- The induction is on the run with fewer expansions. The other run takes the same way as long as this one
  -- goes on, since neither the chain nor what is absent depends on the number of expansions.
  induction budget, chain, task using store.run_induction with
  | lookUpKeyless reads =>
    refine .of_eq (performed_lookUp_keyless reads) ?_
    rw [runWithin_lookUp_keyless reads, runWithin_lookUp_keyless reads]
  | lookUpPlaceholder reads ih =>
    exact ih.of_callee (performed_lookUp_placeholder reads) fun _ => runWithin_lookUp_placeholder reads
  | lookUpSeen reads hkey =>
    refine .of_eq (performed_lookUp_seen reads hkey) ?_
    rw [runWithin_lookUp_seen reads hkey, runWithin_lookUp_seen reads hkey]
  | lookUpAbsent reads hkey absent =>
    refine .of_eq (performed_lookUp_absent reads absent) ?_
    rw [runWithin_lookUp_absent reads hkey absent, runWithin_lookUp_absent reads hkey absent]
  | lookUpStored reads hkey stored ih =>
    exact ih.of_callee (performed_lookUp_stored reads hkey stored) fun _ =>
      runWithin_lookUp_stored reads hkey stored
  | evaluateLiteral reads =>
    refine .of_eq (performed_evaluate_literal reads) ?_
    rw [runWithin_evaluate_literal reads, runWithin_evaluate_literal reads]
  | evaluateKeyless reads =>
    refine .of_eq (performed_evaluate_keyless reads) ?_
    rw [runWithin_evaluate_keyless reads, runWithin_evaluate_keyless reads]
  | evaluatePlaceholder reads ih =>
    exact ih.of_callee (performed_evaluate_placeholder reads) fun _ => runWithin_evaluate_placeholder reads
  | @expandRefused chain p =>
    -- The one expansion that there was is the one that is missing.
    have hpos : 0 < store.performed (0 + 1) chain (.expand p) := by
      simp only [performed, countWithin]
      omega
    exact ⟨fun hle => absurd hpos (by omega), fun _ => ⟨p.key, runWithin_expand_zero⟩⟩
  | @expandPresent budget chain p present ih =>
    have hpresent : store.runWithin (budget + 1) chain (.lookUp p.key) ≠ .ok none := fun habsent =>
      present (runWithin_lookUp_eq_none_of_eq habsent budget)
    exact ih.of_expands (performed_expand_present hpresent) (runWithin_expand_present rfl present)
      (runWithin_expand_present rfl hpresent)
  | @expandDefault budget chain p text absent hasDefault ih =>
    have habsent := runWithin_lookUp_eq_none_of_eq absent (budget + 1)
    exact ih.of_expands (performed_expand_default habsent hasDefault)
      (runWithin_expand_default absent hasDefault) (runWithin_expand_default habsent hasDefault)
  | @expandMissing budget chain p absent noDefault =>
    have habsent := runWithin_lookUp_eq_none_of_eq absent (budget + 1)
    have hcount := performed_expand_missing habsent noDefault
    refine ⟨fun _ => ?_, fun hlt => absurd hlt (by omega)⟩
    rw [runWithin_expand_missing absent noDefault, runWithin_expand_missing habsent noDefault]

/-- A task that is refused is refused with one expansion less. -/
theorem runWithin_eq_depth_of_succ {key : String}
    (h : store.runWithin (budget + 1) chain task = .error (.depth key expansionLimit)) :
    ∃ k, store.runWithin budget chain task = .error (.depth k expansionLimit) := by
  obtain ⟨hsame, hrefused⟩ := store.shortens budget chain task
  rcases Nat.lt_or_ge budget (store.performed (budget + 1) chain task) with hlt | hle
  · exact hrefused hlt
  · exact ⟨key, (hsame hle).trans h⟩

/-! ### Queries -/

theorem map_require_of_present {key : String} (h : store.resolve key ≠ .ok none) :
    (store.require key).map some = store.resolve key := by
  rw [require]
  cases hresolve : store.resolve key with
  | error error => rfl
  | ok value? =>
    cases value? with
    | none => exact absurd hresolve h
    | some value => rfl

/-- What asking for the key of a placeholder comes to, with its default or without one. -/
def asked (store : Store) (p : Placeholder) : Outcome :=
  match p.default? with
  | some text => (store.resolveOr p.key text).map some
  | none => (store.require p.key).map some

/-- A query is an expansion with one expansion more than the query may perform. -/
theorem runWithin_expand_eq_asked (p : Placeholder) :
    store.runWithin (expansionLimit + 1) [] (.expand p) = store.asked p := by
  by_cases habsent : store.resolve p.key = .ok none
  · cases hdefault : p.default? with
    | none =>
      rw [runWithin_expand_missing habsent hdefault]
      simp only [asked, hdefault, require, habsent, Except.map]
    | some text =>
      rw [runWithin_expand_default habsent hdefault, ← map_resolveOr_of_absent habsent]
      simp only [asked, hdefault]
  · rw [runWithin_expand_present rfl habsent, ← resolve_eq_runWithin]
    cases hdefault : p.default? with
    | none =>
      simp only [asked, hdefault]
      exact (map_require_of_present habsent).symm
    | some text =>
      simp only [asked, hdefault]
      exact (map_resolveOr_of_present habsent text).symm

/-- Looking up the text of a placeholder is expanding it. -/
theorem resolve_render {p : Placeholder} (hkey : p.key ≠ "") (hcolon : ':' ∉ p.key.toList) :
    store.resolve p.render = store.runWithin expansionLimit [] (.expand p) :=
  runWithin_lookUp_placeholder (Placeholder.read_eq_placeholder_iff.2 ⟨hkey, hcolon, rfl⟩)

/-- Looking up the text of a placeholder comes to what asking for its key does, if that leaves an expansion,
and is refused if it does not. -/
theorem resolve_render_bounded (store : Store) (p : Placeholder) (hkey : p.key ≠ "")
    (hcolon : ':' ∉ p.key.toList) :
    (store.performedByQuery p.key p.default? < expansionLimit → store.resolve p.render = store.asked p) ∧
    ((store.performedByQuery p.key p.default? = expansionLimit ∨
      ∃ key, store.asked p = .error (.depth key expansionLimit)) →
        ∃ key, store.resolve p.render = .error (.depth key expansionLimit)) := by
  obtain ⟨hsame, hrefused⟩ := store.shortens expansionLimit [] (.expand p)
  rw [performed_expand_eq] at hsame hrefused
  rw [resolve_render hkey hcolon]
  rw [runWithin_expand_eq_asked] at hsame
  -- The placeholder is one expansion on top of those of the query, so the query may perform all but one.
  refine ⟨fun hlt => hsame (by omega), ?_⟩
  rintro (hcount | ⟨key, hdepth⟩)
  · exact hrefused (by omega)
  · exact runWithin_eq_depth_of_succ ((runWithin_expand_eq_asked p).trans hdepth)

end Lookup.Store

namespace Lookup.Resolver

open Store

variable {ε α : Type}

/-- A query ends in the report that there are too many placeholders. -/
def IsTooDeep (result : Except (Failure ε) α) : Prop :=
  ∃ key, result = .error (ResolveError.depth key expansionLimit).failure

theorem isTooDeep_mapError_iff {result : Except ResolveError α} :
    IsTooDeep (result.mapError (ResolveError.failure (ε := ε))) ↔
      ∃ key, result = .error (.depth key expansionLimit) := by
  cases result with
  | error error => simp [IsTooDeep, Except.mapError, ResolveError.failure]
  | ok value => simp [IsTooDeep, Except.mapError]

theorem isTooDeep_map_iff {result : Except (Failure ε) α} {β : Type} (f : α → β) :
    IsTooDeep (result.map f) ↔ IsTooDeep result := by
  cases result <;> simp [IsTooDeep, Except.map]

theorem get_eq_asked (resolver : Resolver ε) (key text : String) :
    resolver.get key (some text) = (resolver.store.asked ⟨key, some text⟩).mapError ResolveError.failure :=
  rfl

theorem map_require_eq_asked (resolver : Resolver ε) (key : String) :
    (resolver.require key).map some = (resolver.store.asked ⟨key, none⟩).mapError ResolveError.failure := by
  simp only [require, asked]
  cases resolver.store.require key <;> rfl

theorem get_eq_none_iff_resolve {resolver : Resolver ε} {key : String} :
    resolver.get key none = .ok none ↔ resolver.store.resolve key = .ok none := by
  rw [get]
  cases resolver.store.resolve key <;> simp [Except.mapError]

/-- Asking for the text of a placeholder is asking for its key with its default, or for its key as one that
must be there. The answer is the same as long as fewer expansions are performed for it than are allowed; if
all of them are, or too many, the one for the placeholder itself is too many. A default does not matter for a
key that is not absent, and absent are the plain keys that have no value, be it an empty one. -/
theorem get_render_eq (resolver : Resolver ε) (key text : String) :
    (key ≠ "" → ':' ∉ key.toList →
      (resolver.store.performedByQuery key (some text) < expansionLimit →
        resolver.get (Placeholder.render ⟨key, some text⟩) none = resolver.get key (some text)) ∧
      (resolver.store.performedByQuery key (some text) = expansionLimit ∨
        IsTooDeep (resolver.get key (some text)) →
          IsTooDeep (resolver.get (Placeholder.render ⟨key, some text⟩) none)) ∧
      (resolver.store.performedByQuery key none < expansionLimit →
        resolver.get (Placeholder.render ⟨key, none⟩) none = (resolver.require key).map some) ∧
      (resolver.store.performedByQuery key none = expansionLimit ∨ IsTooDeep (resolver.require key) →
        IsTooDeep (resolver.get (Placeholder.render ⟨key, none⟩) none))) ∧
    (resolver.get key none ≠ .ok none → resolver.get key (some text) = resolver.get key none) ∧
    (resolver.get key none = .ok none ↔
      Placeholder.isShaped key = false ∧ resolver.store.contains key = false) := by
  refine ⟨fun hkey hcolon => ?_, fun hpresent => ?_, ?_⟩
  · have hdefault := resolver.store.resolve_render_bounded ⟨key, some text⟩ hkey hcolon
    have hnone := resolver.store.resolve_render_bounded ⟨key, none⟩ hkey hcolon
    refine ⟨fun hlt => ?_, fun h => ?_, fun hlt => ?_, fun h => ?_⟩
    · rw [get, hdefault.1 hlt, get_eq_asked]
    · rw [get_eq_asked, isTooDeep_mapError_iff] at h
      exact isTooDeep_mapError_iff.2 (hdefault.2 h)
    · rw [get, hnone.1 hlt, map_require_eq_asked]
    · rw [← isTooDeep_map_iff some, map_require_eq_asked, isTooDeep_mapError_iff] at h
      exact isTooDeep_mapError_iff.2 (hnone.2 h)
  · rw [ne_eq, get_eq_none_iff_resolve] at hpresent
    rw [get, get, map_resolveOr_of_present hpresent]
  · rw [get_eq_none_iff_resolve, resolve_eq_none_iff, Placeholder.isShaped_eq_false_iff, Store.contains,
      Option.isSome_eq_false_iff, Option.isNone_iff_eq_none]

/-- A text that takes a number of expansions, all but the first for the default of the one before it. -/
def nestedDefaults : Nat → String
  | 0 => "x"
  | n + 1 => Placeholder.render ⟨"b", some (nestedDefaults n)⟩

/-- A store with such a text. -/
def nestedStore (n : Nat) : Store := .ofList [("a", nestedDefaults n)]

theorem ends_nestedDefaults {store : Store} (absent : store.get? "b" = none) (n : Nat) :
    store.Ends (.evaluate (nestedDefaults n)) (.ok (some "x")) n := by
  have hkey : "b" ≠ "" := by decide
  have hcolon : ':' ∉ "b".toList := by decide
  have plain : Placeholder.read "b" = .literal := by decide
  induction n with
  | zero => exact .evaluateLiteral (by decide)
  | succ n ih =>
    have reads : Placeholder.read (nestedDefaults (n + 1)) = .placeholder ⟨"b", some (nestedDefaults n)⟩ :=
      Placeholder.read_eq_placeholder_iff.2 ⟨hkey, hcolon, rfl⟩
    -- Finding the key absent takes no expansion.
    have hends : store.Ends (.expand ⟨"b", some (nestedDefaults n)⟩) (.ok (some "x")) (0 + n + 1) :=
      .expandDefault (.lookUpAbsent plain absent) rfl ih
    rw [Nat.zero_add] at hends
    exact .evaluatePlaceholder reads hends

theorem ends_nestedStore (n : Nat) : (nestedStore n).Ends (.lookUp "a") (.ok (some "x")) n :=
  .lookUpStored (by decide) get?_ofList (ends_nestedDefaults get?_ofList n)

/-- With 63 expansions behind the key there is one for the placeholder, with 64 there is none. -/
theorem get_render_nestedStore :
    (∀ text, (⟨nestedStore 63, .builtin Time.almanac⟩ : Resolver Empty).get (Placeholder.render ⟨"a", some text⟩) none =
      .ok (some "x")) ∧
    (⟨nestedStore 64, .builtin Time.almanac⟩ : Resolver Empty).get "a" (some "y") = .ok (some "x") ∧
    IsTooDeep ((⟨nestedStore 64, .builtin Time.almanac⟩ : Resolver Empty).get
      (Placeholder.render ⟨"a", some "y"⟩) none) ∧
    IsTooDeep ((⟨nestedStore 64, .builtin Time.almanac⟩ : Resolver Empty).get
      (Placeholder.render ⟨"a", none⟩) none) := by
  have hcount : ∀ n ≤ expansionLimit, ∀ default?, (nestedStore n).performedByQuery "a" default? = n :=
    fun n hn default? => (ends_nestedStore n).performedByQuery_eq (by simp) hn default?
  have hget : ∀ n ≤ expansionLimit, (⟨nestedStore n, .builtin Time.almanac⟩ : Resolver Empty).get "a" none =
      .ok (some "x") := by
    intro n hn
    rw [get, (ends_nestedStore n).bounded_resolve.1 hn]
    rfl
  have hwithin : (63 : Nat) ≤ expansionLimit := by decide
  refine ⟨fun text => ?_, ?_, ?_, ?_⟩
  · obtain ⟨hsame, hdefault, -⟩ := get_render_eq (⟨nestedStore 63, .builtin Time.almanac⟩ : Resolver Empty) "a" text
    have hpresent := hget 63 hwithin
    rw [(hsame (by decide) (by decide)).1 ((hcount 63 hwithin _).trans_lt (by decide)),
      hdefault (by simp [hpresent]), hpresent]
  · obtain ⟨-, hdefault, -⟩ := get_render_eq (⟨nestedStore 64, .builtin Time.almanac⟩ : Resolver Empty) "a" "y"
    have hpresent := hget 64 le_rfl
    rw [hdefault (by simp [hpresent]), hpresent]
  · obtain ⟨hwrap, -⟩ := get_render_eq (⟨nestedStore 64, .builtin Time.almanac⟩ : Resolver Empty) "a" "y"
    exact (hwrap (by decide) (by decide)).2.1 (.inl (hcount 64 le_rfl _))
  · obtain ⟨hwrap, -⟩ := get_render_eq (⟨nestedStore 64, .builtin Time.almanac⟩ : Resolver Empty) "a" "y"
    exact (hwrap (by decide) (by decide)).2.2.2 (.inl (hcount 64 le_rfl _))

end Lookup.Resolver
