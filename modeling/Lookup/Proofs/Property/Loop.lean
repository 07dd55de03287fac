import Mathlib.Data.List.Nodup
import Lookup.Proofs.Property.Guards
import Lookup.Property.Resolver
import Lookup.Time.Almanac

/-!
# Reports of loops

A loop is reported when an evaluation is about to look up a stored key that it has looked up before. The
chain in the report is the history of the evaluation: all stored keys that it has looked up, in order,
and the repeated one at the end. Keys that were absent and gave way to a default leave no trace in it.
A loop counts only as long as no more expansions than allowed have been performed on the way.

## Main definitions

* `Store.Leads` — an evaluation comes from one task to another, with the stored keys that it looks up
  and the number of its expansions on the way
* `Store.IsFirstRepeat` — an evaluation comes back to a stored key for the first time
* `Store.LooksUpNext` — the stored key that evaluating the text of another one looks up next
* `Store.IsHistory` — what the chain in a report says about the store
* `Store.queried` — the task that a query comes down to

## Main results

* `Store.IsFirstRepeat.runWithin_eq_cycle` — coming back to a key is reported
* `Store.exists_isFirstRepeat_of_runWithin` — what is reported is coming back to a key
* `Store.IsFirstRepeat.isHistory` — the chain in a report is a history
* `Resolver.get_eq_cycle_iff_and_isHistory` — the three together for a query
-/

namespace Lookup.Store

variable {store : Store} {task last : Task} {keys chain : List String} {repeated : String}
  {n budget : Nat}

/-! ### The history of an evaluation -/

/-- The stored key that a task looks up, if it looks up one. -/
def Task.storedKeys (store : Store) : Task → List String
  | .lookUp key =>
    match Placeholder.read key, store.get? key with
    | .literal, some _ => [key]
    | _, _ => []
  | _ => []

/-- The number of expansions that a task is itself. -/
def Task.expansions : Task → Nat
  | .expand _ => 1
  | _ => 0

/-- The evaluation of a task comes to another task after it has looked up stored keys, in this order,
and has performed a number of expansions. -/
inductive Leads (store : Store) : Task → List String → Nat → Task → Prop
  | here {task : Task} : Leads store task [] 0 task
  | call {task callee last : Task} {keys : List String} {n : Nat} (calls : store.Calls task callee)
      (leads : Leads store callee keys n last) :
      Leads store task (task.storedKeys store ++ keys) (task.expansions + n) last

theorem Task.storedKeys_eq_nil {key : String} (h : Placeholder.read key ≠ .literal) :
    Task.storedKeys store (.lookUp key) = [] := by
  rw [storedKeys]
  split
  · next reads _ => exact absurd reads h
  · rfl

theorem Task.storedKeys_eq_singleton {key text : String} (reads : Placeholder.read key = .literal)
    (stored : store.get? key = some text) : Task.storedKeys store (.lookUp key) = [key] := by
  rw [storedKeys, reads, stored]

/-- Each key in the history of an evaluation is plain and in the store. -/
theorem Leads.plain_and_stored (h : store.Leads task keys n last) :
    ∀ key ∈ keys, Placeholder.read key = .literal ∧ store.get? key ≠ none := by
  induction h with
  | here => simp
  | @call task callee last keys n calls _ ih =>
    intro key hkey
    rcases List.mem_append.1 hkey with hkey | hkey
    · cases task with
      | lookUp own =>
        rw [Task.storedKeys] at hkey
        split at hkey
        · next reads stored =>
          obtain rfl := List.mem_singleton.1 hkey
          exact ⟨reads, by simp [stored]⟩
        · exact absurd hkey List.not_mem_nil
      | evaluate text => exact absurd hkey List.not_mem_nil
      | expand p => exact absurd hkey List.not_mem_nil
    · exact ih key hkey

/-- An evaluation that leads to a task which ends goes on to the same outcome, after the expansions on the
way and those of the task. -/
theorem Leads.ends {outcome : Outcome} {m : Nat} (h : store.Leads task keys n last)
    (hends : store.Ends last outcome m) (present : outcome ≠ .ok none) :
    store.Ends task outcome (n + m) := by
  induction h with
  | here => rwa [Nat.zero_add]
  | @call task callee last keys n calls _ ih =>
    have hcallee := ih hends
    cases calls with
    | lookUpPlaceholder reads =>
      simpa [Task.expansions] using Ends.lookUpPlaceholder reads hcallee
    | lookUpStored reads stored =>
      simpa [Task.expansions] using Ends.lookUpStored reads stored hcallee
    | evaluatePlaceholder reads =>
      simpa [Task.expansions] using Ends.evaluatePlaceholder reads hcallee
    | expandKey =>
      have hexpand := Ends.expandPresent hcallee present
      rwa [Nat.add_comm, ← Nat.add_assoc] at hexpand
    | expandDefault looksUp hasDefault =>
      -- Finding the key absent has taken no expansion.
      have hexpand := Ends.expandDefault looksUp hasDefault hcallee
      rwa [looksUp.count_eq_zero_of_absent, Nat.zero_add, Nat.add_comm, ← Nat.add_assoc] at hexpand

/-! ### Coming back to a key -/

/-- After the stored keys of a chain the evaluation of a task looks up further ones, all of them
different, and then comes back to one of all these for the first time. -/
structure IsFirstRepeat (store : Store) (chain : List String) (task : Task) (keys : List String)
    (repeated : String) (n : Nat) : Prop where
  leads : store.Leads task keys n (.lookUp repeated)
  reads : Placeholder.read repeated = .literal
  nodup : (chain ++ keys).Nodup
  mem : repeated ∈ chain ++ keys

/-- All keys of a chain are in the store. -/
def AllStored (store : Store) (chain : List String) : Prop := ∀ key ∈ chain, store.get? key ≠ none

theorem AllStored.notMem {key : String} (h : store.AllStored chain) (absent : store.get? key = none) :
    key ∉ chain := fun hkey => h key hkey absent

theorem AllStored.concat {key text : String} (h : store.AllStored chain)
    (stored : store.get? key = some text) : store.AllStored (chain ++ [key]) := by
  intro other hother
  rcases List.mem_append.1 hother with hother | hother
  · exact h other hother
  · rw [List.mem_singleton.1 hother, stored]
    simp

/-- A task that leads to another one on to a key that is looked up again does so under the guards,
provided that the expansions suffice. -/
theorem runWithin_eq_cycle_of_leads (hleads : store.Leads task keys n last)
    (hlast : last = .lookUp repeated) (hreads : Placeholder.read repeated = .literal)
    (hchain : store.AllStored chain) (hnodup : (chain ++ keys).Nodup) (hmem : repeated ∈ chain ++ keys)
    (hn : n ≤ budget) :
    store.runWithin budget chain task = .error (.cycle (chain ++ keys ++ [repeated])) := by
  -- Along the way the chain takes in the keys one by one, and the budget covers the expansions left.
  induction hleads generalizing budget chain with
  | here =>
    subst hlast
    rw [List.append_nil] at hmem ⊢
    exact runWithin_lookUp_seen hreads hmem
  | call calls _ ih =>
    cases calls with
    | lookUpPlaceholder reads =>
      rw [Task.storedKeys_eq_nil (by simp [reads]), List.nil_append] at hnodup hmem ⊢
      rw [runWithin_lookUp_placeholder reads]
      exact ih hlast hchain hnodup hmem (by simpa [Task.expansions] using hn)
    | @lookUpStored key text reads stored =>
      rw [Task.storedKeys_eq_singleton reads stored, List.append_cons, List.append_assoc,
        List.singleton_append, List.append_cons] at *
      have hkey : key ∉ chain := by
        intro hkey
        exact (List.nodup_append.1 (List.nodup_append.1 hnodup).1).2.2 key hkey key
          List.mem_cons_self rfl
      rw [runWithin_lookUp_stored reads hkey stored]
      exact ih hlast (hchain.concat stored) hnodup hmem (by simpa [Task.expansions] using hn)
    | evaluatePlaceholder reads =>
      rw [runWithin_evaluate_placeholder reads]
      exact ih hlast hchain hnodup hmem (by simpa [Task.expansions] using hn)
    | expandKey =>
      obtain ⟨budget, rfl⟩ : ∃ less, budget = less + 1 :=
        ⟨budget - 1, by simp only [Task.expansions] at hn; omega⟩
      refine runWithin_expand_present (ih hlast hchain hnodup hmem ?_) (by simp)
      simp only [Task.expansions] at hn
      omega
    | expandDefault looksUp hasDefault =>
      obtain ⟨budget, rfl⟩ : ∃ less, budget = less + 1 :=
        ⟨budget - 1, by simp only [Task.expansions] at hn; omega⟩
      -- The key was found absent, so that it is not in the chain and leaves no trace there.
      obtain ⟨key, hkey, reads, absent, -⟩ := looksUp.exists_lookUp_of_absent
      obtain rfl := Task.lookUp.inj hkey
      have habsent : store.runWithin budget chain (.lookUp _) = .ok none :=
        runWithin_lookUp_absent reads (hchain.notMem absent) absent
      rw [runWithin_expand_default habsent hasDefault]
      exact ih hlast hchain hnodup hmem (by simp only [Task.expansions] at hn; omega)

theorem IsFirstRepeat.runWithin_eq_cycle (h : store.IsFirstRepeat chain task keys repeated n)
    (hchain : store.AllStored chain) (hn : n ≤ budget) :
    store.runWithin budget chain task = .error (.cycle (chain ++ keys ++ [repeated])) :=
  runWithin_eq_cycle_of_leads h.leads rfl h.reads hchain h.nodup h.mem hn

/-! ### Reports -/

/-- A key that is found absent under the guards is absent from the store. -/
theorem ends_of_runWithin_eq_none {key : String}
    (h : store.runWithin budget chain (.lookUp key) = .ok none) :
    store.Ends (.lookUp key) (.ok none) 0 := by
  have hall : store.EndsAsRun budget (.lookUp key) := endsAsRun_lookUp (endsAsRun_expand budget) key
  have hends := hall chain
  rw [h] at hends
  obtain ⟨n, looksUp⟩ := hends (by simp [IsGuard])
  obtain rfl := looksUp.count_eq_zero_of_absent
  exact looksUp

/-- A report says that the evaluation of a task after a chain comes back to a key before more than
`budget` expansions: the chain, the keys on the way and the repeated one. -/
def ReportsRepeat (store : Store) (budget : Nat) (chain : List String) (task : Task)
    (report : List String) : Prop :=
  ∃ keys repeated n, store.IsFirstRepeat chain task keys repeated n ∧ n ≤ budget ∧
    report = chain ++ keys ++ [repeated]

variable {callee : Task} {report : List String}

/-- What is reported of a task that another one calls for is reported of that one. -/
theorem ReportsRepeat.of_call (calls : store.Calls task callee)
    (h : store.ReportsRepeat budget (chain ++ task.storedKeys store) callee report) :
    store.ReportsRepeat (task.expansions + budget) chain task report := by
  obtain ⟨keys, repeated, n, ⟨leads, reads, nodup, mem⟩, hn, rfl⟩ := h
  rw [List.append_assoc] at nodup mem
  refine ⟨task.storedKeys store ++ keys, repeated, task.expansions + n,
    ⟨.call calls leads, reads, nodup, mem⟩, by omega, ?_⟩
  rw [List.append_assoc chain]

/-- Whatever loop is found in a task under the guards is reported of it. -/
def FindsRepeat (store : Store) (budget : Nat) (task : Task) : Prop :=
  ∀ chain report, chain.Nodup → store.AllStored chain →
    store.runWithin budget chain task = .error (.cycle report) →
      store.ReportsRepeat budget chain task report

section

variable (hexpand : ∀ p, store.FindsRepeat budget (.expand p))
include hexpand

theorem findsRepeat_evaluate (text : String) : store.FindsRepeat budget (.evaluate text) := by
  intro chain report hnodup hchain hrun
  cases reads : Placeholder.read text with
  | literal =>
    rw [runWithin_evaluate_literal reads] at hrun
    simp at hrun
  | keyless =>
    rw [runWithin_evaluate_keyless reads] at hrun
    simp at hrun
  | placeholder p =>
    rw [runWithin_evaluate_placeholder reads] at hrun
    have hreport := hexpand p chain report hnodup hchain hrun
    rw [← List.append_nil chain] at hreport
    simpa [Task.expansions] using ReportsRepeat.of_call (.evaluatePlaceholder reads) hreport

theorem findsRepeat_lookUp (key : String) : store.FindsRepeat budget (.lookUp key) := by
  intro chain report hnodup hchain hrun
  cases reads : Placeholder.read key with
  | keyless =>
    rw [runWithin_lookUp_keyless reads] at hrun
    simp at hrun
  | placeholder p =>
    rw [runWithin_lookUp_placeholder reads] at hrun
    have hreport := hexpand p chain report hnodup hchain hrun
    have hkeys : Task.storedKeys store (.lookUp key) = [] := Task.storedKeys_eq_nil (by simp [reads])
    rw [← List.append_nil chain, ← hkeys] at hreport
    simpa [Task.expansions] using ReportsRepeat.of_call (.lookUpPlaceholder reads) hreport
  | literal =>
    by_cases hkey : key ∈ chain
    · -- The guard reports the key at once: nothing is looked up on the way.
      rw [runWithin_lookUp_seen reads hkey] at hrun
      obtain rfl : chain ++ [key] = report := by simpa using hrun
      refine ⟨[], key, 0, ⟨.here, reads, ?_, ?_⟩, Nat.zero_le budget, by rw [List.append_nil]⟩
      · rwa [List.append_nil]
      · rwa [List.append_nil]
    · cases stored : store.get? key with
      | none =>
        rw [runWithin_lookUp_absent reads hkey stored] at hrun
        simp at hrun
      | some text =>
        rw [runWithin_lookUp_stored reads hkey stored] at hrun
        have hnodup' : (chain ++ [key]).Nodup := by
          refine List.nodup_append.2 ⟨hnodup, List.nodup_singleton key, ?_⟩
          intro other hother same hsame heq
          exact hkey (List.mem_singleton.1 hsame ▸ heq ▸ hother)
        have hreport := findsRepeat_evaluate hexpand text _ report hnodup' (hchain.concat stored) hrun
        rw [← Task.storedKeys_eq_singleton reads stored] at hreport
        simpa [Task.expansions] using ReportsRepeat.of_call (.lookUpStored reads stored) hreport

/-- One more expansion is allowed for a placeholder than for what it leads to. -/
theorem findsRepeat_expand_succ (p : Placeholder) : store.FindsRepeat (budget + 1) (.expand p) := by
  intro chain report hnodup hchain hrun
  generalize hresult : store.runWithin budget chain (.lookUp p.key) = result
  by_cases present : result = .ok none
  · subst present
    cases hasDefault : p.default? with
    | none =>
      rw [runWithin_expand_missing hresult hasDefault] at hrun
      simp at hrun
    | some text =>
      rw [runWithin_expand_default hresult hasDefault] at hrun
      have hreport := findsRepeat_evaluate hexpand text chain report hnodup hchain hrun
      rw [← List.append_nil chain] at hreport
      rw [Nat.add_comm]
      exact ReportsRepeat.of_call
        (.expandDefault (ends_of_runWithin_eq_none hresult) hasDefault) hreport
  · rw [runWithin_expand_present hresult present] at hrun
    have hreport := findsRepeat_lookUp hexpand p.key chain report hnodup hchain (hresult.trans hrun)
    rw [← List.append_nil chain] at hreport
    rw [Nat.add_comm]
    exact ReportsRepeat.of_call .expandKey hreport

end

theorem findsRepeat_expand (budget : Nat) (p : Placeholder) :
    store.FindsRepeat budget (.expand p) := by
  induction budget generalizing p with
  | zero =>
    intro chain report _ _ hrun
    rw [runWithin_expand_zero] at hrun
    simp at hrun
  | succ budget ih => exact findsRepeat_expand_succ ih p

/-- Under the guards a loop is found in a task exactly if its evaluation comes back to a stored key
soon enough. -/
theorem runWithin_eq_cycle_iff (hnodup : chain.Nodup) (hchain : store.AllStored chain) :
    store.runWithin budget chain task = .error (.cycle report) ↔
      store.ReportsRepeat budget chain task report := by
  constructor
  · intro hrun
    cases task with
    | lookUp key => exact findsRepeat_lookUp (findsRepeat_expand budget) key _ _ hnodup hchain hrun
    | evaluate text =>
      exact findsRepeat_evaluate (findsRepeat_expand budget) text _ _ hnodup hchain hrun
    | expand p => exact findsRepeat_expand budget p _ _ hnodup hchain hrun
  · rintro ⟨keys, repeated, n, hfirst, hn, rfl⟩
    exact hfirst.runWithin_eq_cycle hchain hn

/-! ### What a report says about the store -/

/-- Evaluating the text of a stored key looks up another key before any other stored one. -/
def LooksUpNext (store : Store) (key other : String) : Prop :=
  ∃ text n, store.get? key = some text ∧ store.Leads (.evaluate text) [] n (.lookUp other)

/-- The chain in a report of a task is the history of its evaluation: stored keys, the first of which the
task comes to first and each other one the text of the key before it. They differ apart from the last one,
which occurs once before. -/
structure IsHistory (store : Store) (task : Task) (chain : List String) : Prop where
  plain_and_stored : ∀ key ∈ chain, Placeholder.read key = .literal ∧ store.get? key ≠ none
  nodup_dropLast : chain.dropLast.Nodup
  count_getLast : ∀ last ∈ chain.getLast?, chain.dropLast.count last = 1
  exists_head : ∃ first n, chain.head? = some first ∧ store.Leads task [] n (.lookUp first)
  isChain : chain.IsChain store.LooksUpNext

/-- The keys that an evaluation looks up on its way to a key are looked up one after the other. -/
theorem Leads.exists_head_and_isChain (h : store.Leads task keys n last) (hlast : last = .lookUp repeated) :
    ∃ first rest m, keys ++ [repeated] = first :: rest ∧ store.Leads task [] m (.lookUp first) ∧
      (first :: rest).IsChain store.LooksUpNext := by
  induction h with
  | here =>
    subst hlast
    exact ⟨repeated, [], 0, rfl, .here, List.IsChain.singleton _⟩
  | @call task callee last keys n calls _ ih =>
    obtain ⟨first, rest, m, hfirst, hleads, hrest⟩ := ih hlast
    rw [List.append_assoc, hfirst]
    by_cases hnone : task.storedKeys store = []
    · -- A task that looks up no stored key comes first to the key that its callee comes first to.
      have hcall := Leads.call calls hleads
      rw [hnone] at hcall ⊢
      exact ⟨first, rest, task.expansions + m, rfl, hcall, hrest⟩
    · cases calls with
      | @lookUpStored key text reads stored =>
        rw [Task.storedKeys_eq_singleton reads stored]
        refine ⟨key, first :: rest, 0, rfl, .here, ?_⟩
        exact List.isChain_cons_cons.2 ⟨⟨text, m, stored, hleads⟩, hrest⟩
      | lookUpPlaceholder reads => exact absurd (Task.storedKeys_eq_nil (by simp [reads])) hnone
      | evaluatePlaceholder _ => exact absurd rfl hnone
      | expandKey => exact absurd rfl hnone
      | expandDefault _ _ => exact absurd rfl hnone

/-- What is reported when an evaluation comes back to a stored key is its history. -/
theorem IsFirstRepeat.isHistory (h : store.IsFirstRepeat [] task keys repeated n) :
    store.IsHistory task (keys ++ [repeated]) := by
  have hnodup : keys.Nodup := h.nodup
  have hmem : repeated ∈ keys := h.mem
  obtain ⟨first, rest, m, hfirst, hleads, hchain⟩ := h.leads.exists_head_and_isChain rfl
  constructor
  · intro key hkey
    rcases List.mem_append.1 hkey with hkey | hkey
    · exact h.leads.plain_and_stored key hkey
    · exact h.leads.plain_and_stored key (List.mem_singleton.1 hkey ▸ hmem)
  · rwa [List.dropLast_concat]
  · intro last hlast
    obtain rfl : repeated = last := by simpa using hlast
    rw [List.dropLast_concat]
    exact List.count_eq_one_of_mem hnodup hmem
  · exact ⟨first, m, by rw [hfirst, List.head?_cons], hleads⟩
  · rwa [hfirst]

/-! ### Queries -/

/-- What a query with or without a default comes down to: its key, or its default where the key is plain
and absent. -/
def queried (store : Store) (key : String) (default? : Option String) : Task :=
  match default? with
  | none => .lookUp key
  | some text =>
    if Placeholder.read key = .literal ∧ store.get? key = none then .evaluate text else .lookUp key

/-- A query whose key is absent under the guards comes down to its default. -/
theorem queried_of_resolve_eq_none {key : String} (h : store.resolve key = .ok none) (text : String) :
    store.queried key (some text) = .evaluate text := by
  obtain ⟨other, heq, reads, absent, -⟩ := (ends_of_runWithin_eq_none h).exists_lookUp_of_absent
  obtain rfl := Task.lookUp.inj heq
  exact if_pos ⟨reads, absent⟩

/-- A query whose key is not absent comes down to its key. -/
theorem queried_of_resolve_ne_none {key : String} (h : store.resolve key ≠ .ok none) (text : String) :
    store.queried key (some text) = .lookUp key := by
  refine if_neg fun ⟨reads, absent⟩ => h ?_
  rw [resolve_eq_runWithin]
  exact runWithin_lookUp_absent reads List.not_mem_nil absent

end Lookup.Store

namespace Lookup.Resolver

open Store

variable {ε : Type}

/-- A query meets a loop exactly if the task that it comes down to does under the guards. -/
theorem get_eq_cycle_iff (resolver : Resolver ε) (key : String) (default? : Option String)
    (chain : List String) :
    resolver.get key default? = .error (ResolveError.cycle chain).failure ↔
      resolver.store.runWithin expansionLimit [] (resolver.store.queried key default?) =
        .error (.cycle chain) := by
  have hfailure : ∀ result : Outcome, result.mapError ResolveError.failure =
      .error ((ResolveError.cycle chain).failure : Failure ε) ↔ result = .error (.cycle chain) := by
    intro result
    cases result with
    | error error => simp [Except.mapError, ResolveError.failure]
    | ok value => simp [Except.mapError]
  cases default? with
  | none => rw [get, hfailure, queried, resolve_eq_runWithin]
  | some text =>
    rw [get, hfailure, resolveOr]
    by_cases hnone : resolver.store.resolve key = .ok none
    · rw [hnone, queried_of_resolve_eq_none hnone]
      rfl
    · rw [queried_of_resolve_ne_none hnone, ← resolve_eq_runWithin]
      cases hresolve : resolver.store.resolve key with
      | error error => simp [Except.map]
      | ok value? =>
        cases value? with
        | none => exact absurd hresolve hnone
        | some value => simp [Except.map]

/-- A query ends in the report of a loop exactly if its evaluation comes back to a stored key before it
performs more expansions than are allowed. The chain of the report is then the history of the evaluation:
all elements are plain keys of the store, each one looked up next after the one before it, and they differ
but for the last one, which occurs once before. -/
theorem get_eq_cycle_iff_and_isHistory (resolver : Resolver ε) (key : String)
    (default? : Option String) (chain : List String) :
    (resolver.get key default? = .error (ResolveError.cycle chain).failure ↔
      ∃ keys repeated n,
        resolver.store.IsFirstRepeat [] (resolver.store.queried key default?) keys repeated n ∧
          n ≤ expansionLimit ∧ chain = keys ++ [repeated]) ∧
    (resolver.get key default? = .error (ResolveError.cycle chain).failure →
      resolver.store.IsHistory (resolver.store.queried key default?) chain) := by
  have hiff : resolver.get key default? = .error (ResolveError.cycle chain).failure ↔
      ∃ keys repeated n,
        resolver.store.IsFirstRepeat [] (resolver.store.queried key default?) keys repeated n ∧
          n ≤ expansionLimit ∧ chain = keys ++ [repeated] := by
    rw [get_eq_cycle_iff]
    exact runWithin_eq_cycle_iff .nil fun _ hkey => absurd hkey List.not_mem_nil
  refine ⟨hiff, fun hcycle => ?_⟩
  obtain ⟨keys, repeated, n, hfirst, -, rfl⟩ := hiff.1 hcycle
  exact hfirst.isHistory

/-- A store with a loop that goes through the default of an absent key. -/
def loopStore : Store := .ofList [("a", "$\x7bb\x7d"), ("b", "$\x7bnone:$\x7ba\x7d\x7d")]

/-- The absent key leaves no trace in the history. -/
theorem get_eq_cycle_loopStore :
    (⟨loopStore, .builtin Time.almanac⟩ : Resolver Empty).get "a" none =
        .error (ResolveError.cycle ["a", "b", "a"]).failure ∧
      loopStore.IsHistory (loopStore.queried "a" none) ["a", "b", "a"] := by
  have hresolve : loopStore.resolve "a" = .error (.cycle ["a", "b", "a"]) := by decide +kernel
  have hcycle : (⟨loopStore, .builtin Time.almanac⟩ : Resolver Empty).get "a" none =
      .error (ResolveError.cycle ["a", "b", "a"]).failure := by
    rw [get, hresolve]
    rfl
  exact ⟨hcycle, (get_eq_cycle_iff_and_isHistory _ "a" none ["a", "b", "a"]).2 hcycle⟩

end Lookup.Resolver
