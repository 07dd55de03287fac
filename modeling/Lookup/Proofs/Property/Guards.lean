import Lookup.Proofs.Property.Evaluation

/-!
# Resolving refines evaluating

Resolving a key follows the same rules as evaluating it, with two guards: it refuses a stored key that
it has come through, and it refuses the expansion after the last one allowed. An evaluation that ends
never comes back to a key while it is being looked up, since that look-up would perform more expansions
than itself; so the first guard reports only evaluations without end, and the second one exactly the
evaluations that are too long.

## Main definitions

* `Store.runWithin` — a task under the guards
* `Store.Outlast` — the keys of a chain perform a number of expansions at least, if they end
* `Store.EndsAsRun` — a task ends as it does under the guards, unless they refuse it

## Main results

* `Store.run_induction` — what holds along every run under the guards
* `Store.Ends.bounded_runWithin` — a task that ends is done the same way under the guards, or is refused
  for its length
* `Store.endsAsRun_lookUp`, `Store.endsAsRun_expand` — what is done under the guards without a refusal
  ends that way
* `Store.resolve_refines_evaluation` — the two together for looking up a key
-/

namespace Lookup.Store

variable {store : Store} {task : Task} {outcome : Outcome} {n budget : Nat} {chain : List String}

/-- A task under the guards, after the keys of a chain and with a number of expansions left. -/
def runWithin (store : Store) (budget : Nat) (chain : List String) : Task → Outcome
  | .lookUp key => store.lookUp (store.expandWithin budget) chain key
  | .evaluate text => (evaluate (store.expandWithin budget) chain text).map some
  | .expand p => (store.expandWithin budget chain p).map some

/-- What the guards make of an outcome after `n` expansions when `budget` of them are allowed. -/
def Bounded (budget n : Nat) (outcome result : Outcome) : Prop :=
  (n ≤ budget → result = outcome) ∧
    (budget < n → ∃ key, result = .error (.depth key expansionLimit))

/-- A task that performs no expansion at all is within every budget. -/
theorem Bounded.of_eq {result : Outcome} (h : result = outcome) : Bounded budget 0 outcome result :=
  ⟨fun _ => h, fun hlt => absurd hlt (Nat.not_lt_zero budget)⟩

/-- By how much the keys of a chain outlast a task at least: a key that is looked up again performs as
many expansions as itself. -/
def Task.margin : Task → Nat
  | .lookUp _ => 1
  | _ => 0

/-- All keys of a chain perform at least a number of expansions when they are looked up and end. -/
def Outlast (store : Store) (chain : List String) (bound : Nat) : Prop :=
  ∀ key ∈ chain, ∀ outcome n, store.Ends (.lookUp key) outcome n → bound ≤ n

theorem Outlast.mono {bound bound' : Nat} (h : store.Outlast chain bound) (hle : bound' ≤ bound) :
    store.Outlast chain bound' :=
  fun key hkey outcome n hends => hle.trans (h key hkey outcome n hends)

/-- A key that ends after fewer expansions than those of a chain is not one of them. -/
theorem Outlast.notMem {key : String} (h : store.Outlast chain (n + 1))
    (hends : store.Ends (.lookUp key) outcome n) : key ∉ chain :=
  fun hkey => Nat.not_succ_le_self n (h key hkey outcome n hends)

theorem Outlast.concat {key : String} (h : store.Outlast chain n)
    (hends : store.Ends (.lookUp key) outcome n) : store.Outlast (chain ++ [key]) n := by
  intro k hk outcome' m hends'
  rcases List.mem_append.1 hk with hk | hk
  · exact h k hk outcome' m hends'
  · obtain rfl := List.mem_singleton.1 hk
    exact (hends.unique hends').2.le

/-! ### Tasks under the guards, case by case -/

section

variable {key text : String} {p : Placeholder}

attribute [local simp] runWithin lookUp evaluate expandWithin answer

theorem runWithin_lookUp_keyless (reads : Placeholder.read key = .keyless) :
    store.runWithin budget chain (.lookUp key) = .error (.keyless key) := by
  simp [reads]

theorem runWithin_lookUp_placeholder (reads : Placeholder.read key = .placeholder p) :
    store.runWithin budget chain (.lookUp key) = store.runWithin budget chain (.expand p) := by
  simp [reads]

theorem runWithin_lookUp_seen (reads : Placeholder.read key = .literal) (hkey : key ∈ chain) :
    store.runWithin budget chain (.lookUp key) = .error (.cycle (chain ++ [key])) := by
  simp [reads, hkey]

theorem runWithin_lookUp_absent (reads : Placeholder.read key = .literal) (hkey : key ∉ chain)
    (absent : store.get? key = none) : store.runWithin budget chain (.lookUp key) = .ok none := by
  simp [reads, hkey, absent]

theorem runWithin_lookUp_stored (reads : Placeholder.read key = .literal) (hkey : key ∉ chain)
    (stored : store.get? key = some text) :
    store.runWithin budget chain (.lookUp key) =
      store.runWithin budget (chain ++ [key]) (.evaluate text) := by
  simp [reads, hkey, stored]

theorem runWithin_evaluate_literal (reads : Placeholder.read text = .literal) :
    store.runWithin budget chain (.evaluate text) = .ok (some text) := by
  simp [reads, Except.map]

theorem runWithin_evaluate_keyless (reads : Placeholder.read text = .keyless) :
    store.runWithin budget chain (.evaluate text) = .error (.keyless text) := by
  simp [reads, Except.map]

theorem runWithin_evaluate_placeholder (reads : Placeholder.read text = .placeholder p) :
    store.runWithin budget chain (.evaluate text) = store.runWithin budget chain (.expand p) := by
  simp [reads]

theorem runWithin_expand_zero :
    store.runWithin 0 chain (.expand p) = .error (.depth p.key expansionLimit) := rfl

theorem runWithin_expand_present (h : store.runWithin budget chain (.lookUp p.key) = outcome)
    (present : outcome ≠ .ok none) : store.runWithin (budget + 1) chain (.expand p) = outcome := by
  simp only [runWithin] at h
  simp only [runWithin, expandWithin, answer, h]
  match outcome, present with
  | .error _, _ => rfl
  | .ok (some _), _ => rfl

theorem runWithin_expand_default (h : store.runWithin budget chain (.lookUp p.key) = .ok none)
    (hasDefault : p.default? = some text) :
    store.runWithin (budget + 1) chain (.expand p) =
      store.runWithin budget chain (.evaluate text) := by
  simp only [runWithin] at h
  simp only [runWithin, expandWithin, answer, h, hasDefault]

theorem runWithin_expand_missing (h : store.runWithin budget chain (.lookUp p.key) = .ok none)
    (noDefault : p.default? = none) :
    store.runWithin (budget + 1) chain (.expand p) = .error (.missing p.key) := by
  simp only [runWithin] at h
  simp only [runWithin, expandWithin, answer, h, noDefault, Except.map]

/-- A result that is a value is not absent. -/
theorem map_some_ne_ok_none {α β : Type} (result : Except α β) : result.map some ≠ .ok none := by
  cases result <;> simp [Except.map]

/-- A key is found absent exactly if it is plain, not on the chain and not in the store. -/
theorem runWithin_lookUp_eq_none_iff :
    store.runWithin budget chain (.lookUp key) = .ok none ↔
      Placeholder.read key = .literal ∧ key ∉ chain ∧ store.get? key = none := by
  constructor
  · intro h
    cases reads : Placeholder.read key with
    | keyless =>
      rw [runWithin_lookUp_keyless reads] at h
      cases h
    | placeholder p =>
      rw [runWithin_lookUp_placeholder reads] at h
      exact absurd h (map_some_ne_ok_none _)
    | literal =>
      by_cases hkey : key ∈ chain
      · rw [runWithin_lookUp_seen reads hkey] at h
        cases h
      · cases stored : store.get? key with
        | none => exact ⟨rfl, hkey, rfl⟩
        | some text =>
          rw [runWithin_lookUp_stored reads hkey stored] at h
          exact absurd h (map_some_ne_ok_none _)
  · rintro ⟨reads, hkey, absent⟩
    exact runWithin_lookUp_absent reads hkey absent

/-- Whether a key is found absent does not depend on the number of expansions that are left. -/
theorem runWithin_lookUp_eq_none_of_eq (h : store.runWithin budget chain (.lookUp key) = .ok none)
    (other : Nat) : store.runWithin other chain (.lookUp key) = .ok none :=
  runWithin_lookUp_eq_none_iff.2 (runWithin_lookUp_eq_none_iff.1 h)

end

/-- What holds along every run under the guards: it holds of a task if it holds of the tasks that this one
leads to, and of those that lead to none. -/
@[elab_as_elim]
theorem run_induction (store : Store) {motive : Nat → List String → Task → Prop}
    (lookUpKeyless : ∀ {budget chain key}, Placeholder.read key = .keyless →
      motive budget chain (.lookUp key))
    (lookUpPlaceholder : ∀ {budget chain key p}, Placeholder.read key = .placeholder p →
      motive budget chain (.expand p) → motive budget chain (.lookUp key))
    (lookUpSeen : ∀ {budget chain key}, Placeholder.read key = .literal → key ∈ chain →
      motive budget chain (.lookUp key))
    (lookUpAbsent : ∀ {budget chain key}, Placeholder.read key = .literal → key ∉ chain →
      store.get? key = none → motive budget chain (.lookUp key))
    (lookUpStored : ∀ {budget chain key text}, Placeholder.read key = .literal → key ∉ chain →
      store.get? key = some text → motive budget (chain ++ [key]) (.evaluate text) →
        motive budget chain (.lookUp key))
    (evaluateLiteral : ∀ {budget chain text}, Placeholder.read text = .literal →
      motive budget chain (.evaluate text))
    (evaluateKeyless : ∀ {budget chain text}, Placeholder.read text = .keyless →
      motive budget chain (.evaluate text))
    (evaluatePlaceholder : ∀ {budget chain text p}, Placeholder.read text = .placeholder p →
      motive budget chain (.expand p) → motive budget chain (.evaluate text))
    (expandRefused : ∀ {chain p}, motive 0 chain (.expand p))
    (expandPresent : ∀ {budget chain p}, store.runWithin budget chain (.lookUp p.key) ≠ .ok none →
      motive budget chain (.lookUp p.key) → motive (budget + 1) chain (.expand p))
    (expandDefault : ∀ {budget chain p text},
      store.runWithin budget chain (.lookUp p.key) = .ok none → p.default? = some text →
        motive budget chain (.evaluate text) → motive (budget + 1) chain (.expand p))
    (expandMissing : ∀ {budget chain p}, store.runWithin budget chain (.lookUp p.key) = .ok none →
      p.default? = none → motive (budget + 1) chain (.expand p))
    (budget : Nat) (chain : List String) (task : Task) : motive budget chain task := by
  have hevaluate : ∀ budget, (∀ chain p, motive budget chain (.expand p)) →
      ∀ chain text, motive budget chain (.evaluate text) := by
    intro budget hexpand chain text
    cases reads : Placeholder.read text with
    | literal => exact evaluateLiteral reads
    | keyless => exact evaluateKeyless reads
    | placeholder p => exact evaluatePlaceholder reads (hexpand chain p)
  have hlookUp : ∀ budget, (∀ chain p, motive budget chain (.expand p)) →
      ∀ chain key, motive budget chain (.lookUp key) := by
    intro budget hexpand chain key
    cases reads : Placeholder.read key with
    | keyless => exact lookUpKeyless reads
    | placeholder p => exact lookUpPlaceholder reads (hexpand chain p)
    | literal =>
      by_cases hkey : key ∈ chain
      · exact lookUpSeen reads hkey
      · cases stored : store.get? key with
        | none => exact lookUpAbsent reads hkey stored
        | some text => exact lookUpStored reads hkey stored (hevaluate budget hexpand _ text)
  have hexpand : ∀ budget chain p, motive budget chain (.expand p) := by
    intro budget
    induction budget with
    | zero => exact fun chain p => expandRefused
    | succ budget ih =>
      intro chain p
      by_cases habsent : store.runWithin budget chain (.lookUp p.key) = .ok none
      · cases hdefault : p.default? with
        | none => exact expandMissing habsent hdefault
        | some text => exact expandDefault habsent hdefault (hevaluate budget ih chain text)
      · exact expandPresent habsent (hlookUp budget ih chain p.key)
  cases task with
  | lookUp key => exact hlookUp budget (hexpand budget) chain key
  | evaluate text => exact hevaluate budget (hexpand budget) chain text
  | expand p => exact hexpand budget chain p

/-! ### Evaluations that end -/

/-- A task that ends is done the same way under the guards, or is refused for its length. -/
theorem Ends.bounded_runWithin (h : store.Ends task outcome n)
    (hchain : store.Outlast chain (n + task.margin)) :
    Bounded budget n outcome (store.runWithin budget chain task) := by
  -- Along the derivation the keys of the chain go on outlasting what is left to do.
  induction h generalizing budget chain with
  | lookUpKeyless reads => exact .of_eq (runWithin_lookUp_keyless reads)
  | lookUpPlaceholder reads _ ih =>
    rw [runWithin_lookUp_placeholder reads]
    exact ih (hchain.mono (Nat.le_succ _))
  | lookUpAbsent reads absent =>
    have hkey := hchain.notMem (.lookUpAbsent reads absent)
    exact .of_eq (runWithin_lookUp_absent reads hkey absent)
  | lookUpStored reads stored evaluates ih =>
    -- The key would outlast its own look-up if the chain held it.
    have hends := Ends.lookUpStored reads stored evaluates
    rw [runWithin_lookUp_stored reads (hchain.notMem hends) stored]
    exact ih ((hchain.mono (Nat.le_succ _)).concat hends)
  | evaluateLiteral reads => exact .of_eq (runWithin_evaluate_literal reads)
  | evaluateKeyless reads => exact .of_eq (runWithin_evaluate_keyless reads)
  | evaluatePlaceholder reads _ ih =>
    rw [runWithin_evaluate_placeholder reads]
    exact ih hchain
  | @expandPresent p outcome n _ present ih =>
    cases budget with
    | zero => exact ⟨fun hle => absurd hle (by omega), fun _ => ⟨p.key, runWithin_expand_zero⟩⟩
    | succ budget =>
      obtain ⟨hwithin, hbeyond⟩ := @ih budget _ hchain
      refine ⟨fun hle => ?_, fun hlt => ?_⟩
      · exact runWithin_expand_present (hwithin (by omega)) present
      · obtain ⟨key, hkey⟩ := hbeyond (by omega)
        exact ⟨key, runWithin_expand_present hkey (by simp)⟩
  | @expandDefault p text outcome n m looksUp hasDefault _ ihKey ihDefault =>
    -- Finding the key absent takes no expansion, so the default may use all that are left.
    obtain rfl := looksUp.count_eq_zero_of_absent
    cases budget with
    | zero => exact ⟨fun hle => absurd hle (by omega), fun _ => ⟨p.key, runWithin_expand_zero⟩⟩
    | succ budget =>
      have habsent : store.runWithin budget chain (.lookUp p.key) = .ok none :=
        (ihKey (hchain.mono (by simp [Task.margin]))).1 (Nat.zero_le budget)
      rw [runWithin_expand_default habsent hasDefault]
      obtain ⟨hwithin, hbeyond⟩ := @ihDefault budget _ (hchain.mono (by simp [Task.margin]))
      exact ⟨fun hle => hwithin (by omega), fun hlt => hbeyond (by omega)⟩
  | @expandMissing p n looksUp noDefault ih =>
    obtain rfl := looksUp.count_eq_zero_of_absent
    cases budget with
    | zero => exact ⟨fun hle => absurd hle (by omega), fun _ => ⟨p.key, runWithin_expand_zero⟩⟩
    | succ budget =>
      have habsent : store.runWithin budget chain (.lookUp p.key) = .ok none :=
        (ih hchain).1 (Nat.zero_le budget)
      exact ⟨fun _ => runWithin_expand_missing habsent noDefault, fun hlt => absurd hlt (by omega)⟩

/-! ### Evaluations without a refusal -/

/-- What a task comes to under the guards, unless it is refused, is how it ends. -/
def EndsAsRun (store : Store) (budget : Nat) (task : Task) : Prop :=
  ∀ chain, ¬ IsGuard (store.runWithin budget chain task) →
    ∃ n, store.Ends task (store.runWithin budget chain task) n

section

variable (hexpand : ∀ p, store.EndsAsRun budget (.expand p))
include hexpand

theorem endsAsRun_evaluate (text : String) : store.EndsAsRun budget (.evaluate text) := by
  intro chain hguard
  cases reads : Placeholder.read text with
  | literal =>
    rw [runWithin_evaluate_literal reads]
    exact ⟨0, .evaluateLiteral reads⟩
  | keyless =>
    rw [runWithin_evaluate_keyless reads]
    exact ⟨0, .evaluateKeyless reads⟩
  | placeholder p =>
    rw [runWithin_evaluate_placeholder reads] at hguard ⊢
    obtain ⟨n, hends⟩ := hexpand p chain hguard
    exact ⟨n, .evaluatePlaceholder reads hends⟩

theorem endsAsRun_lookUp (key : String) : store.EndsAsRun budget (.lookUp key) := by
  intro chain hguard
  cases reads : Placeholder.read key with
  | keyless =>
    rw [runWithin_lookUp_keyless reads]
    exact ⟨0, .lookUpKeyless reads⟩
  | placeholder p =>
    rw [runWithin_lookUp_placeholder reads] at hguard ⊢
    obtain ⟨n, hends⟩ := hexpand p chain hguard
    exact ⟨n, .lookUpPlaceholder reads hends⟩
  | literal =>
    by_cases hkey : key ∈ chain
    · rw [runWithin_lookUp_seen reads hkey] at hguard
      exact absurd (.inl ⟨_, rfl⟩) hguard
    · cases stored : store.get? key with
      | none =>
        rw [runWithin_lookUp_absent reads hkey stored]
        exact ⟨0, .lookUpAbsent reads stored⟩
      | some text =>
        rw [runWithin_lookUp_stored reads hkey stored] at hguard ⊢
        obtain ⟨n, hends⟩ := endsAsRun_evaluate hexpand text _ hguard
        exact ⟨n, .lookUpStored reads stored hends⟩

/-- One more expansion is allowed for a placeholder than for what it leads to. -/
theorem endsAsRun_expand_succ (p : Placeholder) : store.EndsAsRun (budget + 1) (.expand p) := by
  intro chain hguard
  have hkey := endsAsRun_lookUp hexpand p.key chain
  generalize hresult : store.runWithin budget chain (.lookUp p.key) = result at hkey
  by_cases present : result = .ok none
  · subst present
    obtain ⟨n, looksUp⟩ := hkey (by simp [IsGuard])
    cases hasDefault : p.default? with
    | none =>
      rw [runWithin_expand_missing hresult hasDefault]
      exact ⟨n + 1, .expandMissing looksUp hasDefault⟩
    | some text =>
      rw [runWithin_expand_default hresult hasDefault] at hguard ⊢
      obtain ⟨m, hends⟩ := endsAsRun_evaluate hexpand text chain hguard
      exact ⟨n + m + 1, .expandDefault looksUp hasDefault hends⟩
  · rw [runWithin_expand_present hresult present] at hguard ⊢
    obtain ⟨n, looksUp⟩ := hkey hguard
    exact ⟨n + 1, .expandPresent looksUp present⟩

end

theorem endsAsRun_expand (budget : Nat) (p : Placeholder) : store.EndsAsRun budget (.expand p) := by
  induction budget generalizing p with
  | zero => exact fun chain hguard => absurd (.inr ⟨p.key, runWithin_expand_zero⟩) hguard
  | succ budget ih => exact endsAsRun_expand_succ ih p

/-! ### Looking up a key -/

theorem resolve_eq_runWithin (store : Store) (key : String) :
    store.resolve key = store.runWithin expansionLimit [] (.lookUp key) := rfl

/-- A key is found absent exactly if it is no placeholder and not in the store. -/
theorem resolve_eq_none_iff {key : String} :
    store.resolve key = .ok none ↔ Placeholder.read key = .literal ∧ store.get? key = none := by
  simp [resolve_eq_runWithin, runWithin_lookUp_eq_none_iff]

/-- A look-up that ends resolves to its outcome, or is refused for the number of its expansions. -/
theorem Ends.bounded_resolve {key : String} (h : store.Ends (.lookUp key) outcome n) :
    Bounded expansionLimit n outcome (store.resolve key) := by
  rw [resolve_eq_runWithin]
  exact h.bounded_runWithin fun _ hkey => absurd hkey List.not_mem_nil

/-- A look-up without an outcome is refused. -/
theorem isGuard_resolve {key : String} (h : ¬ ∃ outcome n, store.Ends (.lookUp key) outcome n) :
    IsGuard (store.resolve key) := by
  rw [resolve_eq_runWithin]
  by_contra hguard
  exact h ⟨_, endsAsRun_lookUp (endsAsRun_expand expansionLimit) key [] hguard⟩

/-- Resolving a key comes to the outcome of its evaluation if that ends after no more expansions than
are allowed, and to the report that there are too many if it ends after more. If it never ends, a loop
or too many expansions are reported. A loop is reported of no evaluation that ends. -/
theorem resolve_refines_evaluation (store : Store) (key : String) :
    (∀ outcome n, store.Ends (.lookUp key) outcome n →
      (n ≤ expansionLimit → store.resolve key = outcome) ∧
      (expansionLimit < n → ∃ k, store.resolve key = .error (.depth k expansionLimit))) ∧
    (store.NeverEnds (.lookUp key) →
      (∃ chain, store.resolve key = .error (.cycle chain)) ∨
      ∃ k, store.resolve key = .error (.depth k expansionLimit)) ∧
    ((∃ chain, store.resolve key = .error (.cycle chain)) → store.NeverEnds (.lookUp key)) := by
  refine ⟨fun outcome n h => h.bounded_resolve, fun h => isGuard_resolve (neverEnds_iff.1 h), ?_⟩
  rintro ⟨chain, hcycle⟩
  -- A loop is neither an outcome nor the report that an evaluation is too long.
  rw [neverEnds_iff]
  rintro ⟨outcome, n, h⟩
  rcases Nat.lt_or_ge expansionLimit n with hn | hn
  · obtain ⟨k, hdepth⟩ := h.bounded_resolve.2 hn
    rw [hcycle] at hdepth
    simp at hdepth
  · have houtcome := h.bounded_resolve.1 hn
    exact h.not_isGuard (.inl ⟨chain, houtcome ▸ hcycle⟩)

end Lookup.Store
