import Mathlib.Order.WellFounded
import Lookup.Property.Resolve

/-!
# Evaluating properties without guards

What a property stands for is defined without regard to loops and to the number of expansions: a key
is looked up, a text is evaluated and a placeholder is expanded, each of them by way of the others.
An evaluation that ends has an outcome and a number of expansions that it performs in total. One that
never ends goes through calls without end.

## Main definitions

* `Store.Task`, `Store.Outcome` — what is evaluated, and to what
* `Store.Ends` — a task ends with an outcome after a number of expansions
* `Store.Calls`, `Store.NeverEnds` — a task calls for another; it does so without end
* `Store.IsGuard` — what the guards of the resolver report

## Main results

* `Store.Ends.unique` — the outcome and the number of expansions are determined by the task
* `Store.Ends.count_eq_zero_of_absent` — only a look-up without expansions finds a property absent
* `Store.neverEnds_iff` — an evaluation never ends exactly if it has no outcome
-/

namespace Lookup.Store

/-- What is evaluated. -/
inductive Task where
  /-- A key is looked up. -/
  | lookUp (key : String)
  /-- The value of a text is found. -/
  | evaluate (text : String)
  /-- A placeholder is expanded. -/
  | expand (placeholder : Placeholder)
  deriving DecidableEq, Repr

/-- What an evaluation ends with: a value, `none` where the property is absent, or an error. -/
abbrev Outcome := Except ResolveError (Option String)

/-- The evaluation of a task ends with an outcome after a number of expansions in total. -/
inductive Ends (store : Store) : Task → Outcome → Nat → Prop
  /-- A key of the shape of a placeholder needs a key inside. -/
  | lookUpKeyless {key} (reads : Placeholder.read key = .keyless) :
      Ends store (.lookUp key) (.error (.keyless key)) 0
  /-- A key that is a placeholder is expanded. -/
  | lookUpPlaceholder {key p outcome n} (reads : Placeholder.read key = .placeholder p)
      (expands : Ends store (.expand p) outcome n) : Ends store (.lookUp key) outcome n
  /-- Any other key may be absent. -/
  | lookUpAbsent {key} (reads : Placeholder.read key = .literal) (absent : store.get? key = none) :
      Ends store (.lookUp key) (.ok none) 0
  /-- The stored text of a key is evaluated. -/
  | lookUpStored {key text outcome n} (reads : Placeholder.read key = .literal)
      (stored : store.get? key = some text) (evaluates : Ends store (.evaluate text) outcome n) :
      Ends store (.lookUp key) outcome n
  /-- A text that is no placeholder stands for itself. -/
  | evaluateLiteral {text} (reads : Placeholder.read text = .literal) :
      Ends store (.evaluate text) (.ok (some text)) 0
  /-- A text of the shape of a placeholder needs a key inside. -/
  | evaluateKeyless {text} (reads : Placeholder.read text = .keyless) :
      Ends store (.evaluate text) (.error (.keyless text)) 0
  /-- A text that is a placeholder is expanded. -/
  | evaluatePlaceholder {text p outcome n} (reads : Placeholder.read text = .placeholder p)
      (expands : Ends store (.expand p) outcome n) : Ends store (.evaluate text) outcome n
  /-- A placeholder stands for what its key does, unless that is absent. -/
  | expandPresent {p outcome n} (looksUp : Ends store (.lookUp p.key) outcome n)
      (present : outcome ≠ .ok none) : Ends store (.expand p) outcome (n + 1)
  /-- Where its key is absent, a placeholder stands for its default. -/
  | expandDefault {p text outcome n m} (looksUp : Ends store (.lookUp p.key) (.ok none) n)
      (hasDefault : p.default? = some text) (evaluates : Ends store (.evaluate text) outcome m) :
      Ends store (.expand p) outcome (n + m + 1)
  /-- Where its key is absent, a placeholder without a default stands for nothing. -/
  | expandMissing {p n} (looksUp : Ends store (.lookUp p.key) (.ok none) n)
      (noDefault : p.default? = none) : Ends store (.expand p) (.error (.missing p.key)) (n + 1)

variable {store : Store} {task : Task} {outcome outcome' : Outcome} {n m : Nat}

/-- A task has at most one outcome and number of expansions. -/
theorem Ends.unique (h : store.Ends task outcome n) (h' : store.Ends task outcome' m) :
    outcome = outcome' ∧ n = m := by
  -- What a text reads as and whether a key is absent leave one rule for each task.
  induction h generalizing outcome' m with
  | lookUpKeyless reads => cases h' <;> simp_all
  | lookUpPlaceholder reads _ ih =>
    cases h' with
    | lookUpPlaceholder reads' expands' =>
      rw [reads, Placeholder.Reading.placeholder.injEq] at reads'
      exact ih (reads' ▸ expands')
    | _ => simp_all
  | lookUpAbsent reads absent => cases h' <;> simp_all
  | lookUpStored reads stored _ ih =>
    cases h' with
    | lookUpStored _ stored' evaluates' =>
      rw [stored, Option.some.injEq] at stored'
      exact ih (stored' ▸ evaluates')
    | _ => simp_all
  | evaluateLiteral reads => cases h' <;> simp_all
  | evaluateKeyless reads => cases h' <;> simp_all
  | evaluatePlaceholder reads _ ih =>
    cases h' with
    | evaluatePlaceholder reads' expands' =>
      rw [reads, Placeholder.Reading.placeholder.injEq] at reads'
      exact ih (reads' ▸ expands')
    | _ => simp_all
  | expandPresent _ present ih =>
    cases h' with
    | expandPresent looksUp' _ =>
      obtain ⟨rfl, rfl⟩ := ih looksUp'
      exact ⟨rfl, rfl⟩
    | expandDefault looksUp' _ _ => exact absurd (ih looksUp').1 present
    | expandMissing looksUp' _ => exact absurd (ih looksUp').1 present
  | expandDefault _ hasDefault _ ihKey ihDefault =>
    cases h' with
    | expandPresent looksUp' present => exact absurd (ihKey looksUp').1.symm present
    | expandDefault looksUp' hasDefault' evaluates' =>
      rw [hasDefault, Option.some.injEq] at hasDefault'
      obtain ⟨rfl, rfl⟩ := ihDefault (hasDefault' ▸ evaluates')
      obtain ⟨-, rfl⟩ := ihKey looksUp'
      exact ⟨rfl, rfl⟩
    | expandMissing _ noDefault => simp_all
  | expandMissing _ noDefault ih =>
    cases h' with
    | expandPresent looksUp' present => exact absurd (ih looksUp').1.symm present
    | expandDefault _ hasDefault _ => simp_all
    | expandMissing looksUp' _ =>
      obtain ⟨-, rfl⟩ := ih looksUp'
      exact ⟨rfl, rfl⟩

/-- Evaluating a text or expanding a placeholder finds no property absent. -/
theorem Ends.exists_lookUp_of_absent (h : store.Ends task (.ok none) n) :
    ∃ key, task = .lookUp key ∧ Placeholder.read key = .literal ∧ store.get? key = none ∧ n = 0 := by
  -- A placeholder turns the absence of its key into a default or an error.
  generalize houtcome : Except.ok none = outcome at h
  induction h with
  | lookUpAbsent reads absent => exact ⟨_, rfl, reads, absent, rfl⟩
  | lookUpPlaceholder _ _ ih => simpa using ih houtcome
  | lookUpStored _ _ _ ih => simpa using ih houtcome
  | evaluatePlaceholder _ _ ih => simpa using ih houtcome
  | expandPresent _ present => exact absurd houtcome.symm present
  | expandDefault _ _ _ _ ih => simpa using ih houtcome
  | _ => simp at houtcome

/-- A look-up that finds a property absent has performed no expansion. -/
theorem Ends.count_eq_zero_of_absent (h : store.Ends task (.ok none) n) : n = 0 := by
  obtain ⟨_, -, -, -, hn⟩ := h.exists_lookUp_of_absent
  exact hn

/-! ### Evaluations without end -/

/-- A task calls for another one. -/
inductive Calls (store : Store) : Task → Task → Prop
  | lookUpPlaceholder {key p} (reads : Placeholder.read key = .placeholder p) :
      Calls store (.lookUp key) (.expand p)
  | lookUpStored {key text} (reads : Placeholder.read key = .literal)
      (stored : store.get? key = some text) : Calls store (.lookUp key) (.evaluate text)
  | evaluatePlaceholder {text p} (reads : Placeholder.read text = .placeholder p) :
      Calls store (.evaluate text) (.expand p)
  | expandKey {p} : Calls store (.expand p) (.lookUp p.key)
  /-- The default is called for once the key has been found absent. -/
  | expandDefault {p text n} (looksUp : Ends store (.lookUp p.key) (.ok none) n)
      (hasDefault : p.default? = some text) : Calls store (.expand p) (.evaluate text)

/-- The evaluation of a task goes through calls without end. -/
def NeverEnds (store : Store) (task : Task) : Prop :=
  ∃ run : ℕ → Task, run 0 = task ∧ ∀ i, store.Calls (run i) (run (i + 1))

/-- A task ends if all tasks that it calls for do. -/
theorem exists_ends_of_calls
    (h : ∀ callee, store.Calls task callee → ∃ outcome n, store.Ends callee outcome n) :
    ∃ outcome n, store.Ends task outcome n := by
  cases task with
  | lookUp key =>
    cases reads : Placeholder.read key with
    | keyless => exact ⟨_, _, .lookUpKeyless reads⟩
    | placeholder p =>
      obtain ⟨outcome, n, hp⟩ := h _ (.lookUpPlaceholder reads)
      exact ⟨outcome, n, .lookUpPlaceholder reads hp⟩
    | literal =>
      cases stored : store.get? key with
      | none => exact ⟨_, _, .lookUpAbsent reads stored⟩
      | some text =>
        obtain ⟨outcome, n, htext⟩ := h _ (.lookUpStored reads stored)
        exact ⟨outcome, n, .lookUpStored reads stored htext⟩
  | evaluate text =>
    cases reads : Placeholder.read text with
    | literal => exact ⟨_, _, .evaluateLiteral reads⟩
    | keyless => exact ⟨_, _, .evaluateKeyless reads⟩
    | placeholder p =>
      obtain ⟨outcome, n, hp⟩ := h _ (.evaluatePlaceholder reads)
      exact ⟨outcome, n, .evaluatePlaceholder reads hp⟩
  | expand p =>
    obtain ⟨outcome, n, hkey⟩ := h _ .expandKey
    by_cases present : outcome = .ok none
    · subst present
      cases hasDefault : p.default? with
      | none => exact ⟨_, _, .expandMissing hkey hasDefault⟩
      | some text =>
        obtain ⟨outcome, m, htext⟩ := h _ (.expandDefault hkey hasDefault)
        exact ⟨outcome, _, .expandDefault hkey hasDefault htext⟩
    · exact ⟨outcome, _, .expandPresent hkey present⟩

/-- Below a task that ends there is no endless sequence of calls. -/
theorem Ends.acc (h : store.Ends task outcome n) : Acc (fun t t' => store.Calls t' t) task := by
  -- Each task that is called for has ended on the way, so it is covered by a hypothesis.
  induction h with
  | lookUpPlaceholder reads _ ih =>
    refine ⟨_, fun callee hcall => ?_⟩
    cases hcall with
    | lookUpPlaceholder reads' =>
      rw [reads, Placeholder.Reading.placeholder.injEq] at reads'
      exact reads' ▸ ih
    | lookUpStored reads' _ => simp_all
  | lookUpStored reads stored _ ih =>
    refine ⟨_, fun callee hcall => ?_⟩
    cases hcall with
    | lookUpPlaceholder reads' => simp_all
    | lookUpStored _ stored' =>
      rw [stored, Option.some.injEq] at stored'
      exact stored' ▸ ih
  | evaluatePlaceholder reads _ ih =>
    refine ⟨_, fun callee hcall => ?_⟩
    cases hcall with
    | evaluatePlaceholder reads' =>
      rw [reads, Placeholder.Reading.placeholder.injEq] at reads'
      exact reads' ▸ ih
  | expandPresent looksUp present ih =>
    refine ⟨_, fun callee hcall => ?_⟩
    cases hcall with
    | expandKey => exact ih
    | expandDefault looksUp' _ => exact absurd (looksUp.unique looksUp').1 present
  | expandDefault _ hasDefault _ ihKey ihDefault =>
    refine ⟨_, fun callee hcall => ?_⟩
    cases hcall with
    | expandKey => exact ihKey
    | expandDefault _ hasDefault' =>
      rw [hasDefault, Option.some.injEq] at hasDefault'
      exact hasDefault' ▸ ihDefault
  | expandMissing _ noDefault ih =>
    refine ⟨_, fun callee hcall => ?_⟩
    cases hcall with
    | expandKey => exact ih
    | expandDefault _ hasDefault => simp_all
  | _ => exact ⟨_, fun callee hcall => by cases hcall <;> simp_all⟩

/-- An evaluation never ends exactly if it has no outcome. -/
theorem neverEnds_iff : store.NeverEnds task ↔ ¬ ∃ outcome n, store.Ends task outcome n := by
  rw [NeverEnds, ← not_acc_iff_exists_descending_chain (r := fun t t' => store.Calls t' t), not_iff_not]
  -- What is left is that the tasks without an endless sequence are those that end.
  constructor
  · intro hacc
    induction hacc with
    | intro _ _ ih => exact exists_ends_of_calls ih
  · rintro ⟨_, _, h⟩
    exact h.acc

/-! ### Guards -/

/-- A guard of the resolver reports a loop, or more expansions than are allowed. -/
def IsGuard (outcome : Outcome) : Prop :=
  (∃ chain, outcome = .error (.cycle chain)) ∨ ∃ key, outcome = .error (.depth key expansionLimit)

/-- No evaluation ends with the report of a guard. -/
theorem Ends.not_isGuard (h : store.Ends task outcome n) : ¬ IsGuard outcome := by
  induction h with
  | lookUpPlaceholder _ _ ih | lookUpStored _ _ _ ih | evaluatePlaceholder _ _ ih => exact ih
  | expandPresent _ _ ih | expandDefault _ _ _ _ ih => exact ih
  | _ => simp [IsGuard]

end Lookup.Store
