import Mathlib.Data.List.Forall2

/-!
# Computations that may fail

## Main results

* `map_eq_ok_iff`, `mapError_eq_error_iff` — results and errors that stand for others
* `forall₂_of_mapM_eq_ok` — going through a list with success
* `mapM_eq_error_iff` — going through a list that fails
* `mapM_mapError`, `mapM_eq_of_ne_error` — going through a list in two ways
-/

namespace Lookup

variable {α β δ ρ : Type} {f g : α → Except δ β} {items : List α} {error : δ}

/-- A computation that has a result has one in each of its steps. -/
theorem exists_of_bind_eq_ok {first : Except δ α} {next : α → Except δ β} {result : β}
    (h : first >>= next = .ok result) : ∃ found, first = .ok found ∧ next found = .ok result := by
  cases first with
  | error error => cases h
  | ok found => exact ⟨found, rfl, h⟩

/-- A function is applied to the result of what has one. -/
@[simp] theorem map_eq_ok_iff {first : Except δ α} {next : α → β} {result : β} :
    first.map next = .ok result ↔ ∃ found, first = .ok found ∧ next found = result := by
  cases first <;> simp [Except.map]

@[simp] theorem map_eq_error_iff {first : Except δ α} {next : α → β} :
    first.map next = .error error ↔ first = .error error := by
  cases first <;> simp [Except.map]

/-- An error stands for one of what fails. -/
theorem mapError_eq_error_iff {first : Except δ α} {stand : δ → ρ} {shown : ρ} :
    first.mapError stand = .error shown ↔ ∃ error, first = .error error ∧ stand error = shown := by
  cases first <;> simp [Except.mapError]

/-- Results of all elements of a list are the results of its elements in order. -/
theorem forall₂_of_mapM_eq_ok {results : List β} (h : items.mapM f = .ok results) :
    List.Forall₂ (fun item result => f item = .ok result) items results := by
  induction items generalizing results with
  | nil =>
    obtain rfl : [] = results := by simpa [pure, Except.pure] using h
    exact .nil
  | cons item rest ih =>
    rw [List.mapM_cons] at h
    obtain ⟨result, hitem, h⟩ := exists_of_bind_eq_ok h
    obtain ⟨more, hrest, h⟩ := exists_of_bind_eq_ok h
    obtain rfl := Except.ok.inj h
    exact .cons hitem (ih hrest)

/-- Going through a list with success has success with each element. -/
theorem exists_of_mapM_eq_ok {results : List β} {item : α} (h : items.mapM f = .ok results)
    (hitem : item ∈ items) : ∃ result, f item = .ok result := by
  induction items generalizing results with
  | nil => exact absurd hitem List.not_mem_nil
  | cons first rest ih =>
    rw [List.mapM_cons] at h
    obtain ⟨result, hfirst, h⟩ := exists_of_bind_eq_ok h
    obtain ⟨more, hrest, -⟩ := exists_of_bind_eq_ok h
    rcases List.mem_cons.1 hitem with rfl | hitem
    · exact ⟨result, hfirst⟩
    · exact ih hrest hitem

/-- Going through a list fails at the first element at which it fails. -/
theorem mapM_eq_error_iff :
    items.mapM f = .error error ↔ ∃ before item after, items = before ++ item :: after ∧
      (∀ other ∈ before, ∃ result, f other = .ok result) ∧ f item = .error error := by
  constructor
  · intro h
    induction items with
    | nil => cases h
    | cons first rest ih =>
      rw [List.mapM_cons] at h
      cases hfirst : f first with
      | error other =>
        rw [hfirst] at h
        obtain rfl := Except.error.inj h
        exact ⟨[], first, rest, rfl, fun _ hother => absurd hother List.not_mem_nil, hfirst⟩
      | ok result =>
        have hrest : rest.mapM f = .error error := by
          rw [hfirst] at h
          cases hrest : rest.mapM f with
          | error other => simpa [hrest, bind, Except.bind] using h
          | ok results => simp [hrest, bind, Except.bind, pure, Except.pure] at h
        obtain ⟨before, item, after, rfl, hbefore, hitem⟩ := ih hrest
        refine ⟨first :: before, item, after, rfl, ?_, hitem⟩
        intro other hother
        rcases List.mem_cons.1 hother with rfl | hother
        · exact ⟨result, hfirst⟩
        · exact hbefore other hother
  · rintro ⟨before, item, after, rfl, hbefore, hitem⟩
    induction before with
    | nil =>
      rw [List.nil_append, List.mapM_cons, hitem]
      rfl
    | cons first rest ih =>
      obtain ⟨result, hresult⟩ := hbefore first List.mem_cons_self
      rw [List.cons_append, List.mapM_cons, hresult,
        ih fun other hother => hbefore other (List.mem_cons_of_mem _ hother)]
      rfl

/-- Going through a list does not fail in some way with a function if it does not with another one from which the
function differs only where that one fails so. -/
theorem mapM_eq_of_ne_error (h : ∀ item ∈ items, f item ≠ .error error → g item = f item)
    (hne : items.mapM f ≠ .error error) : items.mapM g = items.mapM f := by
  induction items with
  | nil => rfl
  | cons item rest ih =>
    obtain ⟨hitem, hrest⟩ := List.forall_mem_cons.1 h
    rw [List.mapM_cons] at hne
    rw [List.mapM_cons, List.mapM_cons]
    cases hfirst : f item with
    | error other =>
      rw [hfirst] at hitem hne
      rw [hitem fun herror => hne (by rw [herror]; rfl)]
      rfl
    | ok result =>
      rw [hfirst] at hitem hne
      rw [hitem (by simp), ih hrest fun herror => hne (by rw [herror]; rfl)]

/-- Going through a list with failures that are changed is changing the failure of going through it. -/
theorem mapM_mapError (f : α → Except δ β) (g : δ → ρ) (items : List α) :
    (items.mapM fun item => (f item).mapError g) = (items.mapM f).mapError g := by
  induction items with
  | nil => rfl
  | cons item rest ih =>
    rw [List.mapM_cons, List.mapM_cons, ih]
    cases f item with
    | error error => rfl
    | ok result => cases rest.mapM f <;> rfl

end Lookup
