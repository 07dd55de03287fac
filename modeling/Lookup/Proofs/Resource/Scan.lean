import Lookup.Proofs.Resource.Location
import Lookup.Resource.Scan

/-!
# Scans

A scan of one entry of the search path goes through the mount of its location. The names that a scan
finds are those of the resources of all mounts in order, unless one of them fails.

## Main definitions

* `scanNames` — the names of the resources that a scan finds

## Main results

* `exists_of_mem_scan` — a resource that is found is one of the mount of an entry
* `scanNames_singleton_some`, `scanNames_singleton_none` — the names that one entry yields
* `scanNames_singleton_error` — an entry that fails
-/

namespace Lookup

open Files Text

variable {ε : Type} {disk : Disk} {package text location : String} {mount : Mount}

/-- The names of the resources that a scan finds. -/
def scanNames (disk : Disk) (entries : List String) (package : String) :
    Except (Failure ε) (List String) :=
  ((scan disk entries package).collect fun resource => .ok (some resource.name)).2

/-- A function that never fails yields its results on all resources, unless the scan fails. -/
theorem collectSteps_select {α : Type} (select : Resource → Option α) (failure? : Option (Failure ε))
    (steps : List ScanStep) :
    (collectSteps (fun resource => .ok (select resource)) failure? steps).2 =
      match failure? with
      | some failure => .error failure
      | none => .ok ((steps.filterMap ScanStep.resource?).filterMap select) := by
  induction steps with
  | nil => cases failure? <;> rfl
  | cons step rest ih =>
    cases step with
    | entered location =>
      rw [List.filterMap_cons_none rfl]
      exact ih
    | found resource =>
      have hfound : (ScanStep.found resource :: rest).filterMap ScanStep.resource? =
          resource :: rest.filterMap ScanStep.resource? := rfl
      rw [hfound]
      simp only [collectSteps, ih]
      cases failure? with
      | some failure => rfl
      | none => cases hresult : select resource <;> simp [Except.map, hresult]

/-- Selecting the name of every resource yields all names, unless the scan fails. -/
theorem collectSteps_names (failure? : Option (Failure ε)) (steps : List ScanStep) :
    (collectSteps (fun resource => .ok (some resource.name)) failure? steps).2 =
      match failure? with
      | some failure => .error failure
      | none => .ok ((steps.filterMap ScanStep.resource?).map (·.name)) := by
  rw [← List.filterMap_eq_map]
  exact collectSteps_select (fun resource => some resource.name) failure? steps

/-! ### What a scan finds -/

theorem exists_of_mem_forall₂ {α β : Type} {related : α → β → Prop} {items : List α}
    {others : List β} (h : List.Forall₂ related items others) {other : β} (hother : other ∈ others) :
    ∃ item ∈ items, related item other := by
  induction h with
  | nil => exact absurd hother List.not_mem_nil
  | @cons item first items others hfirst _ ih =>
    rcases List.mem_cons.1 hother with rfl | hother
    · exact ⟨item, List.mem_cons_self, hfirst⟩
    · obtain ⟨found, hfound, hrelated⟩ := ih hother
      exact ⟨found, List.mem_cons_of_mem _ hfound, hrelated⟩

/-- A resource that is found at locations is one of a mount at one of them. -/
theorem exists_of_mem_scanMounts {locations : List String} {resource : Resource}
    (h : resource ∈ (scanMounts disk package locations : Run ScanStep (Failure ε)).resources) :
    ∃ location ∈ locations, ∃ mount, Mount.ofLocation location package = .ok mount ∧
      resource ∈ (mount.walk disk : Run Resource (Failure ε)).items := by
  have hfirst : ∀ location, resource ∈ (scanMount disk package location :
      Run ScanStep (Failure ε)).resources → ∃ mount, Mount.ofLocation location package = .ok mount ∧
        resource ∈ (mount.walk disk : Run Resource (Failure ε)).items := by
    intro location hmem
    rw [scanMount] at hmem
    split at hmem
    · simp [Run.resources, ScanStep.resource?] at hmem
    · next mount hmount =>
      refine ⟨mount, hmount, ?_⟩
      simpa [Run.resources, ScanStep.resource?, List.filterMap_map, Function.comp_def] using hmem
  induction locations with
  | nil => simp [scanMounts, Run.resources] at h
  | cons location rest ih =>
    rw [scanMounts] at h
    split at h
    · exact ⟨location, List.mem_cons_self, hfirst location h⟩
    · rw [Run.resources, List.filterMap_append] at h
      rcases List.mem_append.1 h with h | h
      · exact ⟨location, List.mem_cons_self, hfirst location h⟩
      · obtain ⟨other, hother, hmount⟩ := ih h
        exact ⟨other, List.mem_cons_of_mem _ hother, hmount⟩

/-- A resource that a scan finds is one of the mount of an entry of the search path. -/
theorem exists_of_mem_scan {entries : List String} {resource : Resource}
    (h : resource ∈ (scan disk entries package : Run ScanStep (Failure ε)).resources) :
    ∃ entry ∈ searchEntries disk entries, ∃ location mount,
      entryLocation? disk (.enumerating package) (packagePath package) entry =
        (.ok (some location) : Except (Failure ε) _) ∧
      Mount.ofLocation location (packagePath package) = .ok mount ∧
      resource ∈ (mount.walk disk : Run Resource (Failure ε)).items := by
  rw [scan] at h
  split at h
  · simp [Run.resources] at h
  · next locations hlocations =>
    obtain ⟨location, hmem, mount, hmount, hresource⟩ := exists_of_mem_scanMounts h
    obtain ⟨holders, hsub, hholders⟩ := exists_holders hlocations
    obtain ⟨entry, hentry, hlocation⟩ := exists_of_mem_forall₂ hholders hmem
    exact ⟨entry, hsub.subset hentry, location, mount, hlocation, hmount, hresource⟩

/-! ### Scans of one entry -/

variable {entry : Path} (hentry : searchEntries disk [text] = [entry])

include hentry

theorem mountLocations_singleton (package : String) :
    (mountLocations disk [text] package : Except (Failure ε) _) =
      (entryLocation? disk (.enumerating package) (packagePath package) entry).map Option.toList := by
  rw [mountLocations, hentry, List.mapM_cons, List.mapM_nil]
  cases (entryLocation? disk (.enumerating package) (packagePath package) entry :
    Except (Failure ε) (Option String)) with
  | error _ => rfl
  | ok location? =>
    cases location? with
    | none => rfl
    | some _ => rfl

/-- An entry without a location yields nothing. -/
theorem scanNames_singleton_none
    (h : entryLocation? disk (.enumerating package) (packagePath package) entry =
      (.ok none : Except (Failure ε) _)) :
    scanNames disk [text] package = (.ok [] : Except (Failure ε) _) := by
  rw [scanNames, scan, mountLocations_singleton hentry, h]
  rfl

/-- An entry that fails makes the scan fail. -/
theorem scanNames_singleton_error {failure : Failure ε}
    (h : entryLocation? disk (.enumerating package) (packagePath package) entry = .error failure) :
    scanNames disk [text] package = .error failure := by
  rw [scanNames, scan, mountLocations_singleton hentry, h]
  rfl

/-- An entry with a location yields the names of the resources of its mount, unless the walk fails. -/
theorem scanNames_singleton_some
    (h : entryLocation? disk (.enumerating package) (packagePath package) entry =
      (.ok (some location) : Except (Failure ε) _))
    (hmount : Mount.ofLocation location (packagePath package) = .ok mount) :
    (scanNames disk [text] package : Except (Failure ε) _) =
      match (mount.walk disk : Run Resource (Failure ε)).failure? with
      | some failure => .error failure
      | none => .ok ((mount.walk disk : Run Resource (Failure ε)).items.map (·.name)) := by
  have hresources : ∀ items : List Resource,
      (ScanStep.entered location :: items.map .found).filterMap ScanStep.resource? = items := by
    intro items
    rw [List.filterMap_cons_none rfl, List.filterMap_map]
    exact List.filterMap_some
  rw [scanNames, scan, mountLocations_singleton hentry, h]
  simp only [Except.map, Option.toList_some, scanMounts, scanMount, hmount]
  cases hfailure : (mount.walk disk : Run Resource (Failure ε)).failure? with
  | some failure => rw [Run.collect, collectSteps_names]
  | none => rw [Run.collect, collectSteps_names, List.append_nil, hresources]

end Lookup
