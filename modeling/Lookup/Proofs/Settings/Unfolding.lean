import Mathlib.Data.Fintype.Pigeonhole
import Mathlib.Data.Fintype.Prod
import Mathlib.Logic.Relation
import Mathlib.Order.Monotone.Basic
import Lookup.Proofs.Except
import Lookup.Settings.Document

/-!
# Going down in settings documents

The tree that settings are made from is found by going down from part to part, less often than a limit says.
Where this comes to an end, a higher limit changes nothing. A document has a finite number of places, so where
a high limit is not enough, none is. Hence the tree does not depend on a limit.

## Main definitions

* `Document.LeadsTo` — going down from one place to another

## Main results

* `Document.unfoldWithin_mono` — a higher limit changes nothing where going down comes to an end
* `Document.tree_eq_iff`, `Document.tree_eq_endless_iff` — the tree, by going down within any limit
* `Document.exists_cycle_of_tree_eq_endless`, `Document.not_cycle_of_tree_eq_ok` — going down has no end only
  where it comes to a place that leads back to itself
-/

namespace Lookup

variable {size : Nat} {read other : Part size → Except Fault Datum} {fault : Fault}

theorem Datum.written_cases (datum : Datum) :
    datum.written = .ok datum ∨ datum.written = .error .badScalar := by
  rw [Datum.written]
  split
  · exact .inl rfl
  · exact .inr rfl

theorem Datum.written_eq_error {datum : Datum} (h : datum.written = .error fault) : fault = .badScalar := by
  rcases datum.written_cases with hok | herror
  · cases hok.symm.trans h
  · cases herror.symm.trans h
    rfl

/-! ### Collections -/

namespace Collection

variable {collection : Collection size} {entries : List (Datum × Part size)}

/-- Reading entries fails where reading a part does, or at a key. -/
theorem exists_of_readEntries_eq_error (h : readEntries read entries = .error fault) :
    fault = .badScalar ∨ ∃ entry ∈ entries, read entry.2 = .error fault := by
  obtain ⟨before, entry, after, rfl, -, hentry⟩ := mapM_eq_error_iff.1 h
  rcases entry.1.written_cases with hkey | hkey <;> rw [hkey] at hentry
  · cases hvalue : read entry.2 with
    | error found =>
      rw [hvalue] at hentry
      cases hentry
      exact .inr ⟨entry, by simp, hvalue⟩
    | ok value =>
      rw [hvalue] at hentry
      cases hentry
  · exact .inl (Except.error.inj hentry).symm

/-- Entries are read in the same way by what differs only at parts where reading has no end. -/
theorem readEntries_of_ne_endless (h : ∀ entry ∈ entries, read entry.2 ≠ .error .endless →
      other entry.2 = read entry.2) (hne : readEntries read entries ≠ .error .endless) :
    readEntries other entries = readEntries read entries := by
  refine mapM_eq_of_ne_error (fun entry hentry hends => ?_) hne
  rcases entry.1.written_cases with hkey | hkey <;> rw [hkey] at hends ⊢
  · have hvalue : read entry.2 ≠ .error .endless := fun herror => hends (by rw [herror]; rfl)
    rw [h entry hentry hvalue]
  · rfl

/-- Where entries are read, all of their parts are. -/
theorem exists_ok_of_readEntries {tree : List (Datum × Datum)} (h : readEntries read entries = .ok tree) :
    ∀ entry ∈ entries, ∃ value, read entry.2 = .ok value := by
  intro entry hentry
  obtain ⟨result, hread⟩ := exists_of_mapM_eq_ok h hentry
  obtain ⟨key, -, hread⟩ := exists_of_bind_eq_ok hread
  obtain ⟨value, hvalue, -⟩ := exists_of_bind_eq_ok hread
  exact ⟨value, hvalue⟩

/-- Reading a collection fails where reading a part does, or at a key. -/
theorem exists_of_read_eq_error (h : collection.read read = .error fault) :
    fault = .badScalar ∨ ∃ part ∈ collection.parts, read part = .error fault := by
  cases collection with
  | list items | tuple items =>
    obtain ⟨before, item, after, rfl, -, hitem⟩ := mapM_eq_error_iff.1 (map_eq_error_iff.1 h)
    exact .inr ⟨item, by simp [parts], hitem⟩
  | map entries =>
    rcases exists_of_readEntries_eq_error (map_eq_error_iff.1 h) with hfault | ⟨entry, hentry, hread⟩
    · exact .inl hfault
    · exact .inr ⟨entry.2, List.mem_map_of_mem hentry, hread⟩

/-- A collection is read in the same way by what differs only at parts where reading has no end. -/
theorem read_of_ne_endless (h : ∀ part ∈ collection.parts, read part ≠ .error .endless →
      other part = read part) (hne : collection.read read ≠ .error .endless) :
    collection.read other = collection.read read := by
  cases collection with
  | list items | tuple items =>
    have hitems : items.mapM read ≠ .error .endless := mt map_eq_error_iff.2 hne
    exact congrArg (Except.map _) (mapM_eq_of_ne_error h hitems)
  | map entries =>
    have hentries : readEntries read entries ≠ .error .endless := mt map_eq_error_iff.2 hne
    exact congrArg (Except.map _)
      (readEntries_of_ne_endless (fun entry hentry => h entry.2 (List.mem_map_of_mem hentry)) hentries)

/-- Where a collection is read, all of its parts are. -/
theorem exists_ok_of_read {datum : Datum} (h : collection.read read = .ok datum) :
    ∀ part ∈ collection.parts, ∃ value, read part = .ok value := by
  cases collection with
  | list items | tuple items =>
    obtain ⟨values, hvalues, -⟩ := map_eq_ok_iff.1 h
    exact fun part => exists_of_mapM_eq_ok hvalues
  | map entries =>
    obtain ⟨tree, htree, -⟩ := map_eq_ok_iff.1 h
    intro part hpart
    obtain ⟨entry, hentry, rfl⟩ := List.mem_map.1 hpart
    exact exists_ok_of_readEntries htree entry hentry

end Collection

/-! ### Going down -/

namespace Document

variable {document : Document} {limit more : Nat} {use : Use} {place : Fin document.size}
  {part : Part document.size} {entries : List (Datum × Part document.size)}
  {tree : List (Datum × Datum)}

/-- A display form fails only at a number that is too long to be written. -/
theorem displayed_eq_error {left : List (Fin document.size)} (h : document.displayed left part = .error fault) :
    fault = .badScalar := by
  induction left, part using displayed.induct with
  | case1 left value =>
    rw [displayed] at h
    exact value.written_eq_error h
  | case2 left place hleft ih =>
    rw [displayed, if_pos hleft] at h
    rcases Collection.exists_of_read_eq_error h with hfault | ⟨part, -, hpart⟩
    · exact hfault
    · exact ih part hpart
  | case3 left place hleft =>
    rw [displayed, if_neg hleft] at h
    cases h

theorem unfoldWithin_datum (value : Datum) :
    document.unfoldWithin (limit + 1) use (.datum value) = value.written := by
  rw [unfoldWithin]

/-- Going down from a place into its parts. -/
theorem unfoldWithin_of_below {below : Use}
    (h : use.below (document.collection place).shape = some below) :
    document.unfoldWithin (limit + 1) use (.place place) =
      (document.collection place).read (document.unfoldWithin limit below) := by
  rw [unfoldWithin, h]

/-- A place that is shown and not gone down into. -/
theorem unfoldWithin_of_shown (h : use.below (document.collection place).shape = none) :
    document.unfoldWithin (limit + 1) use (.place place) =
      document.displayed (List.finRange document.size) (.place place) := by
  rw [unfoldWithin, h]

theorem unfoldWithin_succ (h : document.unfoldWithin limit use part ≠ .error .endless) :
    document.unfoldWithin (limit + 1) use part = document.unfoldWithin limit use part := by
  induction limit generalizing use part with
  | zero => exact absurd (by rw [unfoldWithin]) h
  | succ limit ih =>
    cases part with
    | datum value => rw [unfoldWithin_datum, unfoldWithin_datum]
    | place place =>
      cases hbelow : use.below (document.collection place).shape with
      | none => rw [unfoldWithin_of_shown hbelow, unfoldWithin_of_shown hbelow]
      | some below =>
        rw [unfoldWithin_of_below hbelow] at h
        rw [unfoldWithin_of_below hbelow, unfoldWithin_of_below hbelow]
        exact Collection.read_of_ne_endless (fun part _ => ih) h

/-- A higher limit changes nothing where going down comes to an end. -/
theorem unfoldWithin_mono (hle : limit ≤ more)
    (h : document.unfoldWithin limit use part ≠ .error .endless) :
    document.unfoldWithin more use part = document.unfoldWithin limit use part := by
  induction hle with
  | refl => rfl
  | step hle ih => rw [unfoldWithin_succ (by rwa [ih]), ih]

/-- Going down fails only where it has no end or at a number that is too long to be written. -/
theorem unfoldWithin_eq_error (h : document.unfoldWithin limit use part = .error fault) :
    fault = .endless ∨ fault = .badScalar := by
  induction limit generalizing use part with
  | zero =>
    rw [unfoldWithin] at h
    cases h
    exact .inl rfl
  | succ limit ih =>
    cases part with
    | datum value =>
      rw [unfoldWithin_datum] at h
      exact .inr (value.written_eq_error h)
    | place place =>
      cases hbelow : use.below (document.collection place).shape with
      | none =>
        rw [unfoldWithin_of_shown hbelow] at h
        exact .inr (displayed_eq_error h)
      | some below =>
        rw [unfoldWithin_of_below hbelow] at h
        rcases Collection.exists_of_read_eq_error h with hfault | ⟨part, -, hpart⟩
        · exact .inr hfault
        · exact ih hpart

/-! ### High limits -/

instance : Fintype Use := ⟨{.settings, .text}, fun use => by cases use <;> simp⟩

open Classical in
/-- The places from which going down comes to an end within a limit, with what they are wanted for. -/
noncomputable def endsWithin (document : Document) (limit : Nat) : Finset (Fin document.size × Use) :=
  {state | document.unfoldWithin (limit + 1) state.2 (.place state.1) ≠ .error .endless}

@[simp] theorem mem_endsWithin_iff {state : Fin document.size × Use} :
    state ∈ document.endsWithin limit ↔
      document.unfoldWithin (limit + 1) state.2 (.place state.1) ≠ .error .endless := by
  simp [endsWithin]

theorem endsWithin_mono (document : Document) : Monotone document.endsWithin := by
  intro limit more hle state hstate
  rw [mem_endsWithin_iff] at hstate ⊢
  rwa [unfoldWithin_mono (Nat.succ_le_succ hle) hstate]

/-- Where going down once more brings in no place, going down twice more does not. -/
theorem endsWithin_succ_eq (h : document.endsWithin limit = document.endsWithin (limit + 1)) :
    document.endsWithin (limit + 1) = document.endsWithin (limit + 2) := by
  refine (document.endsWithin_mono (Nat.le_succ _)).antisymm ?_
  rintro ⟨place, use⟩ hends
  rw [mem_endsWithin_iff] at hends ⊢
  dsimp only at hends ⊢
  cases hbelow : use.below (document.collection place).shape with
  | none =>
    rw [unfoldWithin_of_shown hbelow]
    exact fun h => by cases displayed_eq_error h
  | some below =>
    rw [unfoldWithin_of_below hbelow] at hends ⊢
    rwa [Collection.read_of_ne_endless _ hends]
    -- A part that ends with the higher limit ends with the lower one already, so that it is read alike.
    intro part _ hpart
    cases part with
    | datum value => rw [unfoldWithin_datum, unfoldWithin_datum]
    | place place =>
      have hmem : (place, below) ∈ document.endsWithin limit := by
        rw [h]
        exact mem_endsWithin_iff.2 hpart
      exact (unfoldWithin_succ (mem_endsWithin_iff.1 hmem)).symm

/-- The places from which going down comes to an end are all found with a limit of twice their number. -/
theorem endsWithin_eq_of_le (hle : 2 * document.size ≤ limit) :
    document.endsWithin limit = document.endsWithin (2 * document.size) := by
  -- These sets grow with the limit until they stop for good, and each of them is smaller than the bound.
  have hmono : Monotone fun limit => (document.endsWithin limit).card :=
    fun _ _ hle => Finset.card_le_card (document.endsWithin_mono hle)
  have hbound (limit : Nat) : (document.endsWithin limit).card ≤ 2 * document.size := by
    have hcard : Fintype.card (Fin document.size × Use) = 2 * document.size := by
      rw [Fintype.card_prod, Fintype.card_fin, Nat.mul_comm]
      rfl
    exact hcard ▸ Finset.card_le_univ _
  have hstable (limit : Nat) (h : (document.endsWithin limit).card = (document.endsWithin (limit + 1)).card) :
      (document.endsWithin (limit + 1)).card = (document.endsWithin (limit + 2)).card := by
    rw [endsWithin_succ_eq (Finset.eq_of_subset_of_card_le (document.endsWithin_mono (Nat.le_succ _)) h.ge)]
  have hcard := Nat.stabilises_of_monotone hmono hbound hstable hle
  exact (Finset.eq_of_subset_of_card_le (document.endsWithin_mono hle) hcard.le).symm

/-- No limit is high enough where the limit of the tree is not. -/
theorem unfoldWithin_eq_of_le (hle : 2 * document.size + 1 ≤ limit) :
    document.unfoldWithin limit use part = document.unfoldWithin (2 * document.size + 1) use part := by
  by_cases hends : document.unfoldWithin (2 * document.size + 1) use part = .error .endless
  · obtain ⟨limit, rfl⟩ := Nat.exists_eq_add_of_le' (Nat.one_le_of_lt hle)
    cases part with
    | datum value => rw [unfoldWithin_datum, unfoldWithin_datum]
    | place place =>
      by_contra hne
      have hmem : (place, use) ∈ document.endsWithin limit := mem_endsWithin_iff.2 fun h => hne (h.trans hends.symm)
      rw [endsWithin_eq_of_le (Nat.le_of_succ_le_succ hle)] at hmem
      exact mem_endsWithin_iff.1 hmem hends
  · exact unfoldWithin_mono hle hends

/-! ### The tree -/

theorem treeWithin_mono (hle : limit ≤ more) (h : document.treeWithin limit entries ≠ .error .endless) :
    document.treeWithin more entries = document.treeWithin limit entries :=
  Collection.readEntries_of_ne_endless (fun _ _ => unfoldWithin_mono hle) h

theorem treeWithin_eq_tree (hle : 2 * document.size + 1 ≤ limit) :
    document.treeWithin limit entries = document.tree entries := by
  have hunfold : document.unfoldWithin limit .settings = document.unfoldWithin (2 * document.size + 1) .settings :=
    funext fun _ => unfoldWithin_eq_of_le hle
  rw [tree, treeWithin, treeWithin, hunfold]

/-- The tree is what going down within some limit comes to. -/
theorem tree_eq_iff {result : Except Fault (List (Datum × Datum))} (hresult : result ≠ .error .endless) :
    document.tree entries = result ↔ ∃ limit, document.treeWithin limit entries = result := by
  constructor
  · exact fun h => ⟨_, h⟩
  · rintro ⟨limit, rfl⟩
    rcases Nat.le_total limit (2 * document.size + 1) with hle | hle
    · exact treeWithin_mono hle hresult
    · exact (treeWithin_eq_tree hle).symm

/-- There is no tree where going down has an end within no limit. -/
theorem tree_eq_endless_iff :
    document.tree entries = .error .endless ↔
      ∀ limit, document.treeWithin limit entries = .error .endless := by
  constructor
  · intro h limit
    by_contra hne
    exact hne (((tree_eq_iff hne).2 ⟨limit, rfl⟩).symm.trans h)
  · exact fun h => h _

theorem tree_eq_error (h : document.tree entries = .error fault) : fault = .endless ∨ fault = .badScalar := by
  rcases Collection.exists_of_readEntries_eq_error h with hfault | ⟨entry, -, hunfold⟩
  · exact .inr hfault
  · exact unfoldWithin_eq_error hunfold

/-! ### Cycles -/

/-- Going down from one place to another one in it, each with what it is wanted for. -/
def LeadsTo (document : Document) (upper lower : Fin document.size × Use) : Prop :=
  .place lower.1 ∈ (document.collection upper.1).parts ∧
    upper.2.below (document.collection upper.1).shape = some lower.2

/-- Going down from a place has no end. -/
def IsEndless (document : Document) (state : Fin document.size × Use) : Prop :=
  ∀ limit, document.unfoldWithin limit state.2 (.place state.1) = .error .endless

theorem isEndless_of_unfoldWithin
    (h : document.unfoldWithin (2 * document.size + 1) use (.place place) = .error .endless) :
    document.IsEndless (place, use) := by
  intro limit
  rcases Nat.le_total limit (2 * document.size + 1) with hle | hle
  · by_contra hne
    exact hne ((unfoldWithin_mono hle hne).symm.trans h)
  · exact (unfoldWithin_eq_of_le hle).trans h

/-- A part from which going down within the limit of the tree has no end is a place. -/
theorem exists_place_of_unfoldWithin
    (h : document.unfoldWithin (2 * document.size + 1) use part = .error .endless) :
    ∃ place, part = .place place ∧ document.IsEndless (place, use) := by
  cases part with
  | datum value =>
    rw [unfoldWithin_datum] at h
    cases value.written_eq_error h
  | place place => exact ⟨place, rfl, isEndless_of_unfoldWithin h⟩

/-- Where going down has no end, it leads to a place from where it has none. -/
theorem IsEndless.exists_leadsTo {state : Fin document.size × Use} (h : document.IsEndless state) :
    ∃ lower, document.LeadsTo state lower ∧ document.IsEndless lower := by
  obtain ⟨place, use⟩ := state
  have hends := h (2 * document.size + 1 + 1)
  cases hbelow : use.below (document.collection place).shape with
  | none =>
    rw [unfoldWithin_of_shown hbelow] at hends
    cases displayed_eq_error hends
  | some below =>
    rw [unfoldWithin_of_below hbelow] at hends
    rcases Collection.exists_of_read_eq_error hends with hfault | ⟨part, hpart, hunfold⟩
    · cases hfault
    · obtain ⟨lower, rfl, hlower⟩ := exists_place_of_unfoldWithin hunfold
      exact ⟨(lower, below), ⟨hpart, hbelow⟩, hlower⟩

/-- Where going down has no end, it leads to a place that leads back to itself. -/
theorem IsEndless.exists_cycle {state : Fin document.size × Use} (h : document.IsEndless state) :
    ∃ lower, Relation.ReflTransGen document.LeadsTo state lower ∧
      Relation.TransGen document.LeadsTo lower lower := by
  choose lower hleads hlower using fun state : {state // document.IsEndless state} => state.2.exists_leadsTo
  -- A way down without an end, which comes to one of finitely many places twice.
  let way (depth : Nat) : {state // document.IsEndless state} :=
    (fun state => ⟨lower state, hlower state⟩)^[depth] ⟨state, h⟩
  have hway (depth : Nat) : document.LeadsTo (way depth).1 (way (depth + 1)).1 := by
    have hsucc : (way (depth + 1)).1 = lower (way depth) :=
      congrArg Subtype.val (Function.iterate_succ_apply' _ depth _)
    rw [hsucc]
    exact hleads _
  obtain ⟨first, second, hne, hsame⟩ := Finite.exists_ne_map_eq_of_infinite way
  wlog hlt : first < second generalizing first second
  · exact this second first hne.symm hsame.symm (by omega)
  refine ⟨(way first).1, ?_, ?_⟩
  · exact Nat.rel_of_forall_rel_succ_of_le (f := fun depth => (way depth).1)
      (Relation.ReflTransGen document.LeadsTo) (fun depth => .single (hway depth)) (Nat.zero_le first)
  · have hcycle := Nat.rel_of_forall_rel_succ_of_lt (f := fun depth => (way depth).1)
      (Relation.TransGen document.LeadsTo) (fun depth => .single (hway depth)) hlt
    rwa [← hsame] at hcycle

/-- Where there is no tree because going down has no end, some entry leads to a place that leads back to
itself. -/
theorem exists_cycle_of_tree_eq_endless (h : document.tree entries = .error .endless) :
    ∃ entry ∈ entries, ∃ place state, entry.2 = .place place ∧
      Relation.ReflTransGen document.LeadsTo (place, .settings) state ∧
      Relation.TransGen document.LeadsTo state state := by
  rcases Collection.exists_of_readEntries_eq_error h with hfault | ⟨entry, hentry, hunfold⟩
  · cases hfault
  · obtain ⟨place, hplace, hendless⟩ := exists_place_of_unfoldWithin hunfold
    obtain ⟨state, hreach, hcycle⟩ := hendless.exists_cycle
    exact ⟨entry, hentry, place, state, hplace, hreach, hcycle⟩

/-- Where there is a tree below a place, there is one below each place that it leads to. -/
theorem LeadsTo.exists_ok {upper lower : Fin document.size × Use} {datum : Datum}
    (h : document.LeadsTo upper lower)
    (hupper : document.unfoldWithin (limit + 1) upper.2 (.place upper.1) = .ok datum) :
    ∃ value, document.unfoldWithin limit lower.2 (.place lower.1) = .ok value := by
  rw [unfoldWithin_of_below h.2] at hupper
  exact Collection.exists_ok_of_read hupper _ h.1

/-- Going down from where there is a tree is well-founded. -/
theorem acc_of_unfoldWithin_eq_ok {datum : Datum}
    (h : document.unfoldWithin limit use (.place place) = .ok datum) :
    Acc (fun lower upper => document.LeadsTo upper lower) (place, use) := by
  induction limit generalizing place use datum with
  | zero =>
    rw [unfoldWithin] at h
    cases h
  | succ limit ih =>
    -- Below each place to which this one leads there is a tree within a lower limit.
    refine ⟨_, fun lower hleads => ?_⟩
    obtain ⟨value, hvalue⟩ := hleads.exists_ok h
    exact ih hvalue

theorem not_cycle_of_acc {state : Fin document.size × Use}
    (h : Acc (fun lower upper => document.LeadsTo upper lower) state) :
    ¬ Relation.TransGen document.LeadsTo state state := by
  induction h with
  | intro state _ ih =>
    intro hcycle
    obtain ⟨lower, hleads, hback⟩ := Relation.TransGen.head'_iff.1 hcycle
    exact ih lower hleads (.tail' hback hleads)

/-- Where there is a tree, no entry leads to a place that leads back to itself. -/
theorem not_cycle_of_tree_eq_ok (h : document.tree entries = .ok tree) {entry : Datum × Part document.size}
    (hentry : entry ∈ entries) (hplace : entry.2 = .place place) {state : Fin document.size × Use}
    (hreach : Relation.ReflTransGen document.LeadsTo (place, .settings) state) :
    ¬ Relation.TransGen document.LeadsTo state state := by
  obtain ⟨value, hvalue⟩ := Collection.exists_ok_of_readEntries h entry hentry
  rw [hplace] at hvalue
  have hacc : Acc (fun lower upper => document.LeadsTo upper lower) state := by
    induction hreach with
    | refl => exact acc_of_unfoldWithin_eq_ok hvalue
    | tail _ hleads ih => exact ih.inv hleads
  exact not_cycle_of_acc hacc

end Document

end Lookup
