import Lookup.Proofs.Text.Case
import Lookup.Value.Tag

/-!
# Keys of types

Two keys are one where they have the same identity: data by what sameness looks at in them, which for numbers is
their value, for date-times with an offset their instant and for tuples their items, classes by what they are, and
other objects by the objects that they are equal to. So sameness is symmetric and transitive, and what has no identity
is the same as nothing, itself included. Normalising a key twice does nothing more than once, and finds the built-in
types by their tags, their names in any letter case and their classes.

## Main definitions

* `TypeKey.Names` — the keys of the built-in types

## Main results

* `TypeKey.same_iff`, `TypeKey.same_comm`, `TypeKey.same_trans` — sameness is that of identities
* `TypeKey.tag?_eq_some_iff` — a key is equal to one built-in tag at most
* `TypeKey.Names.normalize_eq` — the keys of a built-in type are normalised to its tag
* `TypeKey.normalize_normalize` — normalising is done once
-/

namespace Lookup.TypeKey

open Text

variable {a b c key : TypeKey} {t : Tag}

/-! ### Sameness -/

/-- Keys are the same if they have the same identity. -/
theorem same_iff : a.same b = true ↔ ∃ identity, a.identity? = some identity ∧ b.identity? = some identity := by
  unfold same
  cases a.identity? with
  | none => simp
  | some x =>
    cases b.identity? with
    | none => simp
    | some y => simpa using eq_comm

theorem same_comm (a b : TypeKey) : a.same b = b.same a := by
  rw [Bool.eq_iff_iff, same_iff, same_iff]
  exact exists_congr fun _ => and_comm

theorem same_trans (hab : a.same b = true) (hbc : b.same c = true) : a.same c = true := by
  obtain ⟨identity, ha, hb⟩ := same_iff.1 hab
  obtain ⟨identity', hb', hc⟩ := same_iff.1 hbc
  obtain rfl := Option.some.inj (hb.symm.trans hb')
  exact same_iff.2 ⟨identity, ha, hc⟩

/-- What cannot be hashed is the same as nothing. -/
theorem same_eq_false_of_identity? (h : b.identity? = none) (a : TypeKey) : a.same b = false := by
  rw [← Bool.not_eq_true, same_iff]
  simp [h]

/-! ### Built-in tags -/

theorem ofText?_eq_some_iff {s : String} : Tag.ofText? s = some t ↔ s = t.text := by
  constructor
  · intro h
    have htext := List.find?_some h
    exact (of_decide_eq_true htext).symm
  · rintro rfl
    exact t.ofText?_text

/-- A key is equal to a built-in tag if it is found for it. -/
theorem tag?_eq_some_iff : key.tag? = some t ↔ (TypeKey.tag t).same key = true := by
  have hidentity : (TypeKey.tag t).identity? = some (.datum (.text t.text)) := rfl
  rw [same_iff, hidentity, tag?]
  simp only [Option.some.injEq, exists_eq_left']
  split
  · next s hs => simp [hs, ofText?_eq_some_iff]
  · next hother => exact iff_of_false nofun (hother _)

theorem tag?_eq_none_iff : key.tag? = none ↔ ∀ tag, (TypeKey.tag tag).same key = false := by
  simp only [Option.eq_none_iff_forall_ne_some, ne_eq, tag?_eq_some_iff, Bool.not_eq_true]

/-- Keys that are the same are equal to the same built-in tag. -/
theorem tag?_eq_of_same (h : a.same b = true) : a.tag? = b.tag? := by
  obtain ⟨identity, ha, hb⟩ := same_iff.1 h
  rw [tag?, tag?, ha, hb]

/-! ### Normalising -/

/-- The keys of a built-in type: its tag, its name in any letter case, the classes that stand for it, and what is equal
to one of these classes. -/
inductive Names : TypeKey → Tag → Prop
  | tag (t : Tag) : Names (.tag t) t
  | text {s : String} {t : Tag} (eq : s.toList.map Char.toLower = t.text.toList) : Names (.text s) t
  | hostClass (c : HostClass) : Names (.hostClass c) c.tag
  | object {o : HostObject} {c : HostClass} (equal : o.identity? = some (.hostClass c)) : Names (.object o) c.tag

theorem isAscii_text (t : Tag) : t.text.toList.all (fun c => Nat.blt c.toNat 128) = true := by
  cases t <;> decide

theorem toNat_lt_of_toLower {c : Char} (h : c.toLower.toNat < 128) : c.toNat < 128 := by
  unfold Char.toLower at h
  split at h
  · next hcapital =>
    have hle : c.toNat ≤ 90 := UInt32.le_iff_toNat_le.1 hcapital.2
    omega
  · exact h

/-- A name in any letter case is the name once it is in lower case. -/
theorem lowerString_eq_text {s : String} (h : s.toList.map Char.toLower = t.text.toList) :
    lowerString s = t.text := by
  -- Beyond U+007F no character is changed one by one, and the tags have none of them.
  have hascii : ∀ c ∈ s.toList, c.toNat < 128 := by
    intro c hc
    have hmem : c.toLower ∈ t.text.toList := h ▸ List.mem_map_of_mem hc
    have hlt := List.all_eq_true.1 (isAscii_text t) _ hmem
    rw [Nat.blt_eq] at hlt
    exact toNat_lt_of_toLower hlt
  rw [lowerString, lower_of_ascii hascii, h, String.ofList_toList]

/-- The keys of a built-in type are normalised to its tag. -/
theorem Names.normalize_eq (h : key.Names t) : key.normalize = .tag t := by
  cases h with
  | tag => rfl
  | text eq => simp only [normalize, ofText, lowerString_eq_text eq, Tag.ofText?_text]
  | hostClass c => rfl
  | object equal => simp only [normalize, equal]

theorem normalize_ofText (s : String) : (ofText s).normalize = ofText s := by
  unfold ofText
  cases h : Tag.ofText? (lowerString s) with
  | some t => simp only [h, normalize]
  | none => simp only [h, normalize, ofText, lowerString_lowerString]

/-- Normalising is done once. -/
theorem normalize_normalize (key : TypeKey) : key.normalize.normalize = key.normalize := by
  cases key with
  | tag t => rfl
  | text s => exact normalize_ofText s
  | hostClass c => rfl
  | datum d =>
    cases d with
    | str s => exact normalize_ofText s
    | _ => rfl
  | object o =>
    cases h : o.identity? with
    | none => simp only [normalize, h]
    | some identity => cases identity <;> simp only [normalize, h]

/-- What cannot be hashed stays what it is. -/
theorem normalize_of_identity? (h : key.identity? = none) : key.normalize = key := by
  cases key with
  | datum d =>
    cases d with
    | str s => cases h
    | _ => rfl
  | object o =>
    have hidentity : o.identity? = none := h
    simp only [normalize, hidentity]
  | _ => cases h

end Lookup.TypeKey
