import Mathlib.Data.List.Induction
import Mathlib.Data.List.Perm.Basic
import Lookup.Proofs.Value.Convert
import Lookup.Proofs.Value.Key
import Lookup.Time.Almanac

/-!
# Registries with further converters

Further converters are registered one after another, each under its key as it is normalised, as long as nothing stands
under this key. So a registry is built from those whose keys are no built-in types and are pairwise different, in
whatever order they come. It converts the built-in types as without them, every other type by the one converter whose
key is the same, and no type that has none.

## Main definitions

* `Compatible` — which further converters may stand beside each other
* `ConvertError.of` — how the refusal of a converter is passed on
* `Registry.ofFurther` — the registry that keeps further converters under their normalised keys
* `Registry.Extends` — a registry converts by the built-in converters and by further ones

## Main results

* `Registry.build_eq_ok_iff`, `Registry.exists_build_eq_error` — which further converters make up a registry, and
  which key is complained about
* `Registry.extends_of_compatible`, `Registry.convert_of_perm` — what a registry converts by, whatever the order
* `Registry.build_extends` — further converters extend the built-in ones
-/

namespace Lookup

variable {ε : Type} {zones : Time.ZoneDatabase} {further other : List (TypeKey × Converter ε)}
  {entry : TypeKey × Converter ε} {key : TypeKey} {text : String}

/-! ### Converters beside each other -/

/-- The keys of further converters are no built-in types and pairwise different, once they are normalised. -/
structure Compatible (further : List (TypeKey × Converter ε)) : Prop where
  ne_tag : ∀ entry ∈ further, ∀ tag, (TypeKey.tag tag).same entry.1.normalize = false
  pairwise : further.Pairwise fun a b => a.1.normalize.same b.1.normalize = false

theorem compatible_nil : Compatible ([] : List (TypeKey × Converter ε)) := ⟨by simp, .nil⟩

/-- One more converter may come last if its key is neither a built-in type nor one of the keys before it. -/
theorem compatible_concat : Compatible (further ++ [entry]) ↔
    Compatible further ∧ (∀ tag, (TypeKey.tag tag).same entry.1.normalize = false) ∧
      ∀ old ∈ further, old.1.normalize.same entry.1.normalize = false := by
  constructor
  · rintro ⟨hne, hpairwise⟩
    obtain ⟨hfurther, -, hold⟩ := List.pairwise_append.1 hpairwise
    refine ⟨⟨fun e he => hne e (by simp [he]), hfurther⟩, hne entry (by simp), fun old h => ?_⟩
    exact hold old h entry (by simp)
  · rintro ⟨⟨hne, hpairwise⟩, hentry, hold⟩
    refine ⟨fun e he => ?_, List.pairwise_append.2 ⟨hpairwise, List.pairwise_singleton _ _, fun a ha b hb => ?_⟩⟩
    · obtain h | h := List.mem_append.1 he
      · exact hne e h
      · exact List.mem_singleton.1 h ▸ hentry
    · exact List.mem_singleton.1 hb ▸ hold a ha

namespace Compatible

theorem perm (h : Compatible further) (hperm : other.Perm further) : Compatible other where
  ne_tag entry hentry := h.ne_tag entry (hperm.mem_iff.1 hentry)
  pairwise := (hperm.pairwise_iff fun {a b} hab => by rwa [TypeKey.same_comm]).2 h.pairwise

/-- A key is the same as that of one converter at most. -/
theorem filter_eq (h : Compatible further) (hmem : entry ∈ further) (hsame : entry.1.normalize.same key = true) :
    further.filter (fun e => e.1.normalize.same key) = [entry] := by
  obtain ⟨before, after, rfl⟩ := List.append_of_mem hmem
  obtain ⟨-, hafter, hbefore⟩ := List.pairwise_append.1 h.pairwise
  -- Two keys that are the same as this one would be the same as each other.
  have hnone {e : TypeKey × Converter ε} (he : e.1.normalize.same entry.1.normalize = false) :
      ¬ e.1.normalize.same key = true := fun hkey => by
    have hboth := TypeKey.same_trans hkey (TypeKey.same_comm _ _ ▸ hsame)
    simp [hboth] at he
  have hleft : before.filter (fun e => e.1.normalize.same key) = [] :=
    List.filter_eq_nil_iff.2 fun e he => hnone (hbefore e he entry (by simp))
  have hright : after.filter (fun e => e.1.normalize.same key) = [] :=
    List.filter_eq_nil_iff.2 fun e he =>
      hnone (TypeKey.same_comm _ _ ▸ (List.pairwise_cons.1 hafter).1 e he)
  simp [List.filter_append, hleft, hright, hsame]

/-- In another order, the same converter has the key. -/
theorem filter_eq_of_perm (h : Compatible further) (hperm : other.Perm further) (key : TypeKey) :
    other.filter (fun e => e.1.normalize.same key) = further.filter fun e => e.1.normalize.same key := by
  by_cases hsome : ∃ entry ∈ further, entry.1.normalize.same key = true
  · obtain ⟨entry, hmem, hsame⟩ := hsome
    rw [h.filter_eq hmem hsame, (h.perm hperm).filter_eq (hperm.mem_iff.2 hmem) hsame]
  · have hnone : ∀ entry ∈ further, ¬ entry.1.normalize.same key = true := fun entry hmem hsame =>
      hsome ⟨entry, hmem, hsame⟩
    rw [List.filter_eq_nil_iff.2 hnone, List.filter_eq_nil_iff.2 fun e he => hnone e (hperm.mem_iff.1 he)]

end Compatible

/-- How the refusal of a converter is passed on to the caller. -/
def ConvertError.of (text : String) (key : TypeKey) : Refusal ε → ConvertError ε
  | .refused reason => .refused text key reason
  | .storage errno => .storage errno
  | .foreign error => .foreign error

namespace Registry

variable {registry : Registry ε}

/-! ### Building -/

theorem has_eq_false_iff :
    registry.has key = false ↔
      (∀ tag, (TypeKey.tag tag).same key = false) ∧ ∀ entry ∈ registry.further, entry.1.same key = false := by
  rw [has, Bool.or_eq_false_iff, ← TypeKey.tag?_eq_none_iff]
  simp

/-- The registry that keeps further converters under their normalised keys. -/
def ofFurther (zones : Time.ZoneDatabase) (further : List (TypeKey × Converter ε)) : Registry ε :=
  ⟨zones, further.map fun entry => (entry.1.normalize, entry.2)⟩

theorem ofFurther_concat :
    ofFurther zones (further ++ [entry]) =
      ⟨zones, (ofFurther zones further).further ++ [(entry.1.normalize, entry.2)]⟩ := by
  simp [ofFurther]

theorem has_ofFurther_eq_false_iff : (ofFurther zones further).has key = false ↔
    (∀ tag, (TypeKey.tag tag).same key = false) ∧ ∀ entry ∈ further, entry.1.normalize.same key = false := by
  rw [has_eq_false_iff, ofFurther, List.forall_mem_map]

theorem build_concat : build zones (further ++ [entry]) =
    (build zones further).bind fun registry => registry.register entry.1 entry.2 := by
  simp only [build, List.foldlM_append, List.foldlM_cons, List.foldlM_nil, bind_pure]
  rfl

/-- Compatible converters are registered. -/
theorem build_of_compatible (h : Compatible further) : build zones further = .ok (ofFurther zones further) := by
  -- From the end, as each converter is checked against those before it.
  induction further using List.reverseRecOn with
  | nil => rfl
  | append_singleton further entry ih =>
    obtain ⟨hfurther, hentry⟩ := compatible_concat.1 h
    have hhas : (ofFurther zones further).has entry.1.normalize = false := has_ofFurther_eq_false_iff.2 hentry
    rw [build_concat, ih hfurther, ofFurther_concat]
    simp only [Except.bind, register, hhas, Bool.false_eq_true, if_false]
    rfl

/-- Of converters that are not compatible, the first one is refused that is not compatible with those before it. -/
theorem exists_build_eq_error (zones : Time.ZoneDatabase) (h : ¬ Compatible further) :
    ∃ before entry after, further = before ++ entry :: after ∧ Compatible before ∧
      ¬ Compatible (before ++ [entry]) ∧ build zones further = .error entry.1.normalize := by
  induction further using List.reverseRecOn with
  | nil => exact absurd compatible_nil h
  | append_singleton further last ih =>
    by_cases hfurther : Compatible further
    · refine ⟨further, last, [], rfl, hfurther, h, ?_⟩
      have hhas : (ofFurther zones further).has last.1.normalize = true := by
        rw [← Bool.not_eq_false, has_ofFurther_eq_false_iff]
        exact fun hlast => h (compatible_concat.2 ⟨hfurther, hlast⟩)
      rw [build_concat, build_of_compatible hfurther]
      simp [Except.bind, register, hhas]
    · -- A refusal is passed on, whatever comes behind it.
      obtain ⟨before, entry, after, rfl, hbefore, hentry, hbuild⟩ := ih hfurther
      refine ⟨before, entry, after ++ [last], by simp, hbefore, hentry, ?_⟩
      rw [build_concat, hbuild]
      rfl

/-- A registry is built from compatible converters, and keeps them under their normalised keys. -/
theorem build_eq_ok_iff :
    build zones further = .ok registry ↔ Compatible further ∧ registry = ofFurther zones further := by
  constructor
  · intro h
    by_cases hfurther : Compatible further
    · rw [build_of_compatible hfurther] at h
      exact ⟨hfurther, (Except.ok.inj h).symm⟩
    · obtain ⟨_, _, _, -, -, -, herror⟩ := exists_build_eq_error zones hfurther
      simp [herror] at h
  · rintro ⟨hfurther, rfl⟩
    exact build_of_compatible hfurther

/-! ### Converting -/

theorem find?_of_ne_tag (h : ∀ tag, (TypeKey.tag tag).same key = false) :
    registry.find? key = (registry.further.find? fun entry => entry.1.same key).map (·.2) := by
  simp only [find?, TypeKey.tag?_eq_none_iff.2 h]

theorem convert_of_find? {converter : Converter ε} (h : registry.find? key.normalize = some converter) :
    registry.convert key text = (converter text).mapError (ConvertError.of text key.normalize) := by
  simp only [convert, h]
  rcases converter text with (_ | _ | _) | _ <;> rfl

theorem convert_eq_unsupported_iff :
    registry.convert key text = .error (.unsupported key) ↔ registry.find? key.normalize = none := by
  cases h : registry.find? key.normalize with
  | none => simp [convert, h]
  | some converter =>
    rw [convert_of_find? h]
    rcases converter text with (_ | _ | _) | _ <;> simp [Except.mapError, ConvertError.of]

/-- A registry converts the built-in types as without further converters, every other type by the one further
converter whose key is the same, and no other types, among them all that cannot be hashed. -/
structure Extends (registry : Registry ε) (zones : Time.ZoneDatabase) (further : List (TypeKey × Converter ε)) :
    Prop where
  builtin : ∀ key tag text, (TypeKey.tag tag).same key.normalize = true →
    registry.convert key text = (Registry.builtin zones).convert key text
  mem : ∀ key text, ∀ entry ∈ further, entry.1.normalize.same key.normalize = true →
    further.filter (fun e => e.1.normalize.same key.normalize) = [entry] ∧
      registry.convert key text = (entry.2 text).mapError (ConvertError.of text key.normalize)
  unsupported_iff : ∀ key text, registry.convert key text = .error (.unsupported key) ↔
    (∀ tag, (TypeKey.tag tag).same key.normalize = false) ∧
      ∀ entry ∈ further, entry.1.normalize.same key.normalize = false
  unsupported_of_unhashable : ∀ key text, key.identity? = none →
    registry.convert key text = .error (.unsupported key)

theorem find?_ofFurther (h : ∀ tag, (TypeKey.tag tag).same key = false) : (ofFurther zones further).find? key =
    ((further.filter fun entry => entry.1.normalize.same key).head?).map (·.2) := by
  rw [find?_of_ne_tag h, ofFurther, List.find?_map, List.head?_filter, Option.map_map]
  rfl

/-- A registry has no converter for the keys that are no built-in types and the same as no further one. -/
theorem find?_ofFurther_eq_none_iff : (ofFurther zones further).find? key = none ↔
    (∀ tag, (TypeKey.tag tag).same key = false) ∧ ∀ entry ∈ further, entry.1.normalize.same key = false := by
  by_cases h : ∀ tag, (TypeKey.tag tag).same key = false
  · rw [find?_ofFurther h]
    simp [h]
  · rw [← TypeKey.tag?_eq_none_iff] at h
    obtain ⟨tag, htag⟩ := Option.ne_none_iff_exists'.1 h
    simp [find?, htag, ← TypeKey.tag?_eq_none_iff]

theorem extends_of_compatible (h : Compatible further) : (ofFurther zones further).Extends zones further where
  builtin key tag text htag := by
    rw [← TypeKey.tag?_eq_some_iff] at htag
    simp only [convert, find?, htag]
    rfl
  mem key text entry hmem hsame := by
    have hfilter := h.filter_eq hmem hsame
    -- No further key is a built-in type, so what is the same as one of them is none either.
    have hne : ∀ tag, (TypeKey.tag tag).same key.normalize = false := by
      rw [← TypeKey.tag?_eq_none_iff, ← TypeKey.tag?_eq_of_same hsame, TypeKey.tag?_eq_none_iff]
      exact h.ne_tag entry hmem
    refine ⟨hfilter, convert_of_find? ?_⟩
    rw [find?_ofFurther hne, hfilter]
    rfl
  unsupported_iff key text := by rw [convert_eq_unsupported_iff, find?_ofFurther_eq_none_iff]
  unsupported_of_unhashable key text hkey := by
    rw [convert_eq_unsupported_iff, find?_ofFurther_eq_none_iff, TypeKey.normalize_of_identity? hkey]
    exact ⟨fun _ => TypeKey.same_eq_false_of_identity? hkey _, fun _ _ => TypeKey.same_eq_false_of_identity? hkey _⟩

/-- The order of compatible converters changes nothing, since no two of them have the same key. -/
theorem convert_of_perm (h : Compatible further) (hperm : other.Perm further) :
    (ofFurther zones other).convert key text = (ofFurther zones further).convert key text := by
  have hfind : (ofFurther zones other).find? key.normalize = (ofFurther zones further).find? key.normalize := by
    by_cases hne : ∀ tag, (TypeKey.tag tag).same key.normalize = false
    · rw [find?_ofFurther hne, find?_ofFurther hne, h.filter_eq_of_perm hperm]
    · rw [← TypeKey.tag?_eq_none_iff] at hne
      obtain ⟨tag, htag⟩ := Option.ne_none_iff_exists'.1 hne
      simp only [find?, htag]
      rfl
  simp only [convert, hfind]

/-- Further converters make up a registry if and only if their keys are no built-in types and are pairwise different
as they are normalised, otherwise the first key is refused that is not. The registry extends the built-in converters
by the further ones, whatever their order, finds a built-in type by its tag, its name in any letter case and the classes
that stand for it, and normalises keys once. -/
theorem build_extends (zones : Time.ZoneDatabase) (further : List (TypeKey × Converter ε)) :
    ((∃ registry, build zones further = .ok registry) ↔ Compatible further) ∧
      (¬ Compatible further → ∃ before entry after, further = before ++ entry :: after ∧ Compatible before ∧
        ¬ Compatible (before ++ [entry]) ∧ build zones further = .error entry.1.normalize) ∧
      (∀ registry, build zones further = .ok registry →
        registry.Extends zones further ∧ ∀ other, other.Perm further → ∃ registry', build zones other = .ok registry' ∧
          ∀ key text, registry'.convert key text = registry.convert key text) ∧
      (∀ key tag, TypeKey.Names key tag → key.normalize = .tag tag) ∧
      ∀ key : TypeKey, key.normalize.normalize = key.normalize := by
  refine ⟨?_, exists_build_eq_error zones, ?_, fun _ _ => TypeKey.Names.normalize_eq, TypeKey.normalize_normalize⟩
  · constructor
    · rintro ⟨registry, hbuild⟩
      exact (build_eq_ok_iff.1 hbuild).1
    · intro h
      exact ⟨_, build_of_compatible h⟩
  · intro registry hbuild
    obtain ⟨h, rfl⟩ := build_eq_ok_iff.1 hbuild
    refine ⟨extends_of_compatible h, fun other hperm => ⟨_, build_of_compatible (h.perm hperm), fun key text => ?_⟩⟩
    exact convert_of_perm h hperm

/-- A converter under `CSV` is the one for this name in any letter case, and the built-in types and a list, which
cannot be hashed, are converted as without it. -/
theorem build_extends_csv :
    ∃ registry : Registry Unit, build Time.almanac [(.text "CSV", fun text => .ok (.text text))] = .ok registry ∧
      registry.convert (.text "Csv") "a,b" = .ok (.text "a,b") ∧
      registry.convert (.text "INT8") "7" = (builtin Time.almanac).convert (.text "INT8") "7" ∧
      registry.convert (.datum (.list [])) "7" = .error (.unsupported (.datum (.list []))) := by
  have hbuild : build Time.almanac [(.text "CSV", fun text => .ok (.text text))] =
      .ok (ofFurther Time.almanac [(.text "CSV", fun text => .ok (.text text))] : Registry Unit) := rfl
  obtain ⟨hextends, -⟩ := (build_extends Time.almanac _).2.2.1 _ hbuild
  refine ⟨_, hbuild, (hextends.mem _ _ _ List.mem_cons_self rfl).2, ?_, ?_⟩
  · exact hextends.builtin _ .int8 _ rfl
  · exact hextends.unsupported_of_unhashable _ _ rfl

end Registry

end Lookup
