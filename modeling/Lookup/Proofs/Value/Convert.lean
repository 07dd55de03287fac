import Mathlib.Data.Option.Basic
import Lookup.Value.Convert

/-!
# Converting by a built-in type

Whatever further converters a registry has, by a built-in type it converts a text as the type reads it. A text
that the type refuses is refused with a complaint that names the text and the type. Types other than those with
a zone do nothing else, since they ask nobody, and so each of them is described by the texts that it takes.

## Main definitions

* `Registry.Refuses` — a text is refused as a value of a type
* `Registry.TakesExactly` — the texts that are taken as values of a type, and what as

## Main results

* `Registry.convert_tag_eq_ok_iff`, `Registry.refuses_iff` — a registry converts as the type reads
* `Registry.takesExactly_of_read` — what a type without zones takes is what it reads
-/

namespace Lookup.Registry

variable {ε α : Type} {tag : Tag} {text : String} {value : Value}

/-- A text is refused as a value of a built-in type. -/
def Refuses (registry : Registry ε) (tag : Tag) (text : String) : Prop :=
  ∃ reason, registry.convert (.tag tag) text = .error (.refused text (.tag tag) reason)

/-- The texts of a form are taken as values of a built-in type, each as what it is the text of, and all other
texts are refused. -/
structure TakesExactly (registry : Registry ε) (tag : Tag) (make : α → Value) (IsText : α → String → Prop) :
    Prop where
  convert_iff : ∀ text value,
    registry.convert (.tag tag) text = .ok value ↔ ∃ a, value = make a ∧ IsText a text
  refuses_iff : ∀ text, registry.Refuses tag text ↔ ¬ ∃ a, IsText a text

variable (registry : Registry ε)

theorem convert_tag_eq_ok_iff :
    registry.convert (.tag tag) text = .ok value ↔ tag.read registry.zones text = .ok value := by
  simp only [convert, TypeKey.normalize, find?, TypeKey.tag?_tag]
  rcases tag.read registry.zones text with (reason | errno) | value <;> simp [Except.mapError]

theorem refuses_iff :
    registry.Refuses tag text ↔ ∃ reason, tag.read registry.zones text = .error (.refused reason) := by
  simp only [Refuses, convert, TypeKey.normalize, find?]
  rcases hread : tag.read registry.zones text with (reason | errno) | value <;> simp [hread, Except.mapError]

/-- A type that asks no zone database takes what it reads. -/
theorem takesExactly_of_read {read : String → Except Reason α} {make : α → Value}
    {IsText : α → String → Prop}
    (hread : ∀ text, tag.read registry.zones text = ((read text).map make).mapError .refused)
    (hok : ∀ text a, read text = .ok a ↔ IsText a text) : registry.TakesExactly tag make IsText where
  convert_iff text value := by
    simp only [← hok]
    rw [convert_tag_eq_ok_iff, hread]
    cases read text <;> simp [Except.map, Except.mapError, eq_comm]
  refuses_iff text := by
    simp only [← hok]
    rw [refuses_iff, hread]
    cases read text <;> simp [Except.map, Except.mapError]

variable {registry}

/-- Of a type whose values are told apart the value of a text is the one that it is the text of. -/
theorem TakesExactly.convert_make_iff {make : α → Value} {IsText : α → String → Prop}
    (h : registry.TakesExactly tag make IsText) (hmake : ∀ a b, make a = make b → a = b)
    (text : String) (a : α) :
    registry.convert (.tag tag) text = .ok (make a) ↔ IsText a text := by
  rw [h.convert_iff]
  constructor
  · rintro ⟨b, heq, hb⟩
    rwa [hmake a b heq]
  · exact fun ha => ⟨a, rfl, ha⟩

end Lookup.Registry
