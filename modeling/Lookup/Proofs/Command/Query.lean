import Lookup.Proofs.Command.Document
import Lookup.Proofs.Command.Layering
import Lookup.Proofs.Placeholder
import Lookup.Proofs.Property.Guards

/-!
# How the request for a property ends

The request for a property ends in one of three ways, which the exit status tells apart: the property is
printed, it is absent, or an error of the library is reported, of the settings or of the property. Only what
the zone database reports about files, faults of loading the settings, and a text with characters that the
output lacks are let through.

## Main definitions

* `Resolver.IsAbsent`, `Resolver.IsRefused`, `Resolver.HasValue` — what a request comes to

## Main results

* `Resolver.get_eq_none_iff` — when a property is absent
* `Resolver.isReported_of_get`, `Resolver.convert_error` — the failures of resolving and converting
* `propertyValue_cases` — the three ways in which a request ends
* `run_get_status` — what the exit status tells of a run
* `not_forall_run_get_prints` — what is printed is not always the text of the value
-/

namespace Lookup

open Text

variable {ε : Type}

namespace Resolver

variable {resolver : Resolver ε} {key : String} {tag? : Option Tag} {default? : Option String}

/-- A property is absent: its key is no placeholder and not in the store, and there is no default. -/
def IsAbsent (resolver : Resolver ε) (key : String) (default? : Option String) : Prop :=
  Placeholder.isShaped key = false ∧ resolver.store.get? key = none ∧ default? = none

/-- Resolving a property or converting its text ends in an error of the library. -/
def IsRefused (resolver : Resolver ε) (key : String) (tag? : Option Tag) (default? : Option String) :
    Prop :=
  (∃ error, resolver.get key default? = .error (.error error)) ∨
    ∃ text tag error, resolver.get key default? = .ok (some text) ∧ tag? = some tag ∧
      resolver.convert (.tag tag) text = .error (.error error)

/-- A property has a value: the text that it is resolved to, or what that is converted to. -/
def HasValue (resolver : Resolver ε) (key : String) (tag? : Option Tag) (default? : Option String)
    (value : Value) : Prop :=
  ∃ text, resolver.get key default? = .ok (some text) ∧
    match tag? with
    | none => value = .text text
    | some tag => resolver.convert (.tag tag) text = .ok value

/-- A property is found absent exactly if it is. -/
theorem get_eq_none_iff : resolver.get key default? = .ok none ↔ resolver.IsAbsent key default? := by
  rw [IsAbsent, Placeholder.isShaped_eq_false_iff, ← and_assoc, ← Store.resolve_eq_none_iff]
  cases default? with
  | none => cases hresolve : resolver.store.resolve key <;> simp [get, hresolve, Except.mapError]
  | some default =>
    cases hresolve : resolver.store.resolveOr key default <;>
      simp [get, hresolve, Except.map, Except.mapError]

/-- Resolving a property fails only with an error of the library. -/
theorem isReported_of_get {failure : Failure ε} (h : resolver.get key default? = .error failure) :
    failure.IsReported := by
  have hmap : ∀ {α : Type} {result : Except ResolveError α},
      result.mapError ResolveError.failure = .error failure → failure.IsReported := by
    intro α result hresult
    cases result with
    | error error => exact ⟨_, (Except.error.inj hresult).symm⟩
    | ok value => cases hresult
  cases default? with
  | none => exact hmap h
  | some default => exact hmap h

/-- Converting a text by a tag fails with an error of the library or with what the zone database reports. -/
theorem convert_error {tag : Tag} {text : String} {failure : Failure ε}
    (h : resolver.convert (.tag tag) text = .error failure) :
    failure.IsReported ∨ ∃ errno, tag.read resolver.registry.zones text = .error (.storage errno) := by
  simp only [convert, Registry.convert, TypeKey.normalize, Registry.find?, TypeKey.tag?_tag] at h
  rcases hread : tag.read resolver.registry.zones text with (reason | errno) | value
  · simp only [hread, Except.mapError, Except.error.injEq] at h
    exact .inl ⟨_, h.symm⟩
  · exact .inr ⟨errno, rfl⟩
  · simp [hread, Except.mapError] at h

end Resolver

namespace Command

variable {resolver : Resolver ε} {key : String} {tag? : Option Tag} {default? : Option String}

/-- The request for a property ends in one of three ways, unless the zone database reports an error of the
system. -/
theorem propertyValue_cases
    (hstorage : ∀ text tag errno, resolver.get key default? = .ok (some text) → tag? = some tag →
      tag.read resolver.registry.zones text ≠ .error (.storage errno)) :
    (resolver.IsAbsent key default? ∧ ¬ resolver.IsRefused key tag? default? ∧
      propertyValue resolver key tag? default? = .error (.trouble (.undefined key))) ∨
    (¬ resolver.IsAbsent key default? ∧ resolver.IsRefused key tag? default? ∧
      ∃ error, propertyValue resolver key tag? default? =
        .error (.trouble (.failed "resolve property" ⟨none, some key⟩ error))) ∨
    (¬ resolver.IsAbsent key default? ∧ ¬ resolver.IsRefused key tag? default? ∧
      ∃ value, resolver.HasValue key tag? default? value ∧
        propertyValue resolver key tag? default? = .ok (.property key value)) := by
  rw [← Resolver.get_eq_none_iff]
  rcases hget : resolver.get key default? with failure | _ | text
  · obtain ⟨error, rfl⟩ := Resolver.isReported_of_get hget
    refine .inr (.inl ⟨by simp, .inl ⟨error, hget⟩, error, ?_⟩)
    simp only [propertyValue, hget, Stop.during]
  · refine .inl ⟨rfl, ?_, by simp only [propertyValue, hget]⟩
    simp [Resolver.IsRefused, hget]
  · cases tag? with
    | none =>
      refine .inr (.inr ⟨by simp, by simp [Resolver.IsRefused, hget], .text text, ⟨text, hget, rfl⟩, ?_⟩)
      simp only [propertyValue, hget]
    | some tag =>
      cases hconvert : resolver.convert (.tag tag) text with
      | error failure =>
        rcases Resolver.convert_error hconvert with ⟨error, rfl⟩ | ⟨errno, hread⟩
        · refine .inr (.inl ⟨by simp, .inr ⟨text, tag, error, hget, rfl, hconvert⟩, error, ?_⟩)
          simp only [propertyValue, hget, hconvert, Stop.during]
        · exact absurd hread (hstorage text tag errno hget rfl)
      | ok value =>
        refine .inr (.inr ⟨by simp, by simp [Resolver.IsRefused, hget, hconvert], value,
          ⟨text, hget, hconvert⟩, ?_⟩)
        simp only [propertyValue, hget, hconvert]

/-! ### Runs -/

section Runs

variable {kit : Toolkit} {world : World} {line pairs : List String} {json verbose : Bool}
  {settings? : Option String}

/-- The run of a request for a property, given what it is answered with. -/
theorem run_of_answerGet {result : Except (Stop ε) Answer}
    (hread : kit.parse world line = .ok ⟨json, verbose, .get key tag? default? settings? pairs⟩)
    (hresult : (answerGet world key tag? default? settings? pairs).2 = result) :
    (run kit world line : Logged (Except (Failure ε) Outcome)).2 =
      match result with
      | .ok answer => (answer.outcome kit json).2
      | .error (.trouble trouble) => .ok (trouble.outcome kit verbose)
      | .error (.escape failure) => .error failure := by
  rw [run_of_read hread, Invocation.run]
  simp only [Request.answer, hresult]
  rcases result with (trouble | failure) | answer <;> rfl

/-- A value is printed in one line, as a document or as its text is written. -/
theorem exists_outcome_property (hkit : kit.IsFaithful) (key : String) {value : Value}
    (hwrites : json = false → kit.write (value.plain ++ "\n") ≠ none) :
    ∃ output, ((Answer.property key value).outcome kit json : Logged (Except (Failure ε) Outcome)).2 =
        .ok ⟨0, output, ""⟩ ∧ (json = false → kit.write (value.plain ++ "\n") = some output) := by
  cases json with
  | true => exact ⟨_, hkit.print_json _, by simp⟩
  | false =>
    obtain ⟨output, houtput⟩ := Option.ne_none_iff_exists'.1 (hwrites rfl)
    exact ⟨output, print_eq_ok_iff.2 ⟨output, houtput, rfl⟩, fun _ => houtput⟩

/-- The exit status of a run that asks for a property is 1 exactly if the settings load and the property is
absent, and 2 exactly if the settings are refused, or resolving or converting is; else it is 0 and the text of
the value is printed, as it is if there is no escape character in it. Nothing is printed with any other
status. -/
theorem run_get_status (hkit : kit.IsFaithful)
    (hread : kit.parse world line = .ok ⟨json, verbose, .get key tag? default? settings? pairs⟩)
    (hloads : ∀ fault, loadSettings world (settings?.map Files.Path.ofText) ≠
      (.error (.fault fault) : Except (Failure ε) Store))
    (hstorage : ∀ (resolver : Resolver ε) text tag errno,
      (loadResolver world world.environment settings? pairs).2 = .ok resolver →
      resolver.get key default? = .ok (some text) → tag? = some tag →
      tag.read world.zones text ≠ .error (.storage errno))
    (hwrites : ∀ (resolver : Resolver ε) value,
      (loadResolver world world.environment settings? pairs).2 = .ok resolver →
      resolver.HasValue key tag? default? value → json = false → kit.write (value.plain ++ "\n") ≠ none) :
    ∃ outcome, (run kit world line : Logged (Except (Failure ε) Outcome)).2 = .ok outcome ∧
      (outcome.status = 1 ↔ ∃ resolver : Resolver ε,
        (loadResolver world world.environment settings? pairs).2 = .ok resolver ∧
        resolver.IsAbsent key default?) ∧
      (outcome.status = 2 ↔
        (∃ error : ConfigError, explicitSettings world settings? pairs =
          (.error error.failure : Except (Failure ε) Store)) ∨
        ∃ resolver : Resolver ε,
          (loadResolver world world.environment settings? pairs).2 = .ok resolver ∧
          resolver.IsRefused key tag? default?) ∧
      (outcome.status ≠ 1 → outcome.status ≠ 2 → outcome.status = 0 ∧ outcome.errors = "" ∧
        ∃ (resolver : Resolver ε) (value : Value),
          (loadResolver world world.environment settings? pairs).2 = .ok resolver ∧
          resolver.HasValue key tag? default? value ∧
          (json = false → kit.write (value.plain ++ "\n") = some outcome.output ∧
            (escapeChar ∉ value.plain.toList → outcome.output = value.plain ++ "\n"))) ∧
      (outcome.status ≠ 0 → outcome.output = "") := by
  -- The settings decide first: the property is asked for only where they are loaded.
  rcases explicitSettings_cases (ε := ε) world settings? pairs with
    ⟨fault, hloaded, -⟩ | ⟨error, -, hexplicit⟩ | ⟨settings, explicit, -, -, -, hexplicit⟩
  · exact absurd hloaded (hloads fault)
  · have hresolver : (loadResolver world world.environment settings? pairs).2 =
        (.error (.during .settings error.failure) : Except (Stop ε) _) := loadResolver_of_error hexplicit
    have hanswer : (answerGet world key tag? default? settings? pairs).2 =
        (.error (.trouble (.settings (.config error))) : Except (Stop ε) Answer) := by
      simp only [answerGet, hresolver]
      rfl
    refine ⟨_, run_of_answerGet hread hanswer, ?_, ?_, fun _ h => absurd rfl h, fun _ => rfl⟩
    · simp [hresolver, Trouble.outcome, Trouble.status]
    · simp [hexplicit, Trouble.outcome, Trouble.status]
  · obtain ⟨resolver, hzones, hresolver⟩ : ∃ resolver : Resolver ε, resolver.registry.zones = world.zones ∧
        (loadResolver world world.environment settings? pairs).2 = .ok resolver :=
      ⟨_, rfl, loadResolver_of_ok hexplicit⟩
    have hanswer : (answerGet world key tag? default? settings? pairs).2 =
        propertyValue resolver key tag? default? := by
      simp only [answerGet, hresolver]
    have hsettings : ¬ ∃ error : ConfigError, explicitSettings world settings? pairs =
        (.error error.failure : Except (Failure ε) Store) := by
      simp [hexplicit]
    -- There is only one resolver of which something can hold.
    have honly : ∀ {P : Resolver ε → Prop}, (∃ other, (loadResolver world world.environment settings?
        pairs).2 = .ok other ∧ P other) ↔ P resolver := by
      simp [hresolver]
    rcases propertyValue_cases fun text tag errno hget htag =>
        hzones ▸ hstorage resolver text tag errno hresolver hget htag with
      ⟨habsent, hnot, hvalue⟩ | ⟨hnot, hrefused, error, hvalue⟩ | ⟨hpresent, hnot, value, hhas, hvalue⟩
    · refine ⟨_, run_of_answerGet hread (hanswer.trans hvalue), ?_, ?_, fun h => absurd rfl h, fun _ => rfl⟩
      · simp [honly, habsent, Trouble.outcome, Trouble.status]
      · simp [honly, hnot, hsettings, Trouble.outcome, Trouble.status]
    · refine ⟨_, run_of_answerGet hread (hanswer.trans hvalue), ?_, ?_, fun _ h => absurd rfl h,
        fun _ => rfl⟩
      · simp [honly, hnot, Trouble.outcome, Trouble.status]
      · simp [honly, hrefused, Trouble.outcome, Trouble.status]
    · obtain ⟨output, houtcome, hprints⟩ := exists_outcome_property (ε := ε) hkit key
        (hwrites resolver value hresolver hhas)
      refine ⟨⟨0, output, ""⟩, ?_, ?_, ?_,
        fun _ _ => ⟨rfl, rfl, resolver, value, hresolver, hhas, fun hjson => ⟨hprints hjson, ?_⟩⟩,
        fun h => absurd rfl h⟩
      · rw [run_of_answerGet hread (hanswer.trans hvalue)]
        exact houtcome
      · simp [honly, hpresent]
      · simp [honly, hnot, hsettings]
      · intro hescape
        refine hkit.write_eq (hprints hjson) ?_
        simpa [escapeChar] using hescape

end Runs

/-- A world without files whose store has one property from the command line, and its resolver. -/
theorem loadResolver_bareWorld :
    (loadResolver bareWorld bareWorld.environment none ["x=300"]).2 =
      (.ok ⟨bareWorld.environment.merge (Store.empty.insert "x" "300"), .builtin bareWorld.zones⟩ :
        Except (Stop Empty) (Resolver Empty)) :=
  loadResolver_of_ok rfl

/-- A number that does not fit into its type is refused, with nothing printed. -/
theorem run_get_status_bareWorld :
    ∃ outcome : Outcome,
      (run .builtin bareWorld ["props", "get", "x", "--type", "int8", "--set", "x=300"] :
        Logged (Except (Failure Empty) Outcome)).2 = .ok outcome ∧ outcome.status = 2 ∧
      outcome.output = "" := by
  have hread : Toolkit.builtin.parse bareWorld
      ["props", "get", "x", "--type", "int8", "--set", "x=300"] =
      .ok ⟨false, false, .get "x" (some .int8) none none ["x=300"]⟩ :=
    parse_builtin_eq_ok_iff.2 (by decide +kernel)
  have hloads : ∀ fault, loadSettings bareWorld none ≠
      (.error (.fault fault) : Except (Failure Empty) Store) := by
    have hloaded : loadSettings bareWorld none = (.ok .empty : Except (Failure Empty) Store) := rfl
    simp [hloaded]
  have hstorage : ∀ text errno, Tag.int8.read bareWorld.zones text ≠ .error (.storage errno) := by
    intro text errno
    simp only [Tag.read]
    cases readInteger 8 text <;> simp [Except.map, Except.mapError]
  obtain ⟨outcome, hrun, -, htwo, -, hempty⟩ := run_get_status Toolkit.builtin_isFaithful hread hloads
    (by
      rintro resolver text tag errno - - htag
      obtain rfl := Option.some.inj htag
      exact hstorage text errno)
    (by
      -- The text has no value of the type, so that there is nothing to be written.
      rintro resolver value hresolver ⟨text, hget, hconvert⟩ -
      obtain rfl := Except.ok.inj (loadResolver_bareWorld.symm.trans hresolver)
      cases hget
      cases hconvert)
  have hstatus : outcome.status = 2 := htwo.2 (.inr ⟨_, loadResolver_bareWorld, .inr
    ⟨"300", .int8, _, rfl, rfl, rfl⟩⟩)
  exact ⟨outcome, hrun, hstatus, hempty (by rw [hstatus]; decide)⟩

/-- The run that asks for a property which is set on the command line, and is given without a type. -/
theorem run_get_bareWorld {pair text : String}
    (hread : Toolkit.builtin.parse bareWorld ["props", "get", "x", "--set", pair] =
      .ok ⟨false, false, .get "x" none none none [pair]⟩)
    (hanswer : (answerGet bareWorld "x" none none none [pair]).2 =
      (.ok (.property "x" (.text text)) : Except (Stop Empty) Answer)) :
    (run .builtin bareWorld ["props", "get", "x", "--set", pair] :
      Logged (Except (Failure Empty) Outcome)).2 = Toolkit.builtin.print (text ++ "\n") :=
  run_of_answerGet hread hanswer

/-- What is printed is not always the text of the value: a sequence for colours is left out. And a text with half a
character is not printed at all. -/
theorem not_forall_run_get_prints :
    (¬ ∀ (world : World) (line pairs : List String) (verbose : Bool) (key : String) (tag? : Option Tag)
        (default? settings? : Option String) (outcome : Outcome) (resolver : Resolver Empty)
        (value : Value),
      Toolkit.builtin.parse world line =
        .ok ⟨false, verbose, .get key tag? default? settings? pairs⟩ →
      (run .builtin world line : Logged (Except (Failure Empty) Outcome)).2 = .ok outcome →
      outcome.status = 0 →
      (loadResolver world world.environment settings? pairs).2 = .ok resolver →
      resolver.HasValue key tag? default? value → outcome.output = value.plain ++ "\n") ∧
    (run .builtin bareWorld ["props", "get", "x", "--set", "x=" ++ String.singleton (half 0xDC80)] :
      Logged (Except (Failure Empty) Outcome)).2 = .error (.fault .unencodable) := by
  constructor
  · intro h
    have hread : Toolkit.builtin.parse bareWorld ["props", "get", "x", "--set", "x=\x1b[31mred"] =
        .ok ⟨false, false, .get "x" none none none ["x=\x1b[31mred"]⟩ :=
      parse_builtin_eq_ok_iff.2 (by decide +kernel)
    have hprint : (Toolkit.builtin.print ("\x1b[31mred" ++ "\n") : Except (Failure Empty) Outcome) =
        .ok ⟨0, "red\n", ""⟩ := print_eq_ok_iff.2 ⟨"red\n", by decide +kernel, rfl⟩
    have hresolver : (loadResolver bareWorld bareWorld.environment none ["x=\x1b[31mred"]).2 =
        (.ok ⟨bareWorld.environment.merge (Store.empty.insert "x" "\x1b[31mred"),
          .builtin bareWorld.zones⟩ : Except (Stop Empty) (Resolver Empty)) :=
      loadResolver_of_ok rfl
    have houtput := h bareWorld _ _ false "x" none none none _ _ (.text "\x1b[31mred") hread
      ((run_get_bareWorld hread rfl).trans hprint) rfl hresolver ⟨"\x1b[31mred", rfl, rfl⟩
    exact absurd houtput (by decide +kernel)
  · have hread : Toolkit.builtin.parse bareWorld
        ["props", "get", "x", "--set", "x=" ++ String.singleton (half 0xDC80)] =
        .ok ⟨false, false, .get "x" none none none ["x=" ++ String.singleton (half 0xDC80)]⟩ :=
      parse_builtin_eq_ok_iff.2 (by decide +kernel)
    have hprint : (Toolkit.builtin.print (String.singleton (half 0xDC80) ++ "\n") :
        Except (Failure Empty) Outcome) = .error (.fault .unencodable) :=
      print_eq_error_iff.2 ⟨by decide +kernel, rfl⟩
    exact (run_get_bareWorld hread rfl).trans hprint

end Command

end Lookup
