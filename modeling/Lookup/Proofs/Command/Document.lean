import Lookup.Proofs.Command.Escape
import Lookup.Proofs.Json.Written
import Lookup.Time.Almanac

/-!
# What documents tell

A run that is to print JSON prints one document, which tells the answer: its names and values, with arrays
in the order of the answer and the members of each object in the order of their names. A property that is
asked for as a floating-point number may be a number that is not finite, which no document tells.

## Main definitions

* `Value.told?`, `Answer.told?` — what is told of a value and of an answer

## Main results

* `Answer.data?_json` — the document of an answer stands for what is told of it
* `exists_answer_of_success` — a run that succeeds has an answer
* `Answer.told?_eq_none_iff` — the answers that no document tells
* `run_isDocument_iff_told` — what a run prints is a document of the answer, if there is one
-/

namespace Lookup

/-- What is told of a value. Values that JSON does not have are told by their texts, and a number that is not
finite is not told. -/
def Value.told? : Value → Option Json.Data
  | .nothing => some .null
  | .boolean value => some (.boolean value)
  | .integer value => some (.number (toString value))
  | .number value => Json.numberData? value
  | .text value => some (.text value)
  | value => some (.text value.plain)

namespace Command

open Json Text

variable {ε : Type}

/-- What is told of a resource. -/
def resourceTold (resource : Resource) : Data :=
  .object [("location", .text resource.location), ("name", .text resource.name)]

/-- What is told of an answer. -/
def Answer.told? : Answer → Option Data
  | .mounts package locations =>
    some (.object [("mounts", .array (locations.map .text)), ("namespace", .text package)])
  | .resources package found =>
    some (.object [("namespace", .text package), ("resources", .array (found.map resourceTold))])
  | .modules package names =>
    some (.object [("modules", .array (names.map .text)), ("namespace", .text package)])
  | .content name body => some (.object [("content", .text body), ("path", .text name)])
  | .property key value => value.told?.map fun data => .object [("key", .text key), ("value", data)]
  | .properties store =>
    some (.object [("properties", .object (store.toList.map fun e => (e.1, .text e.2)))])

/-! ### The document of an answer -/

section Pair

variable {a b : String} {first second : Json} {data other : Data}

theorem data?_pair (hfirst : first.data? = some data) (hsecond : second.data? = some other) :
    (Json.object [(a, first), (b, second)]).data? = some (.object [(a, data), (b, other)]) := by
  simp [data?, membersData?, hfirst, hsecond]

/-- Two members that are in order stand for what they do. -/
theorem data?_ofMembers (h : precedes a b = true) (hfirst : first.data? = some data)
    (hsecond : second.data? = some other) :
    (ofMembers [(a, first), (b, second)]).data? = some (.object [(a, data), (b, other)]) := by
  have hsorted : ofMembers [(a, first), (b, second)] = .object [(a, first), (b, second)] := by
    simp [ofMembers, List.mergeSort, List.MergeSort.Internal.splitInTwo, h]
  rw [hsorted, data?_pair hfirst hsecond]

/-- Two members that are out of order are put in order. -/
theorem data?_ofMembers_swap (h : precedes a b = false) (hfirst : first.data? = some data)
    (hsecond : second.data? = some other) :
    (ofMembers [(a, first), (b, second)]).data? = some (.object [(b, other), (a, data)]) := by
  have hsorted : ofMembers [(a, first), (b, second)] = .object [(b, second), (a, first)] := by
    simp [ofMembers, List.mergeSort, List.MergeSort.Internal.splitInTwo, h]
  rw [hsorted, data?_pair hsecond hfirst]

end Pair

theorem data?_text (text : String) : (Json.text text).data? = some (.text text) := rfl

theorem data?_ofTexts (texts : List String) :
    (ofTexts texts).data? = some (.array (texts.map .text)) := by
  rw [ofTexts, data?, itemsData?_map fun _ => rfl, Option.map_some]

theorem data?_resourceJson (resource : Resource) :
    (resourceJson resource).data? = some (resourceTold resource) :=
  data?_ofMembers_swap (by decide) (data?_text _) (data?_text _)

theorem data?_resources (found : List Resource) :
    (Json.array (found.map resourceJson)).data? = some (.array (found.map resourceTold)) := by
  rw [data?, itemsData?_map data?_resourceJson, Option.map_some]

theorem data?_valueJson (value : Value) : (valueJson value).data? = value.told? := by
  cases value <;> rfl

/-- A value that is not told is not told with its key. -/
theorem data?_property (key : String) (value : Value) :
    (ofMembers [("key", .text key), ("value", valueJson value)]).data? =
      value.told?.map fun data => .object [("key", .text key), ("value", data)] := by
  rw [← data?_valueJson]
  cases hvalue : (valueJson value).data? with
  | some data => exact data?_ofMembers (by decide) (data?_text _) hvalue
  | none =>
    have hsorted : ofMembers [("key", .text key), ("value", valueJson value)] =
        .object [("key", .text key), ("value", valueJson value)] := by
      simp [ofMembers, List.mergeSort, List.MergeSort.Internal.splitInTwo, List.merge]
      decide
    simp [hsorted, data?, membersData?, hvalue]

/-- The entries of a store are told in the order of their keys. -/
theorem data?_store (store : Store) :
    (ofMembers (store.entries.map fun e => (e.1, .text e.2))).data? =
      some (.object (store.toList.map fun e => (e.1, .text e.2))) := by
  rw [ofMembers, ← List.map_mergeSort (r := fun a b => precedes a.1 b.1) fun _ _ _ _ => rfl, data?,
    membersData?_map (fun e : String × String => data?_text e.2), Option.map_some]
  rfl

/-- The document of an answer stands for what is told of it. -/
theorem Answer.data?_json (answer : Answer) : answer.json.data? = answer.told? := by
  cases answer with
  | mounts package locations =>
    exact data?_ofMembers_swap (by decide) (data?_text _) (data?_ofTexts locations)
  | resources package found =>
    exact data?_ofMembers (by decide) (data?_text _) (data?_resources found)
  | modules package names =>
    exact data?_ofMembers_swap (by decide) (data?_text _) (data?_ofTexts names)
  | content name body => exact data?_ofMembers_swap (by decide) (data?_text _) (data?_text _)
  | property key value => exact data?_property key value
  | properties store =>
    have hsingle : ∀ member : String × Json, ofMembers [member] = .object [member] := by
      simp [ofMembers]
    simp [Answer.json, hsingle, data?, membersData?, data?_store, Answer.told?]

/-! ### Answers that no document tells -/

theorem numberData?_eq_none_iff {number : Number.Binary} :
    numberData? number = none ↔ number = .nan ∨ ∃ negative, number = .infinite negative := by
  cases number with
  | nan => simp [numberData?]
  | infinite negative => simp [numberData?]
  | finite negative significand exponent => simp [numberData?]

/-- Only a number that is not finite is not told. -/
theorem Answer.told?_eq_none_iff {answer : Answer} :
    answer.told? = none ↔ ∃ key number, answer = .property key (.number number) ∧
      (number = .nan ∨ ∃ negative, number = .infinite negative) := by
  cases answer with
  | property key value =>
    rw [Answer.told?, Option.map_eq_none_iff]
    cases value with
    | number number => simp [Value.told?, numberData?_eq_none_iff]
    | _ => simp [Value.told?]
  | _ => simp [Answer.told?]

/-- Only the tags of floating-point numbers read a text as a number with a point. -/
theorem tag_of_read_eq_number {zones : Time.ZoneDatabase} {tag : Tag} {text : String} {number : Number.Binary}
    (h : tag.read zones text = .ok (.number number)) : tag = .float32 ∨ tag = .float64 := by
  have hmap : ∀ {α β γ : Type} {result : Except α β} {wrap : β → Value} {tell : α → γ},
      (∀ b, wrap b ≠ .number number) → (result.map wrap).mapError tell ≠ .ok (.number number) := by
    intro α β γ result wrap tell hwrap
    cases result with
    | error error => simp [Except.map, Except.mapError]
    | ok b => simpa [Except.map, Except.mapError] using hwrap b
  have hzone : ∀ {α β : Type} {result : Except α β} {wrap : β → Value},
      (∀ b, wrap b ≠ .number number) → result.map wrap ≠ .ok (.number number) := by
    intro α β result wrap hwrap
    cases result with
    | error error => simp [Except.map]
    | ok b => simpa [Except.map] using hwrap b
  -- Most tags word their refusal, but those of zones may also fail for the zone database.
  cases tag with
  | float32 => exact .inl rfl
  | float64 => exact .inr rfl
  | string | boolean => cases h
  | zonedDatetime | zoneId => exact absurd h (hzone fun _ => Value.noConfusion)
  | _ => exact absurd h (hmap fun _ => Value.noConfusion)

/-- A property is a number with a point only as the type of such numbers. -/
theorem tag_of_propertyValue_eq_number {resolver : Resolver ε} {key other : String} {tag? : Option Tag}
    {default? : Option String} {number : Number.Binary}
    (h : propertyValue resolver key tag? default? = .ok (.property other (.number number))) :
    key = other ∧ ∃ tag, tag? = some tag ∧ (tag = .float32 ∨ tag = .float64) := by
  rw [propertyValue] at h
  rcases hget : resolver.get key default? with failure | _ | text
  · simp [hget] at h
  · simp [hget] at h
  cases tag? with
  | none => simp [hget] at h
  | some tag =>
    simp only [hget] at h
    cases hconvert : resolver.convert (.tag tag) text with
    | error failure => simp [hconvert] at h
    | ok value =>
      simp only [hconvert, Except.ok.injEq, Answer.property.injEq] at h
      obtain ⟨rfl, rfl⟩ := h
      simp only [Resolver.convert, Registry.convert, TypeKey.normalize, Registry.find?, TypeKey.tag?_tag] at hconvert
      have hread : tag.read resolver.registry.zones text = .ok (.number number) := by
        cases hread : tag.read resolver.registry.zones text with
        | error refusal => simp [hread, Except.mapError] at hconvert
        | ok value => simpa [hread, Except.mapError] using hconvert
      exact ⟨rfl, tag, rfl, tag_of_read_eq_number hread⟩

/-- A number with a point answers only the request for a property as such a number. -/
theorem exists_get_of_number {world : World} {request : Request} {key : String} {number : Number.Binary}
    (h : (request.answer world : Logged (Except (Stop ε) Answer)).2 =
      .ok (.property key (.number number))) :
    ∃ tag default? settings? pairs, request = .get key (some tag) default? settings? pairs ∧
      (tag = .float32 ∨ tag = .float64) := by
  cases request with
  | mounts package path =>
    simp only [Request.answer, answerMounts] at h
    split at h <;> cases h
  | scan package path ending? modules =>
    simp only [Request.answer, answerScan] at h
    split at h
    · cases h
    · cases modules <;> cases h
  | cat name path =>
    simp only [Request.answer, answerCat] at h
    split at h <;> cases h
  | list settings? pairs bare =>
    simp only [Request.answer, answerList] at h
    cases hresolver : (loadResolver (ε := ε) world (if bare then .empty else world.environment) settings?
        pairs).2 with
    | error stop => simp [hresolver, Except.map] at h
    | ok resolver => simp [hresolver, Except.map] at h
  | get asked tag? default? settings? pairs =>
    simp only [Request.answer, answerGet] at h
    cases hresolver : (loadResolver (ε := ε) world world.environment settings? pairs).2 with
    | error stop => simp [hresolver] at h
    | ok resolver =>
      rw [hresolver] at h
      obtain ⟨rfl, tag, rfl, htag⟩ := tag_of_propertyValue_eq_number h
      exact ⟨tag, default?, settings?, pairs, rfl, htag⟩

/-! ### Runs -/

section Runs

variable {kit : Toolkit} {world : World} {line : List String} {json verbose : Bool} {request : Request}
  {outcome : Outcome}

theorem status_outcome_ne_zero (kit : Toolkit) (verbose : Bool) (trouble : Trouble) :
    (trouble.outcome kit verbose).status ≠ 0 := by
  cases trouble <;> simp [Trouble.outcome, Trouble.status]

/-- A run that succeeds has an answer. -/
theorem exists_answer_of_success
    (hrun : (Invocation.run kit world ⟨json, verbose, request⟩ :
      Logged (Except (Failure ε) Outcome)).2 = .ok outcome) (hstatus : outcome.status = 0) :
    ∃ answer, (request.answer world : Logged (Except (Stop ε) Answer)).2 = .ok answer := by
  rw [Invocation.run] at hrun
  rcases hanswer : (request.answer world : Logged (Except (Stop ε) Answer)).2 with
    (trouble | failure) | answer
  · simp only [hanswer] at hrun
    exact absurd hstatus (Except.ok.inj hrun ▸ status_outcome_ne_zero kit verbose trouble)
  · simp only [hanswer] at hrun
    cases hrun
  · exact ⟨answer, rfl⟩

/-- An answer is printed as its document with a line break behind it. -/
theorem run_of_answer (hkit : kit.IsFaithful) {answer : Answer}
    (hread : kit.parse world line = .ok ⟨true, verbose, request⟩)
    (hanswer : (request.answer world : Logged (Except (Stop ε) Answer)).2 = .ok answer) :
    (run kit world line : Logged (Except (Failure ε) Outcome)).2 =
      .ok ⟨0, answer.json.render ++ "\n", ""⟩ := by
  rw [run_of_read hread, Invocation.run]
  simp only [hanswer]
  exact hkit.print_json answer.json

/-- What a run prints as JSON is a document of the answer, and is decoded as what is told of it, unless the
answer is a number that is not finite. -/
theorem run_isDocument_iff_told (hkit : kit.IsFaithful)
    (hread : kit.parse world line = .ok ⟨true, verbose, request⟩)
    (hrun : (run kit world line : Logged (Except (Failure ε) Outcome)).2 = .ok outcome)
    (hstatus : outcome.status = 0) :
    ∃ answer : Answer, (request.answer world : Logged (Except (Stop ε) Answer)).2 = .ok answer ∧
      (∀ data, IsDocument outcome.output data ↔ answer.told? = some data) ∧
      decode? outcome.output = answer.told? ∧
      (answer.told? = none ↔ ∃ key tag default? settings? pairs number,
        request = .get key (some tag) default? settings? pairs ∧ (tag = .float32 ∨ tag = .float64) ∧
        answer = .property key (.number number) ∧
        (number = .nan ∨ ∃ negative, number = .infinite negative)) := by
  obtain ⟨answer, hanswer⟩ := exists_answer_of_success (run_of_read hread ▸ hrun) hstatus
  obtain rfl := Except.ok.inj ((run_of_answer hkit hread hanswer).symm.trans hrun)
  have hwhite : IsWhite "\n".toList := isWhite_newLine 0
  refine ⟨answer, hanswer, fun data => ?_, ?_, ?_⟩
  · rw [isDocument_render_iff hwhite, answer.data?_json]
  · rw [decode?_render _ hwhite, answer.data?_json]
  · rw [Answer.told?_eq_none_iff]
    constructor
    · rintro ⟨key, number, rfl, hnumber⟩
      obtain ⟨tag, default?, settings?, pairs, hrequest, htag⟩ := exists_get_of_number hanswer
      exact ⟨key, tag, default?, settings?, pairs, number, hrequest, htag, rfl, hnumber⟩
    · rintro ⟨key, tag, default?, settings?, pairs, number, -, -, hproperty, hnumber⟩
      exact ⟨key, number, hproperty, hnumber⟩

end Runs

/-- A world without files. -/
def bareWorld : World :=
  ⟨⟨.directory [], [], 0⟩, .ofList [("HOME", "/h")], [], "", [], Time.almanac, Yaml.read fun _ => ""⟩

/-- The text of what is no number is told, but not the number that it is read as. -/
theorem run_isDocument_iff_told_bareWorld :
    (∃ outcome : Outcome,
      (run .builtin bareWorld ["--json-output", "props", "get", "x", "--set", "x=NaN"] :
        Logged (Except (Failure Empty) Outcome)).2 = .ok outcome ∧
      decode? outcome.output = some (.object [("key", .text "x"), ("value", .text "NaN")])) ∧
    ∃ outcome : Outcome,
      (run .builtin bareWorld ["--json-output", "props", "get", "x", "--type", "float64", "--set", "x=NaN"] :
        Logged (Except (Failure Empty) Outcome)).2 = .ok outcome ∧
      outcome.status = 0 ∧ ∀ data, ¬ IsDocument outcome.output data := by
  have hplain : Toolkit.builtin.parse bareWorld
      ["--json-output", "props", "get", "x", "--set", "x=NaN"] =
      .ok ⟨true, false, .get "x" none none none ["x=NaN"]⟩ :=
    parse_builtin_eq_ok_iff.2 (by decide +kernel)
  have htyped : Toolkit.builtin.parse bareWorld
      ["--json-output", "props", "get", "x", "--type", "float64", "--set", "x=NaN"] =
      .ok ⟨true, false, .get "x" (some .float64) none none ["x=NaN"]⟩ :=
    parse_builtin_eq_ok_iff.2 (by decide +kernel)
  have hkit := Toolkit.builtin_isFaithful
  have htext : ((Request.get "x" none none none ["x=NaN"]).answer bareWorld :
      Logged (Except (Stop Empty) Answer)).2 = .ok (.property "x" (.text "NaN")) := rfl
  have hnumber : ((Request.get "x" (some .float64) none none ["x=NaN"]).answer bareWorld :
      Logged (Except (Stop Empty) Answer)).2 = .ok (.property "x" (.number .nan)) := rfl
  constructor
  · obtain ⟨answer, hanswer, -, hdecode, -⟩ := run_isDocument_iff_told hkit hplain (run_of_answer hkit hplain htext) rfl
    obtain rfl := Except.ok.inj (htext.symm.trans hanswer)
    exact ⟨_, run_of_answer hkit hplain htext, hdecode⟩
  · obtain ⟨answer, hanswer, hdocument, -⟩ :=
      run_isDocument_iff_told hkit htyped (run_of_answer hkit htyped hnumber) rfl
    obtain rfl := Except.ok.inj (hnumber.symm.trans hanswer)
    refine ⟨_, run_of_answer hkit htyped hnumber, rfl, fun data h => ?_⟩
    cases (hdocument data).1 h

end Command

end Lookup
