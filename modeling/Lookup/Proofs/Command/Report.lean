import Lookup.Command.Run
import Lookup.Proofs.Json.Written

/-!
# What runs print

The program prints and reports by means of its toolkit, of which little has to be known: texts in ASCII can be
written, control sequences aside a text is written as it is, and a report is not lost. So a report is never
empty, and a document is always printed as it is. Tables may fail to be printed, and texts may hold
characters that the output lacks.

## Main definitions

* `Toolkit.IsFaithful` — what is known of a toolkit
* `Request.IsForResources` — the requests of the commands for resources
* `Outcome.IsDisciplined` — how a run is to end
* `Answer.Unprinted` — the answers that are not printed

## Main results

* `Toolkit.IsFaithful.print_json` — documents are printed as they are
* `Toolkit.IsFaithful.isDisciplined_failed` — a failed operation is reported
* `Toolkit.IsFaithful.outcome_eq_error_iff` — what escapes when an answer is printed
-/

namespace Lookup.Command

open Text

variable {ε : Type} {kit : Toolkit} {outcome : Outcome} {failure : Failure ε}

/-! ### Toolkits -/

/-- What is known of a toolkit, and holds of terminals and files alike. -/
structure Toolkit.IsFaithful (kit : Toolkit) : Prop where
  /-- Any output has the characters of ASCII. -/
  write_ne_none : ∀ {text}, (∀ c ∈ text.toList, c.toNat < 128) → kit.write text ≠ none
  /-- Only control sequences are left out of what is written. -/
  write_eq : ∀ {text output}, kit.write text = some output → escapeChar ∉ text.toList → output = text
  /-- A line break is no part of a control sequence. -/
  report_ne_empty : ∀ text, kit.report (text ++ "\n") ≠ ""
  /-- What is wrong with a command line is reported. -/
  usage_ne_empty : ∀ {world line report}, kit.parse world line = .error (.usage report) → report ≠ ""

theorem print_eq_ok_iff {text : String} :
    (kit.print text : Except (Failure ε) Outcome) = .ok outcome ↔
      ∃ output, kit.write text = some output ∧ outcome = ⟨0, output, ""⟩ := by
  rw [Toolkit.print]
  cases kit.write text <;> simp [eq_comm]

theorem print_eq_error_iff {text : String} :
    kit.print text = .error failure ↔ kit.write text = none ∧ failure = .fault .unencodable := by
  rw [Toolkit.print]
  cases kit.write text <;> simp [eq_comm]

/-- A document is printed as it is. -/
theorem Toolkit.IsFaithful.print_json (hkit : kit.IsFaithful) (json : Json) :
    (kit.print (json.render ++ "\n") : Except (Failure ε) Outcome) = .ok ⟨0, json.render ++ "\n", ""⟩ := by
  have hplain : ∀ c ∈ (json.render ++ "\n").toList, Json.isPlain c = true :=
    Json.isPlain_of_mem_render (by decide)
  have hascii : ∀ c ∈ (json.render ++ "\n").toList, c.toNat < 128 := by
    intro c hc
    have h := hplain c hc
    simp only [Json.isPlain, within, Bool.or_eq_true, Bool.and_eq_true, decide_eq_true_eq] at h
    rcases h with rfl | h
    · decide
    · omega
  have hescape : escapeChar ∉ (json.render ++ "\n").toList := fun hmem =>
    absurd (hplain escapeChar hmem) (by decide)
  obtain ⟨output, houtput⟩ := Option.ne_none_iff_exists'.1 (hkit.write_ne_none hascii)
  rw [print_eq_ok_iff]
  exact ⟨output, houtput, by rw [hkit.write_eq houtput hescape]⟩

/-! ### Reports -/

/-- A request of one of the commands for resources. -/
def Request.IsForResources : Request → Prop
  | .mounts _ _ | .scan _ _ _ _ | .cat _ _ => True
  | .get _ _ _ _ _ | .list _ _ _ => False

/-- How a run is to end: with success, or with the status for failures, a report and no output. -/
def Outcome.IsDisciplined (outcome : Outcome) : Prop :=
  outcome.status = 0 ∨ outcome.status = 2 ∧ outcome.output = "" ∧ outcome.errors ≠ ""

/-- A failed operation is reported. -/
theorem Toolkit.IsFaithful.isDisciplined_failed (hkit : kit.IsFaithful) (verbose : Bool)
    (operation : String) (context : Context) (error : Error) :
    ((Trouble.failed operation context error).outcome kit verbose).IsDisciplined := by
  refine .inr ⟨rfl, rfl, fun hempty => ?_⟩
  rw [Trouble.outcome, Trouble.lines, List.map_cons, String.join_cons, String.append_eq_empty_iff] at hempty
  exact hkit.report_ne_empty _ hempty.1

/-- A command line that asks for nothing leads to help or a report, unless reading it fails. -/
theorem Toolkit.IsFaithful.isDisciplined_ending {world : World} {line : List String} {ending : Ending}
    (hkit : kit.IsFaithful) (hread : kit.parse world line = .error ending)
    (houtcome : (ending.outcome : Except (Failure ε) Outcome) = .ok outcome) : outcome.IsDisciplined := by
  cases ending with
  | help text =>
    obtain rfl := Except.ok.inj houtcome
    exact .inl rfl
  | usage report =>
    obtain rfl := Except.ok.inj houtcome
    exact .inr ⟨rfl, rfl, hkit.usage_ne_empty hread⟩
  | fault fault => cases houtcome

/-! ### Answers -/

/-- An answer that is to be printed for readers is not, and what escapes instead. -/
inductive Answer.Unprinted (kit : Toolkit) (answer : Answer) : Failure ε → Prop
  /-- The printer of tables fails. -/
  | table {table : Table} {fault : Fault} (htable : answer.sheet = .table table)
      (hfails : kit.tabulate table = .error fault) : Unprinted kit answer (.fault fault)
  /-- The output lacks a character of the text. -/
  | unencodable {text : String} (htext : kit.text answer.sheet = .ok text) (hlacks : kit.write text = none) :
      Unprinted kit answer (.fault .unencodable)

/-- The sheet of an answer has no text only where the printer of tables fails. -/
theorem text_eq_error_iff {sheet : Sheet} {fault : Fault} :
    kit.text sheet = .error fault ↔ ∃ table, sheet = .table table ∧ kit.tabulate table = .error fault := by
  cases sheet with
  | text text => simp [Toolkit.text]
  | table table => cases htable : kit.tabulate table <;> simp [Toolkit.text, htable, Except.map]

/-- A document is always printed. What escapes otherwise is a fault of the printer of tables, or that of a text
whose characters the output lacks. -/
theorem Toolkit.IsFaithful.outcome_eq_error_iff (hkit : kit.IsFaithful) {json : Bool} {answer : Answer} :
    (answer.outcome kit json : Logged (Except (Failure ε) Outcome)).2 = .error failure ↔
      json = false ∧ answer.Unprinted kit failure := by
  cases json with
  | true => simp [Answer.outcome, hkit.print_json]
  | false =>
    simp only [Answer.outcome, Bool.false_eq_true, if_false, true_and]
    constructor
    · intro h
      cases htext : kit.text answer.sheet with
      | error fault =>
        obtain ⟨table, htable, hfails⟩ := text_eq_error_iff.1 htext
        rw [htext] at h
        obtain rfl := Except.error.inj h
        exact .table htable hfails
      | ok text =>
        rw [htext] at h
        obtain ⟨hlacks, rfl⟩ := print_eq_error_iff.1 h
        exact .unencodable htext hlacks
    · intro h
      cases h with
      | table htable hfails => rw [text_eq_error_iff.2 ⟨_, htable, hfails⟩]
      | unencodable htext hlacks =>
        rw [htext]
        exact print_eq_error_iff.2 ⟨hlacks, rfl⟩

/-- An answer that is printed leads to success. -/
theorem status_of_outcome {json : Bool} {answer : Answer}
    (h : (answer.outcome kit json : Logged (Except (Failure ε) Outcome)).2 = .ok outcome) :
    outcome.status = 0 := by
  have hprint : ∀ text, (kit.print text : Except (Failure ε) Outcome) = .ok outcome → outcome.status = 0 := by
    intro text htext
    obtain ⟨output, -, rfl⟩ := print_eq_ok_iff.1 htext
    rfl
  rw [Answer.outcome] at h
  split at h
  · exact hprint _ h
  · cases htext : kit.text answer.sheet with
    | error fault => simp [htext] at h
    | ok text => exact hprint text (by simpa [htext] using h)

end Lookup.Command
