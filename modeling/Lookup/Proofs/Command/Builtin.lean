import Lookup.Command.Builtin
import Lookup.Proofs.Command.Report
import Lookup.Proofs.Except
import Lookup.Proofs.Table.ReadBack
import Lookup.Proofs.Text.Terminal

/-!
# The built-in toolkit does as is known of toolkits

What is known of a toolkit holds of the library's own. Control sequences begin with the escape character, take
up no line break, and are all that is left out of a text.

## Main results

* `newline_mem_dropColours` — line breaks are not left out
* `Toolkit.builtin_isFaithful` — what is known of a toolkit holds of the built-in one
* `Toolkit.builtin_tabulates` — what is known of a printer of tables holds of the built-in one
* `isForResources_of_enter` — the commands for resources
-/

namespace Lookup.Command

open Files Text

variable {world : World} {line : List String}

/-! ### Streams -/

/-- A sequence for colours or the cursor takes up no line break. -/
theorem newline_notMem_take_of_colourLength? {text : List Char} {length : Nat}
    (h : colourLength? text = some length) : 0 < length ∧ '\n' ∉ text.take length := by
  unfold colourLength? at h
  split at h
  · next rest =>
    dsimp only at h
    split at h
    · next c after hafter =>
      split at h
      · next halpha =>
        obtain rfl := Option.some.inj h
        set parameters := rest.takeWhile fun c => c.isDigit || c = ';' || c = '?' with hparameters
        have hrest : rest = parameters ++ c :: after := by
          rw [← hafter, hparameters]
          exact (List.prefix_iff_eq_append.1 (List.takeWhile_prefix _)).symm
        have htake : ('\x1b' :: '[' :: rest).take (parameters.length + 3) =
            '\x1b' :: '[' :: (parameters ++ [c]) := by
          rw [hrest]
          simp [List.take_append, List.take_of_length_le]
        rw [htake]
        refine ⟨by omega, fun hmem => ?_⟩
        simp only [List.mem_cons, List.mem_append, List.not_mem_nil, or_false] at hmem
        rcases hmem with heq | heq | hmem | rfl
        · exact absurd heq (by decide)
        · exact absurd heq (by decide)
        · have hparameter := List.mem_takeWhile_imp hmem
          exact absurd hparameter (by decide)
        · exact absurd halpha (by decide)
      · cases h
    · cases h
  · cases h

/-- A line break is never dropped with colours. -/
theorem newline_mem_dropColoursAfter {text : List Char} {skip : Nat} (h : '\n' ∈ text.drop skip) :
    '\n' ∈ dropColoursAfter skip text := by
  -- What is skipped is the rest of a sequence, which the line break lies behind.
  induction text generalizing skip with
  | nil => simp at h
  | cons c rest ih =>
    cases skip with
    | succ skip => exact ih h
    | zero =>
      rw [dropColoursAfter]
      split
      · next length hlength =>
        obtain ⟨hpos, hnotMem⟩ := newline_notMem_take_of_colourLength? hlength
        obtain ⟨length, rfl⟩ := Nat.exists_eq_succ_of_ne_zero hpos.ne'
        rw [List.drop_zero, ← List.take_append_drop (length + 1) (c :: rest)] at h
        exact ih ((List.mem_append.1 h).resolve_left hnotMem)
      · rcases List.mem_cons.1 h with rfl | h
        · exact List.mem_cons_self
        · exact List.mem_cons_of_mem _ (ih h)

theorem newline_mem_dropColours {text : String} (h : '\n' ∈ text.toList) :
    '\n' ∈ (dropColours text).toList := by
  rw [dropColours, String.toList_ofList]
  exact newline_mem_dropColoursAfter h

/-- A text with a line break is not empty. -/
theorem ne_empty_of_newline_mem {text : String} (h : '\n' ∈ text.toList) : text ≠ "" := by
  rintro rfl
  exact absurd h List.not_mem_nil

/-! ### Tables -/

theorem tabulate_builtin_eq_ok_iff {table : Table} {text : String} :
    Toolkit.builtin.tabulate table = .ok text ↔ table.render? = some text := by
  simp only [Toolkit.builtin]
  cases table.render? <;> simp

theorem exists_tabulate_builtin_eq_error_iff {table : Table} :
    (∃ fault, Toolkit.builtin.tabulate table = .error fault) ↔ table.render? = none := by
  simp only [Toolkit.builtin]
  cases table.render? <;> simp

/-- What is known of a printer of tables holds of the built-in one. -/
theorem Toolkit.builtin_tabulates : Tabulates Toolkit.builtin.tabulate where
  fails_iff _ _ hpairs := exists_tabulate_builtin_eq_error_iff.trans (Table.render?_pairs_eq_none_iff hpairs)
  prints hfirst hsecond hpairs htext :=
    Table.printsAs_of_render? hpairs hfirst hsecond (tabulate_builtin_eq_ok_iff.1 htext)

/-! ### Command lines -/

theorem parse_builtin_eq_ok_iff {invocation : Invocation} :
    Toolkit.builtin.parse world line = .ok invocation ↔ Invocation.read world.disk line = .ok invocation := by
  simp only [Toolkit.builtin]
  cases Invocation.read world.disk line <;> simp [Except.mapError]

/-- What is known of a toolkit holds of the built-in one. -/
theorem Toolkit.builtin_isFaithful : Toolkit.builtin.IsFaithful where
  write_ne_none := by
    intro text hascii
    have hhalf : text.toList.any isHalf = false := by
      rw [List.any_eq_false]
      intro c hc
      have hlt := hascii c hc
      simp only [isHalf, Bool.and_eq_true, decide_eq_true_eq]
      omega
    simp only [Toolkit.builtin, hhalf, Bool.false_eq_true, if_false, ne_eq, reduceCtorEq, not_false_eq_true]
  write_eq := by
    intro text output houtput hescape
    simp only [Toolkit.builtin] at houtput
    split at houtput
    · cases houtput
    · rw [← Option.some.inj houtput, dropColours_eq_self hescape]
  report_ne_empty text := ne_empty_of_newline_mem (newline_mem_dropColours (by simp))
  usage_ne_empty := by
    intro world line report hread
    simp only [Toolkit.builtin] at hread
    cases hrejection : Invocation.read world.disk line with
    | ok invocation => simp [hrejection, Except.mapError] at hread
    | error rejection =>
      rw [hrejection] at hread
      cases rejection with
      | help form => cases hread
      | nulInPath => cases hread
      | usage form error =>
        cases hread
        exact ne_empty_of_newline_mem (by simp [UsageError.report])

theorem verb_of_resources {verb : Verb} {args rest : List String}
    (h : resourcesForm.verb resourceVerbs rest = .ok (verb, args)) :
    verb = .mounts ∨ verb = .scan ∨ verb = .cat := by
  obtain ⟨⟨words, name, after⟩, -, hverb⟩ := exists_of_bind_eq_ok h
  dsimp only at hverb
  split at hverb
  · next found hfound =>
    obtain ⟨rfl, -⟩ := Prod.mk.inj (Except.ok.inj hverb)
    simp only [resourceVerbs, List.lookup_cons, List.lookup_nil] at hfound
    repeat' split at hfound
    all_goals simp_all
  · cases hverb

/-- The request that words are is made of an operand and options. -/
theorem exists_of_read {disk : Disk} {verb : Verb} {args : List String} {request : Request}
    (h : verb.read disk args = .ok request) :
    ∃ operand words, request = verb.request operand words := by
  obtain ⟨words, -, h⟩ := exists_of_bind_eq_ok h
  obtain ⟨-, -, h⟩ := exists_of_bind_eq_ok h
  obtain ⟨operand, -, h⟩ := exists_of_bind_eq_ok h
  exact ⟨operand, words, (Except.ok.inj h).symm⟩

/-- A command line that begins with the name of the commands for resources is one of them. -/
theorem isForResources_of_enter {words : Words} {rest : List String} {invocation : Invocation}
    (henter : programForm.enter line = .ok (words, "resources", rest))
    (hread : Toolkit.builtin.parse world line = .ok invocation) : invocation.request.IsForResources := by
  rw [parse_builtin_eq_ok_iff, Invocation.read, henter] at hread
  dsimp only [bind, Except.bind] at hread
  rw [if_pos rfl] at hread
  obtain ⟨⟨verb, args⟩, hverb, hread⟩ := exists_of_bind_eq_ok hread
  obtain ⟨request, hrequest, hread⟩ := exists_of_bind_eq_ok hread
  obtain rfl := Except.ok.inj hread
  obtain ⟨operand, options, rfl⟩ := exists_of_read hrequest
  rcases verb_of_resources hverb with rfl | rfl | rfl <;> trivial

end Lookup.Command
