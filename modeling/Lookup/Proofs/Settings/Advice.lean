import Lookup.Error.Advice
import Lookup.Proofs.Command.Layering
import Lookup.Proofs.Text.Mention

/-!
# The advice for errors of settings

The advice for an error of settings is chosen by its wording. The wording of the error that calls for the advice on
the variable always has the phrase that is looked for. But errors repeat texts from outside, and any other error that
repeats a text with the phrase gets the same advice.

## Main definitions

* `Raised` — the errors that end looking for settings, loading them or reading pairs
* `ConfigError.repeated` — the texts from outside that a wording repeats
* `missingAdvice`, `plainAdvice` — the two answers to an error of settings

## Main results

* `Raised.isCaused` — the five causes of an error of settings
* `mentions_message_iff` — the errors whose wording has the phrase
* `explainConfig_of_raised` — which answer is given
-/

namespace Lookup

open Files Text

variable {ε : Type} {world : World} {path : Path} {error : ConfigError}

/-! ### Errors -/

/-- The errors that end looking for the settings file, loading settings or reading pairs. -/
inductive Raised (world : World) (error : ConfigError) : Prop where
  | search (h : settingsPath world = (.error error.failure : Except (Failure Empty) _))
  | load {path? : Option Path} (h : loadSettings world path? = (.error error.failure : Except (Failure Empty) _))
  | pairs (pairs : List String) (h : ofPairs pairs = (.error error.failure : Except (Failure Empty) _))

/-- The causes of an error of settings. -/
inductive IsCaused (world : World) : ConfigError → Prop
  /-- There is no file where the environment names one. -/
  | missing {error : ConfigError} (check : FailsOverrideCheck world error) : IsCaused world error
  /-- The system does not open the settings file. -/
  | unreadable {path : Path} {errno : Errno}
      (refused : world.disk.content path = .error (.system (.refused errno path.text))) :
      IsCaused world (.unreadable (.refused errno path.text))
  /-- The text in the settings file is no document, of which the reader complains. -/
  | invalid {path : Path} {text complaint : String} (holds : HasText world path text)
      (noDocument : world.reader text = .error (.invalid complaint)) : IsCaused world (.invalid path.text complaint)
  /-- The document in the settings file is no mapping. -/
  | notMapping {path : Path} {document : Document} (holds : HasDocument world path document)
      (notMapping : document.entries? = none) : IsCaused world (.notMapping path.text)
  /-- A pair has no equals sign or nothing before it. -/
  | badPair {pair : String} (incomplete : IsIncomplete pair) : IsCaused world (.badPair pair)

theorem content_eq_system {disk : Disk} {refusal : SystemError}
    (h : disk.content path = .error (.system refusal)) : ∃ errno, refusal = .refused errno path.text := by
  rw [Disk.content] at h
  split at h
  · cases h
  · obtain rfl := Disk.OpenError.system.inj (Except.error.inj h)
    exact ⟨_, rfl⟩
  · next pathError _ =>
    cases pathError with
    | nul => cases h
    | refused errno =>
      obtain rfl := Disk.OpenError.system.inj (Except.error.inj h)
      exact ⟨errno, rfl⟩

/-- A document in a settings file leads to an error only if it is no mapping. -/
theorem HasDocument.isCaused {document : Document} (hdocument : HasDocument world path document)
    (h : loadFile world path = (.error error.failure : Except (Failure ε) Store)) : IsCaused world error := by
  rw [hdocument.loadFile_eq] at h
  cases hentries : document.entries? with
  | some entries =>
    rw [settingsOf_of_entries hentries] at h
    cases htree : document.tree entries <;> rw [htree] at h <;> cases h
  | none =>
    rw [settingsOf, hentries] at h
    split at h
    · cases h
    · cases h
      exact .notMapping hdocument hentries

theorem HasText.isCaused {text : String} (htext : HasText world path text)
    (h : loadFile world path = (.error error.failure : Except (Failure ε) Store)) : IsCaused world error := by
  rcases hread : world.reader text with (complaint | fault) | document
  · rw [htext.loadFile_eq, readSettings, hread] at h
    cases h
    exact .invalid htext hread
  · rw [htext.loadFile_eq, readSettings, hread] at h
    cases h
  · exact HasDocument.isCaused ⟨text, htext, hread⟩ h

theorem isCaused_of_loadFile (h : loadFile world path = (.error error.failure : Except (Failure ε) Store)) :
    IsCaused world error := by
  rcases hcontent : world.disk.content path with (_ | refusal) | content
  · rw [loadFile, hcontent] at h
    cases h
  · rw [loadFile, hcontent] at h
    obtain ⟨errno, rfl⟩ := content_eq_system hcontent
    cases h
    exact .unreadable hcontent
  · cases hchars : decodeUtf8? content.bytes with
    | some chars => exact HasText.isCaused ⟨content, chars, hcontent, hchars, rfl⟩ h
    | none =>
      rw [loadFile, hcontent] at h
      dsimp only at h
      rw [hchars] at h
      cases h

theorem isCaused_of_settingsPath (h : settingsPath world = (.error error.failure : Except (Failure ε) _)) :
    IsCaused world error := by
  rcases settingsPath_error_cases h with ⟨other, hcheck, heq⟩ | ⟨fault, heq⟩
  · cases heq
    exact .missing hcheck
  · cases heq

theorem isCaused_of_putPairs {settings : Store} {pairs : List String}
    (h : putPairs settings pairs = (.error error.failure : Except (Failure ε) _)) : IsCaused world error := by
  induction pairs generalizing settings with
  | nil => cases h
  | cons pair rest ih =>
    rw [putPairs] at h
    by_cases hpair : IsIncomplete pair
    · rw [readPair?_of_incomplete hpair] at h
      cases h
      exact .badPair hpair
    · obtain ⟨key, value, hread, -⟩ := exists_readPair?_of_complete hpair
      rw [hread] at h
      exact ih h

/-- All errors of settings that are raised have one of five causes. -/
theorem Raised.isCaused (h : Raised world error) : IsCaused world error := by
  cases h with
  | search h => exact isCaused_of_settingsPath h
  | pairs pairs h => exact isCaused_of_putPairs h
  | load h =>
    rcases loadSettings_error_cases h with hsearch | ⟨path, hload⟩
    · exact isCaused_of_settingsPath hsearch
    · exact isCaused_of_loadFile hload

/-- The variable for the settings file is what an error is about exactly if the check of that file fails. -/
theorem IsCaused.eq_overrideMissing_iff (h : IsCaused world error) :
    (∃ path, error = .overrideMissing path) ↔ FailsOverrideCheck world error := by
  constructor
  · rintro ⟨path, rfl⟩
    cases h with
    | missing check => exact check
  · rintro ⟨text, path, -, -, -, rfl⟩
    exact ⟨_, rfl⟩

/-! ### Wording -/

/-- The texts from outside that the wording of an error of settings repeats. -/
def ConfigError.repeated : ConfigError → List String
  | .overrideMissing path => [path]
  | .unreadable (.refused _ path) => [path]
  | .unreadable (.other text) => [text]
  | .invalid path complaint => [path, complaint]
  | .notMapping path => [path]
  | .badPair pair => [pair]
  | .general text => [text]

/-- The phrase by which errors about the variable are told. -/
def missingPhrase : List Char := "path not found".toList

theorem missingPhrase_eq : missingPhrase = 'p' :: "ath not found".toList := rfl

theorem isPhrase_missingPhrase : IsPhrase missingPhrase := by
  constructor
  · have hall : missingPhrase.all isPlain = true := by decide
    exact List.all_eq_true.1 hall
  · decide
  · intro c hc
    obtain rfl := Option.some.inj hc
    decide

/-- A text that has not got the first letter of the phrase adds nothing. -/
theorem mentions_append_iff_of_head {front back : List Char} (h : 'p' ∉ front.map Char.toLower) :
    Mentions missingPhrase (front ++ back) ↔ Mentions missingPhrase back := by
  rw [Mentions, List.map_append, missingPhrase_eq]
  exact infix_append_iff_of_head h

/-- A quoted text is all that counts behind a text without the phrase. -/
theorem mentions_append_quote_iff {front : String} (h : ¬ Mentions missingPhrase front.toList) (text : String) :
    Mentions missingPhrase (front ++ Text.quote text).toList ↔ Mentions missingPhrase text.toList := by
  rw [String.toList_append, isPhrase_missingPhrase.mentions_append_quote_iff, or_iff_right h]

/-- A colon and a space stand between the texts, of which each counts. -/
theorem mentions_append_colon_iff (front back : String) :
    Mentions missingPhrase (front ++ ": " ++ back).toList ↔
      Mentions missingPhrase front.toList ∨ Mentions missingPhrase back.toList := by
  have htext : (front ++ ": " ++ back).toList = front.toList ++ ':' :: ([' '] ++ back.toList) := by
    rw [String.toList_append, String.toList_append, List.append_assoc]
    rfl
  have hspace : 'p' ∉ [' '].map Char.toLower := by decide
  rw [htext, isPhrase_missingPhrase.mentions_append_cons_iff (by decide), mentions_append_iff_of_head hspace]

theorem mentions_overrideMissing (path : String) :
    Mentions missingPhrase (ConfigError.overrideMissing path).message.toList := by
  have hfront : missingPhrase <:+: "AUTUMN_CONFIG path not found: ".toList.map Char.toLower := by
    decide +kernel
  have htext : (ConfigError.overrideMissing path).message.toList.map Char.toLower =
      "AUTUMN_CONFIG path not found: ".toList.map Char.toLower ++ path.toList.map Char.toLower := by
    rw [← List.map_append, ← String.toList_append]
    rfl
  exact hfront.trans ⟨[], _, htext.symm⟩

theorem mentions_unreadable_iff (errno : Errno) (path : String) :
    Mentions missingPhrase (ConfigError.unreadable (.refused errno path)).message.toList ↔
      Mentions missingPhrase path.toList := by
  apply mentions_append_quote_iff
  cases errno <;> decide +kernel

theorem mentions_invalid_iff (path complaint : String) :
    Mentions missingPhrase (ConfigError.invalid path complaint).message.toList ↔
      Mentions missingPhrase path.toList ∨ Mentions missingPhrase complaint.toList := by
  have hfront : 'p' ∉ "Invalid YAML in ".toList.map Char.toLower := by decide +kernel
  have htext : (ConfigError.invalid path complaint).message = "Invalid YAML in " ++ path ++ ": " ++ complaint := rfl
  rw [htext, mentions_append_colon_iff, String.toList_append, mentions_append_iff_of_head hfront]

theorem mentions_notMapping_iff (path : String) :
    Mentions missingPhrase (ConfigError.notMapping path).message.toList ↔ Mentions missingPhrase path.toList := by
  have hfront : ¬ Mentions missingPhrase "Settings file must contain a mapping at the top level".toList := by
    decide +kernel
  have htext : (ConfigError.notMapping path).message =
      "Settings file must contain a mapping at the top level" ++ ": " ++ path := rfl
  rw [htext, mentions_append_colon_iff, or_iff_right hfront]

theorem mentions_badPair_iff (pair : String) :
    Mentions missingPhrase (ConfigError.badPair pair).message.toList ↔ Mentions missingPhrase pair.toList := by
  exact mentions_append_quote_iff (by decide +kernel) pair

/-- The wording of an error has the phrase if the error is about the variable, or if it repeats a text with the
phrase. -/
theorem mentions_message_iff (error : ConfigError) :
    Mentions missingPhrase error.message.toList ↔
      (∃ path, error = .overrideMissing path) ∨ ∃ text ∈ error.repeated, Mentions missingPhrase text.toList := by
  cases error with
  | overrideMissing path => simp [mentions_overrideMissing]
  | unreadable refusal =>
    cases refusal with
    | refused errno path => simp [mentions_unreadable_iff, ConfigError.repeated]
    | other text =>
      have htext : (ConfigError.unreadable (.other text)).message = text := rfl
      simp [htext, ConfigError.repeated]
  | invalid path complaint => simp [mentions_invalid_iff, ConfigError.repeated]
  | notMapping path => simp [mentions_notMapping_iff, ConfigError.repeated]
  | badPair pair => simp [mentions_badPair_iff, ConfigError.repeated]
  | general text =>
    have htext : (ConfigError.general text).message = text := rfl
    simp [htext, ConfigError.repeated]

/-! ### Advice -/

/-- The answer to an error about the variable. -/
def missingAdvice (text : String) : String :=
  "Settings file not found: " ++ text ++ "\n  • Fix AUTUMN_CONFIG, or\n" ++
    "  • Unset it to fall back to ~/.config/autumn/settings.yaml"

/-- The answer to any other error of settings. -/
def plainAdvice (text : String) : String := "Configuration error: " ++ text

theorem missingAdvice_ne_plainAdvice (text : String) : missingAdvice text ≠ plainAdvice text := by
  have hmissing : (missingAdvice text).toList.head? = some 'S' := by
    have htext : missingAdvice text = "Settings file not found: " ++ text ++ "\n  • Fix AUTUMN_CONFIG, or\n" ++
      "  • Unset it to fall back to ~/.config/autumn/settings.yaml" := rfl
    rw [htext, String.append_assoc, String.append_assoc, String.toList_append]
    rfl
  have hplain : (plainAdvice text).toList.head? = some 'C' := by
    have htext : plainAdvice text = "Configuration error: " ++ text := rfl
    rw [htext, String.toList_append]
    rfl
  intro heq
  rw [heq, hplain] at hmissing
  simp at hmissing

theorem explainConfig_of_mentions (h : Mentions missingPhrase error.message.toList) :
    (Error.config error).explainConfig = missingAdvice error.message :=
  if_pos ((isPhrase_missingPhrase.occurs_lower_iff _).2 h)

theorem explainConfig_of_not_mentions (h : ¬ Mentions missingPhrase error.message.toList) :
    (Error.config error).explainConfig = plainAdvice error.message :=
  if_neg (mt (isPhrase_missingPhrase.occurs_lower_iff _).1 h)

/-- An error of settings has one of five causes, but the answer to it tells to look at the variable if the file that
it names was not there, and also if the error repeats a text in which the phrase for this happens to be. -/
theorem explainConfig_of_raised (h : Raised world error) :
    IsCaused world error ∧
    ((Error.config error).explainConfig = missingAdvice error.message ↔ FailsOverrideCheck world error ∨
      ∃ text ∈ error.repeated, Mentions missingPhrase text.toList) ∧
    ((Error.config error).explainConfig = plainAdvice error.message ↔ ¬ FailsOverrideCheck world error ∧
      ∀ text ∈ error.repeated, ¬ Mentions missingPhrase text.toList) := by
  have hmessage := mentions_message_iff error
  rw [h.isCaused.eq_overrideMissing_iff] at hmessage
  have hnot : (¬ FailsOverrideCheck world error ∧ ∀ text ∈ error.repeated, ¬ Mentions missingPhrase text.toList) ↔
      ¬ Mentions missingPhrase error.message.toList := by
    rw [hmessage]
    simp only [not_or, not_exists, not_and]
  rw [hnot, ← hmessage]
  refine ⟨h.isCaused, ?_⟩
  by_cases hmentions : Mentions missingPhrase error.message.toList
  · rw [explainConfig_of_mentions hmentions]
    simp [hmentions, missingAdvice_ne_plainAdvice]
  · rw [explainConfig_of_not_mentions hmentions]
    simp [hmentions, (missingAdvice_ne_plainAdvice _).symm]

/-- A pair that is not a setting but has the phrase in it is answered as if the variable were wrong, although it is not
set. -/
theorem explainConfig_badPair :
    (Error.config (.badPair "path not found")).explainConfig =
      missingAdvice "Expected key=value, got: 'path not found'" ∧
    ¬ FailsOverrideCheck homeWorld (.badPair "path not found") := by
  have hraised : Raised homeWorld (.badPair "path not found") := .pairs ["path not found"] rfl
  constructor
  · have hmentions : Mentions missingPhrase "path not found".toList := by
      decide +kernel
    have hmessage : (ConfigError.badPair "path not found").message =
        "Expected key=value, got: 'path not found'" := by
      decide +kernel
    rw [← hmessage]
    exact (explainConfig_of_raised hraised).2.1.2 (.inr ⟨_, List.mem_cons_self, hmentions⟩)
  · rintro ⟨text, path, -, -, -, heq⟩
    cases heq

end Lookup
