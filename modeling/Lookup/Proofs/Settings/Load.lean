import Lookup.Proofs.Settings.Flatten
import Lookup.Proofs.Settings.Unfolding
import Lookup.Settings.Load
import Lookup.Time.Almanac
import Lookup.Yaml.Data

/-!
# What loading settings comes to

A settings file that holds a mapping is to give the flat settings of it, and one that holds nothing no
settings. All else is to be refused with an error of settings. Loading keeps to this apart from slips of
six kinds. In five of them a fault is let through from below: a path with a NUL character, bytes that
are no text, a text at which the reader fails, a mapping in which going down has no end, and a number with
more digits than are written. In the sixth a file is accepted that holds something other than a
mapping, because it stands for nothing, as an empty list does.

The reader of documents is any function from texts.

## Main definitions

* `HasText`, `HasDocument` — what a settings file holds
* `Promised` — what loading the file is to come to
* `Slip` — what it comes to instead

## Main results

* `promised_or_slip` — loading comes to what is promised or to a slip
* `slip_iff_not_promised` — the slips are all that is not as promised
-/

namespace Lookup

open Files Text

variable {ε : Type} {world : World} {path : Path} {text : String} {document : Document}
  {entries : List (Datum × Part document.size)} {result : Except (Failure ε) Store}

/-! ### What a file holds -/

/-- There is a text in the file at a path. -/
def HasText (world : World) (path : Path) (text : String) : Prop :=
  ∃ content chars, world.disk.content path = .ok content ∧
    decodeUtf8? content.bytes = some chars ∧ text = String.ofList (lineFeeds chars)

/-- There is a document in the file at a path. -/
def HasDocument (world : World) (path : Path) (document : Document) : Prop :=
  ∃ text, HasText world path text ∧ world.reader text = .ok document

theorem HasText.unique {other : String} (h : HasText world path text)
    (h' : HasText world path other) : text = other := by
  obtain ⟨content, chars, hcontent, hchars, rfl⟩ := h
  obtain ⟨content', chars', hcontent', hchars', rfl⟩ := h'
  obtain rfl := Except.ok.inj (hcontent.symm.trans hcontent')
  rw [Option.some.inj (hchars.symm.trans hchars')]

theorem HasText.hasDocument_iff (h : HasText world path text) :
    HasDocument world path document ↔ world.reader text = .ok document := by
  constructor
  · rintro ⟨other, hother, hread⟩
    rwa [h.unique hother]
  · intro hread
    exact ⟨text, h, hread⟩

theorem HasDocument.unique {other : Document} (h : HasDocument world path document)
    (h' : HasDocument world path other) : document = other := by
  obtain ⟨text, htext, hread⟩ := h
  exact Except.ok.inj (hread.symm.trans (htext.hasDocument_iff.1 h'))

/-! ### Loading -/

/-- What loading a settings file is to come to: the flat settings of the mapping that it holds, which are
those of the tree that one finds by going down from it, no settings if it holds nothing, and an error of
settings in all other cases. -/
inductive Promised (world : World) (path : Path) : Except (Failure ε) Store → Prop
  | settings {document : Document} {entries : List (Datum × Part document.size)} {limit : Nat}
      {tree : List (Datum × Datum)} {settings : Store} (holds : HasDocument world path document)
      (mapping : document.entries? = some entries) (ends : document.treeWithin limit entries = .ok tree)
      (flat : ∀ key, settings.get? key = flatValue? tree key) :
      Promised world path (.ok settings)
  | nothing {document : Document} (holds : HasDocument world path document)
      (null : document.top = .datum .null) : Promised world path (.ok .empty)
  | refused (error : ConfigError)
      (other : ∀ document, HasDocument world path document →
        document.entries? = none ∧ document.top ≠ .datum .null) :
      Promised world path (.error error.failure)

/-- What loading a settings file comes to although it should not. -/
inductive Slip (world : World) (path : Path) : Except (Failure ε) Store → Prop
  /-- The path holds a NUL character. -/
  | nul (noPath : world.disk.content path = .error .nul) :
      Slip world path (.error (.fault .nulInPath))
  /-- The bytes are no text. -/
  | undecodable {content : Content} (readable : world.disk.content path = .ok content)
      (noText : decodeUtf8? content.bytes = none) : Slip world path (.error (.fault .undecodable))
  /-- The reader fails at the text. -/
  | valueless {text : String} {fault : Fault} (holds : HasText world path text)
      (fails : world.reader text = .error (.fault fault)) : Slip world path (.error (.fault fault))
  /-- Going down in the mapping has no end. -/
  | endless {document : Document} {entries : List (Datum × Part document.size)}
      (holds : HasDocument world path document) (mapping : document.entries? = some entries)
      (endless : ∀ limit, document.treeWithin limit entries = .error .endless) :
      Slip world path (.error (.fault .endless))
  /-- Going down in the mapping, one comes to a number with more digits than are written. -/
  | unwritten {document : Document} {entries : List (Datum × Part document.size)} {limit : Nat}
      (holds : HasDocument world path document) (mapping : document.entries? = some entries)
      (long : document.treeWithin limit entries = .error .badScalar) :
      Slip world path (.error (.fault .badScalar))
  /-- The document stands for nothing, but is there and is no mapping. -/
  | hollow {document : Document} (holds : HasDocument world path document) (empty : document.isEmpty)
      (notMapping : document.entries? = none) (notNull : document.top ≠ .datum .null) :
      Slip world path (.ok .empty)

/-! ### Loading a document -/

theorem HasText.loadFile_eq (h : HasText world path text) :
    (loadFile world path : Except (Failure ε) Store) = readSettings world path text := by
  obtain ⟨content, chars, hcontent, hchars, rfl⟩ := h
  rw [loadFile, hcontent]
  dsimp only
  rw [hchars]

theorem HasDocument.loadFile_eq (h : HasDocument world path document) :
    (loadFile world path : Except (Failure ε) Store) = settingsOf path document := by
  obtain ⟨text, htext, hread⟩ := h
  rw [htext.loadFile_eq, readSettings, hread]

/-- A mapping that stands for nothing is empty. -/
theorem Document.eq_nil_of_isEmpty (hentries : document.entries? = some entries) (hempty : document.isEmpty) :
    entries = [] := by
  rw [entries?] at hentries
  rw [isEmpty] at hempty
  split at hentries
  · next datum heq =>
    rw [heq] at hempty
    obtain rfl := Option.some.inj hentries
    simpa [Datum.isEmpty] using hempty
  · cases hentries
  · next place heq =>
    rw [heq] at hempty
    dsimp only at hempty
    split at hentries
    · next heq =>
      obtain rfl := Option.some.inj hentries
      simpa [heq, Collection.parts] using hempty
    · cases hentries

/-- A mapping gives its flat settings, if going down in it comes to a tree. -/
theorem settingsOf_of_entries (hentries : document.entries? = some entries) :
    (settingsOf path document : Except (Failure ε) Store) =
      match document.tree entries with
      | .error fault => .error (.fault fault)
      | .ok tree => .ok (flatten "" tree) := by
  rw [settingsOf, hentries]
  split
  · next hempty =>
    -- An empty mapping stands for nothing, and its flat settings are none.
    obtain rfl := Document.eq_nil_of_isEmpty hentries hempty
    rfl
  · rfl

/-- Loading a mapping comes to its flat settings or to a slip. -/
theorem HasDocument.promised_or_slip_of_entries (h : HasDocument world path document)
    (hentries : document.entries? = some entries) :
    Promised world path (loadFile world path : Except (Failure ε) Store) ∨
      Slip world path (loadFile world path : Except (Failure ε) Store) := by
  rw [h.loadFile_eq, settingsOf_of_entries hentries]
  cases htree : document.tree entries with
  | ok tree => exact .inl (.settings h hentries htree (get?_flatten tree))
  | error fault =>
    rcases Document.tree_eq_error htree with rfl | rfl
    · exact .inr (.endless h hentries (Document.tree_eq_endless_iff.1 htree))
    · exact .inr (.unwritten h hentries htree)

/-- A file that holds a document which is neither a mapping nor nothing is to be refused. -/
theorem HasDocument.promised_refused (h : HasDocument world path document) (error : ConfigError)
    (notMapping : document.entries? = none) (notNull : document.top ≠ .datum .null) :
    Promised world path (.error error.failure : Except (Failure ε) Store) := by
  apply Promised.refused error
  intro other hother
  obtain rfl := h.unique hother
  exact ⟨notMapping, notNull⟩

/-- Loading a document that is no mapping comes to an error of settings, to nothing, or to a slip. -/
theorem HasDocument.promised_or_slip_of_eq_none (h : HasDocument world path document)
    (hentries : document.entries? = none) :
    Promised world path (loadFile world path : Except (Failure ε) Store) ∨
      Slip world path (loadFile world path : Except (Failure ε) Store) := by
  rw [h.loadFile_eq, settingsOf]
  split
  · next hempty =>
    -- Only where there is nothing at all is it right to give no settings.
    by_cases hnull : document.top = .datum .null
    · exact .inl (.nothing h hnull)
    · exact .inr (.hollow h hempty hentries hnull)
  · next hempty =>
    rw [hentries]
    refine .inl (h.promised_refused _ hentries fun hnull => hempty ?_)
    rw [Document.isEmpty, hnull]
    rfl

theorem HasDocument.promised_or_slip (h : HasDocument world path document) :
    Promised world path (loadFile world path : Except (Failure ε) Store) ∨
      Slip world path (loadFile world path : Except (Failure ε) Store) := by
  cases hentries : document.entries? with
  | none => exact h.promised_or_slip_of_eq_none hentries
  | some entries => exact h.promised_or_slip_of_entries hentries

/-! ### Loading a file -/

/-- A file without a document is to be refused. -/
theorem promised_refused_of_forall_not (error : ConfigError)
    (h : ∀ document, ¬ HasDocument world path document) :
    Promised world path (.error error.failure : Except (Failure ε) Store) :=
  .refused error fun document hdocument => absurd hdocument (h document)

theorem HasText.promised_or_slip (h : HasText world path text) :
    Promised world path (loadFile world path : Except (Failure ε) Store) ∨
      Slip world path (loadFile world path : Except (Failure ε) Store) := by
  rcases hread : world.reader text with (complaint | fault) | document
  · rw [h.loadFile_eq, readSettings, hread]
    refine .inl (promised_refused_of_forall_not _ ?_)
    intro document hdocument
    rw [h.hasDocument_iff, hread] at hdocument
    cases hdocument
  · rw [h.loadFile_eq, readSettings, hread]
    exact .inr (.valueless h hread)
  · exact HasDocument.promised_or_slip ⟨text, h, hread⟩

/-- Loading a file comes to what is promised or to a slip. -/
theorem promised_or_slip (world : World) (path : Path) :
    Promised world path (loadFile world path : Except (Failure ε) Store) ∨
      Slip world path (loadFile world path : Except (Failure ε) Store) := by
  rcases hcontent : world.disk.content path with (_ | error) | content
  · rw [loadFile, hcontent]
    exact .inr (.nul hcontent)
  · rw [loadFile, hcontent]
    refine .inl (promised_refused_of_forall_not _ ?_)
    rintro document ⟨text, ⟨content, chars, hok, -, -⟩, -⟩
    cases hcontent.symm.trans hok
  · cases hchars : decodeUtf8? content.bytes with
    | some chars => exact HasText.promised_or_slip ⟨content, chars, hcontent, hchars, rfl⟩
    | none =>
      rw [loadFile, hcontent]
      dsimp only
      rw [hchars]
      exact .inr (.undecodable hcontent hchars)

/-- A slip is what loading comes to. -/
theorem Slip.loadFile_eq (h : Slip world path result) : loadFile world path = result := by
  cases h with
  | nul noPath => rw [loadFile, noPath]
  | undecodable readable noText =>
    rw [loadFile, readable]
    dsimp only
    rw [noText]
  | valueless holds fails => rw [holds.loadFile_eq, readSettings, fails]
  | endless holds mapping endless =>
    rw [holds.loadFile_eq, settingsOf_of_entries mapping, Document.tree_eq_endless_iff.2 endless]
  | unwritten holds mapping long =>
    rw [holds.loadFile_eq, settingsOf_of_entries mapping, (Document.tree_eq_iff (by simp)).2 ⟨_, long⟩]
  | hollow holds empty => rw [holds.loadFile_eq, settingsOf, if_pos empty]

/-- No error of settings is a fault. -/
theorem not_promised_fault (fault : Fault) :
    ¬ Promised world path (.error (.fault fault) : Except (Failure ε) Store) := by
  intro h
  generalize hresult : (.error (.fault fault) : Except (Failure ε) Store) = result at h
  cases h with
  | settings | nothing => cases hresult
  | refused error => cases hresult

/-- A slip is not as promised. -/
theorem Slip.not_promised (h : Slip world path result) : ¬ Promised world path result := by
  cases h with
  | nul | undecodable | valueless | endless | unwritten => exact not_promised_fault _
  | hollow holds empty notMapping notNull =>
    intro hpromised
    cases hpromised with
    | settings holds' mapping =>
      obtain rfl := holds.unique holds'
      cases notMapping.symm.trans mapping
    | nothing holds' null =>
      obtain rfl := holds.unique holds'
      exact notNull null

/-- Loading a settings file comes to something that is not as promised exactly where there is a slip. -/
theorem slip_iff_not_promised (world : World) (path : Path) (result : Except (Failure ε) Store) :
    Slip world path result ↔
      loadSettings world (some path) = result ∧ ¬ Promised world path result := by
  constructor
  · intro h
    exact ⟨h.loadFile_eq, h.not_promised⟩
  · rintro ⟨rfl, hnot⟩
    exact (promised_or_slip world path).resolve_left hnot

/-- A world in which there is one file, `s`. -/
def oneFileWorld (bytes : Bytes) : World :=
  ⟨⟨.directory [("s", .file ⟨bytes, none⟩)], [], 0⟩, .empty, [], "", [], Time.almanac, Yaml.read fun _ => ""⟩

/-- A byte that begins no character is let through as a fault. -/
example : loadSettings (oneFileWorld [0xFF]) (some ⟨.here, ["s"]⟩) =
    (.error (.fault .undecodable) : Except (Failure Empty) Store) := by rfl

/-- An empty list is accepted. -/
example : loadSettings (oneFileWorld [0x5B, 0x5D]) (some ⟨.here, ["s"]⟩) =
    (.ok .empty : Except (Failure Empty) Store) := by rfl

end Lookup
