import Lookup.Placeholder

/-!
# Placeholders and their text

A text is read as a placeholder exactly if it is the text of that placeholder and the key there is neither
empty nor holds a colon. So a placeholder with such a key is read back from its text, and its key and its
default stand in the text as they are. What has the marks of a placeholder at its ends and no key in front of
the first colon is keyless, and all that has not the two marks stands for itself.

## Main definitions

* `Placeholder.body` — what stands between the marks of a placeholder
* `Placeholder.IsMarked`, `Placeholder.LacksKey` — texts with the marks, and those that have no key

## Main results

* `Placeholder.read_eq_placeholder_iff` — what is read as a placeholder
* `Placeholder.read_eq_literal_iff`, `Placeholder.read_eq_keyless_iff` — what is read as none
* `Placeholder.read_corresponds_render` — reading and writing are inverse to each other
* `Placeholder.isShaped_eq_false_iff` — what has not the shape of a placeholder stands for itself
* `Placeholder.key_isInfix_render`, `Placeholder.default_isInfix_render` — the parts of the text of a
  placeholder
-/

namespace Lookup.Placeholder

open Text

variable {p : Placeholder} {text : String} {chars inner : List Char}

/-- What stands between the marks of a placeholder. -/
def body (p : Placeholder) : List Char :=
  p.key.toList ++ match p.default? with
    | none => []
    | some text => ':' :: text.toList

theorem toList_render (p : Placeholder) :
    p.render.toList = '$' :: '\x7b' :: (p.body ++ ['\x7d']) := by
  rw [render, body]
  cases p.default? with
  | none => simp
  | some text => simp

theorem body?_eq_some_iff : body? chars = some inner ↔ chars = '$' :: '\x7b' :: (inner ++ ['\x7d']) := by
  constructor
  · intro h
    unfold body? at h
    split at h
    · split at h
      · next rest hlast =>
        obtain ⟨start, rfl⟩ := List.getLast?_eq_some_iff.1 hlast
        simpa using h
      · exact absurd h (Option.some_ne_none _).symm
    · exact absurd h (Option.some_ne_none _).symm
  · rintro rfl
    simp [body?]

/-- Without a colon there is a key and no default. -/
theorem readBody_of_notMem (h : ':' ∉ inner) :
    readBody inner = if inner = [] then .keyless else .placeholder ⟨String.ofList inner, none⟩ := by
  simp only [readBody, cut_eq_none_iff.2 h]

/-- The key ends in front of the first colon. -/
theorem readBody_append_cons {start rest : List Char} (h : ':' ∉ start) :
    readBody (start ++ ':' :: rest) =
      if start = [] then .keyless else .placeholder ⟨String.ofList start, some (String.ofList rest)⟩ := by
  simp only [readBody, cut_eq_some_iff.2 ⟨h, rfl⟩]

/-- What stands between the marks has a colon in it or not. -/
theorem notMem_or_eq_append (inner : List Char) :
    ':' ∉ inner ∨ ∃ start rest, ':' ∉ start ∧ inner = start ++ ':' :: rest := by
  cases hcut : cut ':' inner with
  | none => exact .inl (cut_eq_none_iff.1 hcut)
  | some parts => exact .inr ⟨parts.1, parts.2, cut_eq_some_iff.1 hcut⟩

/-- What has the shape of a placeholder is not read as a literal. -/
theorem readBody_ne_literal (inner : List Char) : readBody inner ≠ .literal := by
  rcases notMem_or_eq_append inner with h | ⟨start, rest, h, rfl⟩
  · rw [readBody_of_notMem h]
    split <;> simp
  · rw [readBody_append_cons h]
    split <;> simp

theorem isShaped_eq_false_iff : isShaped text = false ↔ read text = .literal := by
  rw [isShaped, read]
  cases body? text.toList with
  | none => simp
  | some inner => simpa using readBody_ne_literal inner

/-- What stands between the marks is read as the placeholder that it belongs to, with a key in front of the
first colon. -/
theorem readBody_eq_placeholder_iff :
    readBody inner = .placeholder p ↔ p.key ≠ "" ∧ ':' ∉ p.key.toList ∧ inner = p.body := by
  constructor
  · intro h
    -- The key is all of it, or what stands in front of the first colon; it holds no colon either way.
    rcases notMem_or_eq_append inner with hcolon | ⟨start, rest, hcolon, rfl⟩
    · rw [readBody_of_notMem hcolon] at h
      split at h
      · cases h
      · next hne =>
        obtain rfl := Reading.placeholder.inj h
        exact ⟨by simpa using hne, by simpa using hcolon, by simp [body]⟩
    · rw [readBody_append_cons hcolon] at h
      split at h
      · cases h
      · next hne =>
        obtain rfl := Reading.placeholder.inj h
        exact ⟨by simpa using hne, by simpa using hcolon, by simp [body]⟩
  · obtain ⟨key, default?⟩ := p
    rintro ⟨hkey, hcolon, rfl⟩
    have hne : key.toList ≠ [] := by simpa using hkey
    cases default? with
    | none => simp [body, readBody_of_notMem hcolon, hkey]
    | some text => simp [body, readBody_append_cons hcolon, hkey]

/-- A text is read as the placeholder of which it is the text. -/
theorem read_eq_placeholder_iff :
    read text = .placeholder p ↔ p.key ≠ "" ∧ ':' ∉ p.key.toList ∧ text = p.render := by
  have hrender : text = p.render ↔ body? text.toList = some p.body := by
    rw [body?_eq_some_iff, ← toList_render, String.toList_inj]
  rw [hrender, read]
  cases body? text.toList with
  | none => simp
  | some inner => simpa using readBody_eq_placeholder_iff

/-! ### Texts that are read as no placeholder -/

/-- A text has the marks of a placeholder at its two ends. -/
def IsMarked (text : String) : Prop := ['$', '\x7b'] <+: text.toList ∧ ['\x7d'] <:+ text.toList

/-- A text has a colon or the closing mark, and no more, where the key of a placeholder starts. -/
def LacksKey (text : String) : Prop :=
  (text.toList.drop 2).head? = some ':' ∨ text.toList.drop 2 = ['\x7d']

/-- The two marks do not overlap, so something stands between them, be it nothing. -/
theorem isMarked_iff : IsMarked text ↔ ∃ inner, body? text.toList = some inner := by
  simp only [body?_eq_some_iff]
  constructor
  · rintro ⟨⟨rest, hrest⟩, hclosing⟩
    rw [← hrest, List.singleton_suffix_iff_getLast?_eq_some] at hclosing
    cases rest with
    | nil => exact absurd hclosing (by decide)
    | cons c rest =>
      simp only [List.cons_append, List.nil_append, List.getLast?_cons_cons] at hclosing
      obtain ⟨inner, hinner⟩ := List.getLast?_eq_some_iff.1 hclosing
      exact ⟨inner, by rw [← hrest, hinner]; rfl⟩
  · rintro ⟨inner, hinner⟩
    rw [IsMarked, hinner]
    exact ⟨⟨inner ++ ['\x7d'], rfl⟩, ⟨'$' :: '\x7b' :: inner, rfl⟩⟩

/-- A text stands for itself exactly if one of the two marks is missing at its ends. -/
theorem read_eq_literal_iff : read text = .literal ↔ ¬ IsMarked text := by
  rw [isMarked_iff, read]
  cases body? text.toList with
  | none => simp
  | some inner => simpa using readBody_ne_literal inner

/-- There is no key exactly if there is nothing at all or the first colon comes first. -/
theorem readBody_eq_keyless_iff : readBody inner = .keyless ↔ inner = [] ∨ inner.head? = some ':' := by
  rcases notMem_or_eq_append inner with h | ⟨start, rest, h, rfl⟩
  · rw [readBody_of_notMem h]
    have hhead : inner.head? ≠ some ':' := fun hhead => h (List.mem_of_mem_head? hhead)
    simp [hhead]
  · rw [readBody_append_cons h]
    cases start with
    | nil => simp
    | cons c start =>
      have hc : c ≠ ':' := fun hc => h (hc ▸ List.mem_cons_self)
      simp [hc]

/-- What is read as keyless has the two marks and lacks a key. -/
theorem read_eq_keyless_iff : read text = .keyless ↔ IsMarked text ∧ LacksKey text := by
  rw [isMarked_iff, LacksKey, read]
  cases hbody : body? text.toList with
  | none => simp
  | some inner =>
    rw [body?_eq_some_iff.1 hbody]
    cases inner with
    | nil => simp [readBody_eq_keyless_iff]
    | cons c inner => simp [readBody_eq_keyless_iff]

/-- Reading and writing are inverse to each other on the placeholders with a key that neither is empty nor holds
a colon. Of the other texts those are keyless that have the two marks and where a colon or the closing mark
stands in place of the key, and the rest stand for themselves. -/
theorem read_corresponds_render :
    (∀ p : Placeholder, p.key ≠ "" → ':' ∉ p.key.toList → read p.render = .placeholder p) ∧
    (∀ text p, read text = .placeholder p → p.key ≠ "" ∧ ':' ∉ p.key.toList ∧ p.render = text) ∧
    (∀ text, read text = .keyless ↔ IsMarked text ∧ LacksKey text) ∧
    (∀ text, read text = .literal ↔
      (∀ p : Placeholder, p.key ≠ "" → ':' ∉ p.key.toList → p.render ≠ text) ∧
        ¬ (IsMarked text ∧ LacksKey text)) := by
  have hread : ∀ p : Placeholder, p.key ≠ "" → ':' ∉ p.key.toList → read p.render = .placeholder p :=
    fun p hkey hcolon => read_eq_placeholder_iff.2 ⟨hkey, hcolon, rfl⟩
  refine ⟨hread, ?_, fun text => read_eq_keyless_iff, fun text => ?_⟩
  · intro text p reads
    obtain ⟨hkey, hcolon, htext⟩ := read_eq_placeholder_iff.1 reads
    exact ⟨hkey, hcolon, htext.symm⟩
  · rw [← read_eq_keyless_iff]
    constructor
    · intro hliteral
      refine ⟨fun p hkey hcolon htext => ?_, by simp [hliteral]⟩
      simpa [htext, hliteral] using hread p hkey hcolon
    · rintro ⟨hnone, hkeyless⟩
      cases hreads : read text with
      | literal => rfl
      | keyless => exact absurd hreads hkeyless
      | placeholder p =>
        obtain ⟨hkey, hcolon, htext⟩ := read_eq_placeholder_iff.1 hreads
        exact absurd htext.symm (hnone p hkey hcolon)

/-- A default may hold colons and marks, an empty default is another one than none, and a colon in place of the
key leaves none. -/
theorem read_corresponds_render_samples :
    read (render ⟨"a", some "\x7d:$\x7bb:c\x7d"⟩) = .placeholder ⟨"a", some "\x7d:$\x7bb:c\x7d"⟩ ∧
    read (render ⟨"a", some ""⟩) = .placeholder ⟨"a", some ""⟩ ∧
    render ⟨"a", some ""⟩ = "$\x7ba:\x7d" ∧ render ⟨"a", none⟩ = "$\x7ba\x7d" ∧
    read "$\x7b:a\x7d" = .keyless ∧ read "$\x7b:a" = .literal := by
  obtain ⟨hread, hrender, hkeyless, -⟩ := read_corresponds_render
  have hkey : "a" ≠ "" ∧ ':' ∉ "a".toList := by decide
  have hnone : read "$\x7ba\x7d" = .placeholder ⟨"a", none⟩ := by decide
  refine ⟨hread _ hkey.1 hkey.2, hread _ hkey.1 hkey.2, rfl, (hrender _ _ hnone).2.2,
    (hkeyless _).2 ⟨⟨?_, ?_⟩, .inl rfl⟩, read_eq_literal_iff.2 fun hmarked => ?_⟩
  · exact ⟨[':', 'a', '\x7d'], rfl⟩
  · exact ⟨['$', '\x7b', ':', 'a'], rfl⟩
  · exact absurd (List.singleton_suffix_iff_getLast?_eq_some.1 hmarked.2) (by decide)

/-! ### The parts of a placeholder -/

theorem body_isInfix_render (p : Placeholder) : p.body <:+: p.render.toList := by
  rw [toList_render]
  exact ⟨['$', '\x7b'], ['\x7d'], by simp⟩

theorem key_isInfix_render (p : Placeholder) : p.key.toList <:+: p.render.toList :=
  (List.prefix_append _ _).isInfix.trans p.body_isInfix_render

theorem default_isInfix_render (h : p.default? = some text) : text.toList <:+: p.render.toList := by
  refine List.IsInfix.trans ?_ p.body_isInfix_render
  rw [body, h]
  exact ((List.suffix_cons _ _).trans (List.suffix_append _ _)).isInfix

end Lookup.Placeholder
