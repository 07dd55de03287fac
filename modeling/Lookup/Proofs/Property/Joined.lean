import Lookup.Proofs.Property.Budget
import Lookup.Time.Almanac

/-!
# Texts made of several placeholders

A text is one placeholder as soon as it has the two marks at its ends, whatever stands between them. So two
placeholders, one after the other and with any text between them, are read as one placeholder. Its key runs on
to the first colon of them all, and what follows that colon is its default. A key that holds such a text has the
value of that longer key, or else that default, which is a fragment of the text. Only a text that does not
start with the opening mark, or does not end in the closing one, stands for itself.

## Main definitions

* `Placeholder.IsPlain` — placeholders without braces in their keys and defaults
* `Placeholder.joined` — what two placeholders with a text between them are read as
* `Resolver.AnswersAs` — what is answered for a key whose text is a placeholder

## Main results

* `Placeholder.read_joined` — several placeholders are read as one
* `Resolver.get_joined_eq` — what is answered for a key that holds several placeholders
-/

namespace Lookup.Placeholder

open Text

variable {p q : Placeholder} {between start text : String}

/-- A placeholder with a key that neither is empty nor holds a colon, and without braces in its key and its
default. -/
structure IsPlain (p : Placeholder) : Prop where
  key_ne : p.key ≠ ""
  colon_notMem : ':' ∉ p.key.toList
  opening_notMem : '\x7b' ∉ p.body
  closing_notMem : '\x7d' ∉ p.body

/-- What the texts of two placeholders with a text between them are read as. The key ends at the first colon,
which stands in the first placeholder, between the two, in the second one, or nowhere. -/
def joined (p : Placeholder) (between : String) (q : Placeholder) : Placeholder :=
  match p.default?, cut ':' between.toList with
  | some text, _ => ⟨p.key, some (text ++ "\x7d" ++ between ++ "$\x7b" ++ String.ofList q.body)⟩
  | none, some (front, back) =>
    ⟨p.key ++ "\x7d" ++ String.ofList front, some (String.ofList back ++ "$\x7b" ++ String.ofList q.body)⟩
  | none, none => ⟨p.key ++ "\x7d" ++ between ++ "$\x7b" ++ q.key, q.default?⟩

/-- Where the first colon stands, with the placeholder that the whole is read as. -/
theorem joined_cases (p : Placeholder) (between : String) (q : Placeholder) :
    (∃ text, p.default? = some text ∧
      p.joined between q = ⟨p.key, some (text ++ "\x7d" ++ between ++ "$\x7b" ++ String.ofList q.body)⟩) ∨
    (∃ front back, p.default? = none ∧ ':' ∉ front ∧ between.toList = front ++ ':' :: back ∧
      p.joined between q = ⟨p.key ++ "\x7d" ++ String.ofList front,
        some (String.ofList back ++ "$\x7b" ++ String.ofList q.body)⟩) ∨
    (p.default? = none ∧ ':' ∉ between.toList ∧
      p.joined between q = ⟨p.key ++ "\x7d" ++ between ++ "$\x7b" ++ q.key, q.default?⟩) := by
  cases hdefault : p.default? with
  | some text => exact .inl ⟨text, rfl, by simp only [joined, hdefault]⟩
  | none =>
    cases hcut : cut ':' between.toList with
    | some parts =>
      obtain ⟨hcolon, hbetween⟩ := cut_eq_some_iff.1 hcut
      exact .inr (.inl ⟨parts.1, parts.2, rfl, hcolon, hbetween, by simp only [joined, hdefault, hcut]⟩)
    | none => exact .inr (.inr ⟨rfl, cut_eq_none_iff.1 hcut, by simp only [joined, hdefault, hcut]⟩)

/-- Nothing is lost or added. -/
theorem render_joined (p : Placeholder) (between : String) (q : Placeholder) :
    (p.joined between q).render = p.render ++ between ++ q.render := by
  apply String.toList_inj.1
  rcases joined_cases p between q with ⟨text, hdefault, hjoined⟩ | ⟨front, back, hdefault, -, hbetween, hjoined⟩ |
    ⟨hdefault, -, hjoined⟩
  · rw [hjoined]
    simp [toList_render, body, hdefault]
  · rw [hjoined]
    simp [toList_render, body, hdefault, hbetween]
  · rw [hjoined]
    simp [toList_render, body, hdefault]

theorem joined_key_ne (hp : p.IsPlain) : (p.joined between q).key ≠ "" := by
  rcases joined_cases p between q with ⟨text, -, hjoined⟩ | ⟨front, back, -, -, -, hjoined⟩ | ⟨-, -, hjoined⟩
  · rw [hjoined]
    exact hp.key_ne
  · rw [hjoined]
    simp [hp.key_ne]
  · rw [hjoined]
    simp [hp.key_ne]

theorem colon_notMem_joined_key (hp : p.IsPlain) (hq : q.IsPlain) : ':' ∉ (p.joined between q).key.toList := by
  rcases joined_cases p between q with ⟨text, -, hjoined⟩ | ⟨front, back, -, hfront, -, hjoined⟩ |
    ⟨-, hbetween, hjoined⟩
  · rw [hjoined]
    exact hp.colon_notMem
  · rw [hjoined]
    simp [hp.colon_notMem, hfront]
  · rw [hjoined]
    simp [hp.colon_notMem, hbetween, hq.colon_notMem]

/-- Two placeholders with any text between them are read as one. -/
theorem read_joined (between : String) (hp : p.IsPlain) (hq : q.IsPlain) :
    read (p.render ++ between ++ q.render) = .placeholder (p.joined between q) :=
  read_eq_placeholder_iff.2
    ⟨joined_key_ne hp, colon_notMem_joined_key hp hq, (render_joined p between q).symm⟩

/-! ### The key and the default -/

/-- The default is less than the whole. -/
theorem default_ne_render (h : p.default? = some text) : text ≠ p.render := by
  rintro rfl
  have hbody : p.render.toList.length < p.body.length := by
    rw [body, h, List.length_append, List.length_cons]
    omega
  have hlength : p.render.toList.length = p.body.length + 3 := by simp [toList_render]
  omega

/-- A text does not start with the opening mark if it starts with one that has no brace and goes on with
another character. -/
theorem read_eq_literal_of_start (rest : List Char) (hstart : start ≠ "") (hopening : '\x7b' ∉ start.toList)
    (hrest : rest.head? ≠ some '\x7b') (htext : text.toList = start.toList ++ rest) : read text = .literal := by
  rw [read_eq_literal_iff]
  rintro ⟨⟨more, hmore⟩, -⟩
  rw [htext] at hmore
  cases hchars : start.toList with
  | nil => exact hstart (by simpa using hchars)
  | cons c chars =>
    rw [hchars] at hmore hopening
    -- The brace is the second character, so that it stands in the start or directly behind it.
    cases chars with
    | nil =>
      simp only [List.cons_append, List.nil_append, List.cons.injEq] at hmore
      exact hrest (by rw [← hmore.2]; rfl)
    | cons d chars =>
      simp only [List.cons_append, List.nil_append, List.cons.injEq] at hmore
      obtain ⟨-, rfl, -⟩ := hmore
      exact hopening (List.mem_cons_of_mem _ List.mem_cons_self)

theorem opening_notMem_key (hp : p.IsPlain) : '\x7b' ∉ p.key.toList :=
  fun hmem => hp.opening_notMem (List.mem_append_left _ hmem)

/-- The longer key is no placeholder. -/
theorem read_joined_key (hp : p.IsPlain) : read (p.joined between q).key = .literal := by
  have hstart := opening_notMem_key hp
  rcases joined_cases p between q with ⟨text, -, hjoined⟩ | ⟨front, back, -, -, -, hjoined⟩ | ⟨-, -, hjoined⟩
  · rw [hjoined]
    exact read_eq_literal_of_start [] hp.key_ne hstart (by simp) (by simp)
  · rw [hjoined]
    exact read_eq_literal_of_start ('\x7d' :: front) hp.key_ne hstart (by simp) (by simp)
  · rw [hjoined]
    exact read_eq_literal_of_start ('\x7d' :: (between.toList ++ '$' :: '\x7b' :: q.key.toList)) hp.key_ne hstart
      (by simp) (by simp)

/-- A text that goes on with something without a closing mark does not end in one. -/
theorem read_eq_literal_of_end (front : List Char) {rest : List Char} (hrest : rest ≠ [])
    (hclosing : '\x7d' ∉ rest) (htext : text.toList = front ++ rest) : read text = .literal := by
  rw [read_eq_literal_iff]
  rintro ⟨-, hend⟩
  rw [htext, List.singleton_suffix_iff_getLast?_eq_some, List.getLast?_append_of_ne_nil _ hrest] at hend
  exact hclosing (List.mem_of_getLast? hend)

/-- The default is no placeholder, since the closing mark is left out of it. -/
theorem read_joined_default (hq : q.IsPlain) (h : (p.joined between q).default? = some text) :
    read text = .literal := by
  have hbody : q.body ≠ [] := by simp [body, hq.key_ne]
  rcases joined_cases p between q with ⟨first, -, hjoined⟩ | ⟨front, back, -, -, -, hjoined⟩ | ⟨-, -, hjoined⟩
  · rw [hjoined] at h
    obtain rfl := Option.some.inj h
    exact read_eq_literal_of_end (first.toList ++ '\x7d' :: between.toList ++ ['$', '\x7b']) hbody
      hq.closing_notMem (by simp)
  · rw [hjoined] at h
    obtain rfl := Option.some.inj h
    exact read_eq_literal_of_end (back ++ ['$', '\x7b']) hbody hq.closing_notMem (by simp)
  · rw [hjoined] at h
    have hdefault : q.default? = some text := h
    have htext : ':' :: text.toList <:+ q.body := ⟨q.key.toList, by rw [body, hdefault]⟩
    rw [read_eq_literal_iff]
    exact fun hmarked => hq.closing_notMem
      (htext.subset (List.mem_cons_of_mem _ (hmarked.2.subset List.mem_cons_self)))

/-- A placeholder behind something that does not start with the opening mark is none. -/
theorem read_append_render (hstart : start ≠ "") (hopening : ¬ ['$', '\x7b'] <+: start.toList) :
    read (start ++ p.render) = .literal := by
  rw [read_eq_literal_iff]
  rintro ⟨hmarked, -⟩
  rw [String.toList_append, toList_render] at hmarked
  cases hchars : start.toList with
  | nil => exact hstart (by simpa using hchars)
  | cons c chars =>
    rw [hchars] at hmarked hopening
    cases chars with
    | nil => simp at hmarked
    | cons d chars =>
      apply hopening
      simpa using hmarked

end Lookup.Placeholder

namespace Lookup.Resolver

open Store

variable {ε : Type} {p q : Placeholder} {key : String}

/-- What is answered for a key whose text is a placeholder with a plain key and a plain default: what looking up
the key of the placeholder comes to from there, or its default, or that its key is missing. -/
inductive AnswersAs (resolver : Resolver ε) (key : String) (p : Placeholder) :
    Except (Failure ε) (Option String) → Prop
  | present {value : String} (stored : resolver.store.get? p.key = some value) :
      AnswersAs resolver key p
        ((resolver.store.lookUp (resolver.store.expandWithin (expansionLimit - 1)) [key] p.key).mapError
          ResolveError.failure)
  | default {text : String} (absent : resolver.store.get? p.key = none) (hasDefault : p.default? = some text) :
      AnswersAs resolver key p (.ok (some text))
  | missing (absent : resolver.store.get? p.key = none) (noDefault : p.default? = none) :
      AnswersAs resolver key p (.error (ResolveError.missing p.key).failure)

/-- If the key of the placeholder is absent, its default is answered. -/
theorem AnswersAs.eq_default {resolver : Resolver ε} {result : Except (Failure ε) (Option String)} {text : String}
    (h : resolver.AnswersAs key p result) (absent : resolver.store.get? p.key = none)
    (hasDefault : p.default? = some text) : result = .ok (some text) := by
  cases h with
  | present stored => simp [absent] at stored
  | default _ hasDefault' => rw [← hasDefault, ← hasDefault']
  | missing _ noDefault => simp [hasDefault] at noDefault

theorem get_of_stored_literal {resolver : Resolver ε} {text : String} (plain : Placeholder.read key = .literal)
    (stored : resolver.store.get? key = some text) (reads : Placeholder.read text = .literal) :
    resolver.get key none = .ok (some text) := by
  rw [get, resolve_eq_runWithin, runWithin_lookUp_stored plain List.not_mem_nil stored,
    runWithin_evaluate_literal reads]
  rfl

/-- A key whose text is a placeholder answers as that placeholder does. -/
theorem answersAs_of_stored {resolver : Resolver ε} {text : String} (plain : Placeholder.read key = .literal)
    (stored : resolver.store.get? key = some text) (reads : Placeholder.read text = .placeholder p)
    (hkey : Placeholder.read p.key = .literal)
    (hdefault : ∀ text, p.default? = some text → Placeholder.read text = .literal) :
    resolver.AnswersAs key p (resolver.get key none) := by
  have hget : resolver.get key none =
      (resolver.store.runWithin (expansionLimit - 1 + 1) [key] (.expand p)).mapError ResolveError.failure := by
    rw [get, resolve_eq_runWithin, runWithin_lookUp_stored plain List.not_mem_nil stored,
      runWithin_evaluate_placeholder reads]
    rfl
  rw [hget]
  cases hstored : resolver.store.get? p.key with
  | some value =>
    have hpresent : resolver.store.runWithin (expansionLimit - 1) [key] (.lookUp p.key) ≠ .ok none := by
      simp [runWithin_lookUp_eq_none_iff, hstored]
    rw [runWithin_expand_present rfl hpresent]
    exact .present hstored
  | none =>
    -- The key itself is in the store, so the absent one is another one.
    have hne : p.key ∉ [key] := by
      rw [List.mem_singleton]
      rintro rfl
      simp [stored] at hstored
    have habsent : resolver.store.runWithin (expansionLimit - 1) [key] (.lookUp p.key) = .ok none :=
      runWithin_lookUp_absent hkey hne hstored
    cases htext : p.default? with
    | none =>
      rw [runWithin_expand_missing habsent htext]
      exact .missing hstored htext
    | some text =>
      rw [runWithin_expand_default habsent htext, runWithin_evaluate_literal (hdefault text htext)]
      exact .default hstored htext

/-- Two placeholders with any text between them are read as one, with a longer key or a default that is a
fragment of the whole, and a key that holds them answers as that one. A placeholder behind something that does
not start with the opening mark stands for itself, and so does a key that holds it. -/
theorem get_joined_eq (resolver : Resolver ε) (between : String) (hp : p.IsPlain) (hq : q.IsPlain) :
    Placeholder.read (p.render ++ between ++ q.render) = .placeholder (p.joined between q) ∧
    (∀ text, (p.joined between q).default? = some text →
      text.toList <:+: (p.render ++ between ++ q.render).toList ∧ text ≠ p.render ++ between ++ q.render) ∧
    (∀ key, Placeholder.read key = .literal →
      resolver.store.get? key = some (p.render ++ between ++ q.render) →
        resolver.AnswersAs key (p.joined between q) (resolver.get key none)) ∧
    (∀ start, start ≠ "" → ¬ ['$', '\x7b'] <+: start.toList →
      Placeholder.read (start ++ p.render) = .literal ∧
      ∀ key, Placeholder.read key = .literal → resolver.store.get? key = some (start ++ p.render) →
        resolver.get key none = .ok (some (start ++ p.render))) := by
  have hreads := Placeholder.read_joined between hp hq
  refine ⟨hreads, fun text hdefault => ?_, fun key plain stored => ?_, fun start hstart hopening => ?_⟩
  · rw [← Placeholder.render_joined]
    exact ⟨Placeholder.default_isInfix_render hdefault, Placeholder.default_ne_render hdefault⟩
  · exact answersAs_of_stored plain stored hreads (Placeholder.read_joined_key hp)
      fun text hdefault => Placeholder.read_joined_default hq hdefault
  · have hliteral := Placeholder.read_append_render (p := p) hstart hopening
    exact ⟨hliteral, fun key plain stored => get_of_stored_literal plain stored hliteral⟩

/-- A store with a host, a port, a key that holds both and a key that holds one behind other text. -/
def hostStore : Store :=
  .ofList [("host", "h"), ("port", "80"), ("url", "$\x7bhost\x7d:$\x7bport\x7d"), ("note", "at $\x7bhost\x7d")]

theorem isPlain_host : (⟨"host", none⟩ : Placeholder).IsPlain := by
  constructor <;> decide

theorem isPlain_port : (⟨"port", none⟩ : Placeholder).IsPlain := by
  constructor <;> decide

/-- A host and a port with a colon between them are read as one placeholder, whose key runs on to that colon. As
there is no such key, what is answered is the rest in front of the closing mark. -/
theorem get_joined_hostStore :
    Placeholder.read "$\x7bhost\x7d:$\x7bport\x7d" = .placeholder ⟨"host\x7d", some "$\x7bport"⟩ ∧
    (⟨hostStore, .builtin Time.almanac⟩ : Resolver Empty).get "url" none = .ok (some "$\x7bport") ∧
    (⟨hostStore, .builtin Time.almanac⟩ : Resolver Empty).get "note" none = .ok (some "at $\x7bhost\x7d") := by
  have plain : Placeholder.read "url" = .literal ∧ Placeholder.read "note" = .literal := by decide
  obtain ⟨hreads, -, hanswers, hliteral⟩ :=
    get_joined_eq (⟨hostStore, .builtin Time.almanac⟩ : Resolver Empty) ":" isPlain_host isPlain_port
  refine ⟨hreads, ?_, ?_⟩
  · have habsent : hostStore.get? "host\x7d" = none := by decide
    exact (hanswers "url" plain.1 get?_ofList).eq_default habsent rfl
  · obtain ⟨-, hnote⟩ := hliteral "at " (by decide) (by decide)
    exact hnote "note" plain.2 get?_ofList

/-- Several placeholders do not stand for themselves, and a key that holds them does not have them as its
value. -/
theorem not_forall_get_joined_verbatim :
    (¬ ∀ (p q : Placeholder) (between : String), p.IsPlain → q.IsPlain →
      Placeholder.read (p.render ++ between ++ q.render) = .literal) ∧
    (¬ ∀ (p q : Placeholder) (between : String), p.IsPlain → q.IsPlain →
      ∀ (resolver : Resolver Empty) (key : String), Placeholder.read key = .literal →
        resolver.store.get? key = some (p.render ++ between ++ q.render) →
          resolver.get key none = .ok (some (p.render ++ between ++ q.render))) := by
  constructor
  · intro h
    exact absurd (h _ _ ":" isPlain_host isPlain_port) (by decide)
  · intro h
    have hurl := h _ _ ":" isPlain_host isPlain_port ⟨hostStore, .builtin Time.almanac⟩ "url" (by decide) get?_ofList
    have hresolve : hostStore.resolve "url" = .ok (some "$\x7bport") := by decide +kernel
    rw [get, hresolve] at hurl
    exact absurd (Option.some.inj (Except.ok.inj hurl)) (by decide)

end Lookup.Resolver
