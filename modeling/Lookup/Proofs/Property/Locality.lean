import Lookup.Proofs.Property.Loop
import Lookup.Time.Almanac

/-!
# What a query depends on

A query looks up plain keys in its store, each at most once, and depends on nothing else there: another
store that has the same texts under these keys answers it in the same way, be that a value or an error. The
default of a placeholder is evaluated only after the key has been found absent. So a default behind a key that
is plain and in the store may be any text, wherever the placeholder stands.

## Main definitions

* `Store.Consults`, `Store.QueryConsults` — a task and a query look up a plain key
* `Store.Alike` — tasks that differ only in defaults that are not evaluated
* `Store.DoneAlike` — a task is done in the same way in another store

## Main results

* `Store.doneAlike_lookUp`, `Store.doneAlike_evaluate` — a task depends only on what it looks up
* `Resolver.get_eq_of_alike` — a query depends only on what it looks up, apart from unused defaults
* `Resolver.get_eq_of_consulted` — what follows for stores, for defaults and for environments
-/

namespace Lookup.Store

variable {store other : Store} {task : Task} {budget : Nat} {chain : List String}

/-! ### The keys that are looked up -/

/-- A task under the guards looks up a plain key in the store, be it there or not. -/
inductive Consults (store : Store) : Nat → List String → Task → String → Prop
  /-- A plain key is looked up unless it is refused as a repeated one. -/
  | here {budget chain key} (reads : Placeholder.read key = .literal) (new : key ∉ chain) :
      Consults store budget chain (.lookUp key) key
  | lookUpPlaceholder {budget chain key p consulted} (reads : Placeholder.read key = .placeholder p)
      (consults : Consults store budget chain (.expand p) consulted) :
      Consults store budget chain (.lookUp key) consulted
  | lookUpStored {budget chain key text consulted} (reads : Placeholder.read key = .literal)
      (new : key ∉ chain) (stored : store.get? key = some text)
      (consults : Consults store budget (chain ++ [key]) (.evaluate text) consulted) :
      Consults store budget chain (.lookUp key) consulted
  | evaluatePlaceholder {budget chain text p consulted} (reads : Placeholder.read text = .placeholder p)
      (consults : Consults store budget chain (.expand p) consulted) :
      Consults store budget chain (.evaluate text) consulted
  | expandKey {budget chain p consulted} (consults : Consults store budget chain (.lookUp p.key) consulted) :
      Consults store (budget + 1) chain (.expand p) consulted
  /-- What the default looks up counts only where the key is found absent. -/
  | expandDefault {budget chain p text consulted}
      (absent : store.runWithin budget chain (.lookUp p.key) = .ok none) (hasDefault : p.default? = some text)
      (consults : Consults store budget chain (.evaluate text) consulted) :
      Consults store (budget + 1) chain (.expand p) consulted

/-- A query looks up a plain key: for its own key, or for its default where its own key is absent. -/
def QueryConsults (store : Store) (key : String) (default? : Option String) (consulted : String) : Prop :=
  store.Consults expansionLimit [] (.lookUp key) consulted ∨
    ∃ text, default? = some text ∧ store.resolve key = .ok none ∧
      store.Consults expansionLimit [] (.evaluate text) consulted

/-- A plain key in the store is looked up itself, and then its text looks up keys. -/
theorem Consults.of_lookUp_stored {key text consulted : String}
    (h : store.Consults budget chain (.lookUp key) consulted) (reads : Placeholder.read key = .literal)
    (stored : store.get? key = some text) :
    consulted = key ∨ store.Consults budget (chain ++ [key]) (.evaluate text) consulted := by
  cases h with
  | here => exact .inl rfl
  | lookUpPlaceholder reads' => simp [reads] at reads'
  | lookUpStored _ _ stored' consults =>
    rw [stored, Option.some.injEq] at stored'
    exact .inr (stored' ▸ consults)

theorem Consults.of_evaluate {text consulted : String} {p : Placeholder}
    (h : store.Consults budget chain (.evaluate text) consulted)
    (reads : Placeholder.read text = .placeholder p) : store.Consults budget chain (.expand p) consulted := by
  cases h with
  | evaluatePlaceholder reads' consults =>
    rw [reads, Placeholder.Reading.placeholder.injEq] at reads'
    exact reads' ▸ consults

theorem not_consults_literal {text consulted : String} (reads : Placeholder.read text = .literal) :
    ¬ store.Consults budget chain (.evaluate text) consulted := by
  rintro (_ | _ | _ | ⟨reads', -⟩)
  simp [reads] at reads'

/-! ### Defaults that are not evaluated -/

/-- Two tasks are the same apart from defaults of placeholders whose keys are plain and in the store. -/
inductive Alike (store : Store) : Task → Task → Prop
  | same {t : Task} : Alike store t t
  | lookUp {key key' p p'} (reads : Placeholder.read key = .placeholder p)
      (reads' : Placeholder.read key' = .placeholder p') (alike : Alike store (.expand p) (.expand p')) :
      Alike store (.lookUp key) (.lookUp key')
  | evaluate {text text' p p'} (reads : Placeholder.read text = .placeholder p)
      (reads' : Placeholder.read text' = .placeholder p') (alike : Alike store (.expand p) (.expand p')) :
      Alike store (.evaluate text) (.evaluate text')
  /-- Behind a key that is plain and in the store any default may be taken for any other, or for none. -/
  | unused {p p' : Placeholder} (keys : p'.key = p.key) (plain : Placeholder.read p.key = .literal)
      (stored : store.get? p.key ≠ none) : Alike store (.expand p) (.expand p')
  /-- A default of any other placeholder may hold such a placeholder in turn. -/
  | default {p p' : Placeholder} {text text'} (keys : p'.key = p.key) (hasDefault : p.default? = some text)
      (hasDefault' : p'.default? = some text') (alike : Alike store (.evaluate text) (.evaluate text')) :
      Alike store (.expand p) (.expand p')

/-- There are two texts that are evaluated alike, or none on both sides. -/
def AlikeTexts (store : Store) : Option String → Option String → Prop :=
  Option.Rel fun text text' => store.Alike (.evaluate text) (.evaluate text')

theorem AlikeTexts.refl (store : Store) (text? : Option String) : store.AlikeTexts text? text? := by
  cases text? with
  | none => exact .none
  | some text => exact .some .same

theorem AlikeTexts.eq_none {text? : Option String} (h : store.AlikeTexts none text?) : text? = none := by
  cases h
  rfl

theorem AlikeTexts.exists_eq_some {text : String} {text? : Option String}
    (h : store.AlikeTexts (some text) text?) :
    ∃ text', text? = some text' ∧ store.Alike (.evaluate text) (.evaluate text') := by
  cases h with
  | some alike => exact ⟨_, rfl, alike⟩

/-- Placeholders that are alike have one key. Their defaults are alike unless the key is plain and in the
store. -/
theorem Alike.of_expand {p p' : Placeholder} (h : store.Alike (.expand p) (.expand p')) :
    p'.key = p.key ∧ ((Placeholder.read p.key = .literal ∧ store.get? p.key ≠ none) ∨
      store.AlikeTexts p.default? p'.default?) := by
  cases h with
  | same => exact ⟨rfl, .inr (.refl store p.default?)⟩
  | unused keys plain stored => exact ⟨keys, .inl ⟨plain, stored⟩⟩
  | default keys hasDefault hasDefault' alike =>
    rw [hasDefault, hasDefault']
    exact ⟨keys, .inr (.some alike)⟩

/-- A key that is plain and in the store is not found absent, however placeholders are expanded. -/
theorem lookUp_ne_none {key : String} (plain : Placeholder.read key = .literal)
    (stored : store.get? key ≠ none) (expand : Expansion) (chain : List String) :
    store.lookUp expand chain key ≠ .ok none := by
  obtain ⟨text, htext⟩ := Option.ne_none_iff_exists'.1 stored
  rw [lookUp, plain]
  dsimp only
  split
  · simp
  · rw [htext]
    cases hvalue : evaluate expand (chain ++ [key]) text with
    | error error => simp [hvalue, Except.map]
    | ok value => simp [hvalue, Except.map]

/-- A default is not asked for behind a key that is plain and in the store, however placeholders are
expanded. -/
theorem answer_eq_of_stored {p p' : Placeholder} (keys : p'.key = p.key)
    (plain : Placeholder.read p.key = .literal) (stored : store.get? p.key ≠ none) (expand : Expansion)
    (chain : List String) : store.answer expand chain p' = store.answer expand chain p := by
  have hpresent := lookUp_ne_none plain stored expand chain
  rw [answer, answer, keys]
  cases hlookUp : store.lookUp expand chain p.key with
  | error error => rfl
  | ok value? =>
    cases value? with
    | none => exact absurd hlookUp hpresent
    | some value => rfl

/-- Behind a key that is plain and in the store, nothing is looked up for a default. -/
theorem Consults.of_expand_stored {p : Placeholder} {consulted : String}
    (h : store.Consults (budget + 1) chain (.expand p) consulted)
    (plain : Placeholder.read p.key = .literal) (stored : store.get? p.key ≠ none) :
    store.Consults budget chain (.lookUp p.key) consulted := by
  cases h with
  | expandKey consults => exact consults
  | expandDefault absent => exact absurd absent (lookUp_ne_none plain stored _ chain)

/-! ### Tasks in two stores -/

/-- A task comes to the same in another store, and so do tasks that are like it, if the other store has the
same texts under the keys that are looked up, or texts that are alike. -/
def DoneAlike (store other : Store) (budget : Nat) (task : Task) : Prop :=
  ∀ chain task', store.Alike task task' →
    (∀ key, store.Consults budget chain task key → store.AlikeTexts (store.get? key) (other.get? key)) →
    other.runWithin budget chain task' = store.runWithin budget chain task

section

variable (hexpand : ∀ p, store.DoneAlike other budget (.expand p))
include hexpand

theorem doneAlike_evaluate (text : String) : store.DoneAlike other budget (.evaluate text) := by
  intro chain task' halike hkeys
  cases halike with
  | same =>
    cases reads : Placeholder.read text with
    | literal => rw [runWithin_evaluate_literal reads, runWithin_evaluate_literal reads]
    | keyless => rw [runWithin_evaluate_keyless reads, runWithin_evaluate_keyless reads]
    | placeholder p =>
      rw [runWithin_evaluate_placeholder reads, runWithin_evaluate_placeholder reads]
      exact hexpand p chain _ .same fun key hkey => hkeys key (.evaluatePlaceholder reads hkey)
  | evaluate reads reads' alike =>
    rw [runWithin_evaluate_placeholder reads, runWithin_evaluate_placeholder reads']
    exact hexpand _ chain _ alike fun key hkey => hkeys key (.evaluatePlaceholder reads hkey)

theorem doneAlike_lookUp (key : String) : store.DoneAlike other budget (.lookUp key) := by
  intro chain task' halike hkeys
  cases halike with
  | lookUp reads reads' alike =>
    rw [runWithin_lookUp_placeholder reads, runWithin_lookUp_placeholder reads']
    exact hexpand _ chain _ alike fun key hkey => hkeys key (.lookUpPlaceholder reads hkey)
  | same =>
    cases reads : Placeholder.read key with
    | keyless => rw [runWithin_lookUp_keyless reads, runWithin_lookUp_keyless reads]
    | placeholder p =>
      rw [runWithin_lookUp_placeholder reads, runWithin_lookUp_placeholder reads]
      exact hexpand p chain _ .same fun key hkey => hkeys key (.lookUpPlaceholder reads hkey)
    | literal =>
      by_cases hchain : key ∈ chain
      · rw [runWithin_lookUp_seen reads hchain, runWithin_lookUp_seen reads hchain]
      · -- The key itself is looked up, so that both stores have it or neither has.
        have htexts := hkeys key (.here reads hchain)
        cases stored : store.get? key with
        | none =>
          have stored' := (stored ▸ htexts).eq_none
          rw [runWithin_lookUp_absent reads hchain stored, runWithin_lookUp_absent reads hchain stored']
        | some text =>
          obtain ⟨text', stored', halike⟩ := (stored ▸ htexts).exists_eq_some
          rw [runWithin_lookUp_stored reads hchain stored, runWithin_lookUp_stored reads hchain stored']
          exact doneAlike_evaluate hexpand text _ _ halike fun key hkey =>
            hkeys key (.lookUpStored reads hchain stored hkey)

/-- One more expansion is allowed for a placeholder than for what it leads to. -/
theorem doneAlike_expand_succ (p : Placeholder) : store.DoneAlike other (budget + 1) (.expand p) := by
  intro chain task' halike hkeys
  obtain ⟨p', rfl⟩ : ∃ p', task' = .expand p' := by cases halike <;> exact ⟨_, rfl⟩
  obtain ⟨hkey, hdefaults⟩ := halike.of_expand
  have hlookUp : other.runWithin budget chain (.lookUp p'.key) =
      store.runWithin budget chain (.lookUp p.key) :=
    hkey ▸ doneAlike_lookUp hexpand p.key chain _ .same fun key hkey => hkeys key (.expandKey hkey)
  generalize hresult : store.runWithin budget chain (.lookUp p.key) = result at hlookUp
  by_cases present : result = .ok none
  · subst present
    rcases hdefaults with ⟨plain, stored⟩ | hdefaults
    · exact absurd hresult (lookUp_ne_none plain stored _ chain)
    · cases hasDefault : p.default? with
      | none =>
        have noDefault' := (hasDefault ▸ hdefaults).eq_none
        rw [runWithin_expand_missing hresult hasDefault, runWithin_expand_missing hlookUp noDefault', hkey]
      | some text =>
        obtain ⟨text', hasDefault', halike⟩ := (hasDefault ▸ hdefaults).exists_eq_some
        rw [runWithin_expand_default hresult hasDefault, runWithin_expand_default hlookUp hasDefault']
        exact doneAlike_evaluate hexpand text chain _ halike fun key hkey =>
          hkeys key (.expandDefault hresult hasDefault hkey)
  · rw [runWithin_expand_present hresult present, runWithin_expand_present hlookUp present]

end

theorem doneAlike_expand (budget : Nat) (p : Placeholder) : store.DoneAlike other budget (.expand p) := by
  induction budget generalizing p with
  | zero =>
    -- Nothing is looked up any more, and the keys of both placeholders are the same.
    intro chain task' halike _
    obtain ⟨p', rfl⟩ : ∃ p', task' = .expand p' := by cases halike <;> exact ⟨_, rfl⟩
    rw [runWithin_expand_zero, runWithin_expand_zero, halike.of_expand.1]
  | succ budget ih => exact doneAlike_expand_succ ih p

/-! ### Queries -/

theorem map_resolveOr_of_absent {key : String} (h : store.resolve key = .ok none) (text : String) :
    (store.resolveOr key text).map some = store.runWithin expansionLimit [] (.evaluate text) := by
  rw [resolveOr, h]
  rfl

theorem map_resolveOr_of_present {key : String} (h : store.resolve key ≠ .ok none) (text : String) :
    (store.resolveOr key text).map some = store.resolve key := by
  rw [resolveOr]
  cases hresolve : store.resolve key with
  | error error => rfl
  | ok value? =>
    cases value? with
    | none => exact absurd hresolve h
    | some value => rfl

end Lookup.Store

namespace Lookup.Resolver

open Store

variable {ε : Type}

/-- A query has the same answer in another store that has the same texts under the keys that it looks up.
Neither in these texts nor in the query do defaults matter that are not evaluated. -/
theorem get_eq_of_alike {resolver other : Resolver ε} {key key' : String} {default? default?' : Option String}
    (hkey : resolver.store.Alike (.lookUp key) (.lookUp key'))
    (hdefault : resolver.store.AlikeTexts default? default?')
    (htexts : ∀ k, resolver.store.QueryConsults key default? k →
      resolver.store.AlikeTexts (resolver.store.get? k) (other.store.get? k)) :
    other.get key' default?' = resolver.get key default? := by
  have hexpand : ∀ p, resolver.store.DoneAlike other.store expansionLimit (.expand p) :=
    doneAlike_expand expansionLimit
  have hresolve : other.store.resolve key' = resolver.store.resolve key :=
    doneAlike_lookUp hexpand key [] _ hkey fun k hk => htexts k (.inl hk)
  cases default? with
  | none =>
    rw [hdefault.eq_none, get, get, hresolve]
  | some text =>
    obtain ⟨text', rfl, halike⟩ := hdefault.exists_eq_some
    rw [get, get]
    by_cases habsent : resolver.store.resolve key = .ok none
    · rw [map_resolveOr_of_absent habsent, map_resolveOr_of_absent (hresolve.trans habsent)]
      exact congrArg _ (doneAlike_evaluate hexpand text [] _ halike fun k hk =>
        htexts k (.inr ⟨text, rfl, habsent, hk⟩))
    · rw [map_resolveOr_of_present habsent, map_resolveOr_of_present (hresolve ▸ habsent), hresolve]

/-- An answer is determined by the texts under the keys that a query looks up.

The default of a placeholder whose key is plain and in the store is not asked for, however placeholders are
expanded. So any such default may be taken for any other one, in the query as well as in the stored texts. And
an environment may have any texts under the keys of the settings that are put over it. -/
theorem get_eq_of_consulted (resolver : Resolver ε) (key : String) (default? : Option String) :
    (∀ other : Resolver ε,
      (∀ k, resolver.store.QueryConsults key default? k → other.store.get? k = resolver.store.get? k) →
        other.get key default? = resolver.get key default?) ∧
    (∀ p p' : Placeholder, p'.key = p.key → Placeholder.read p.key = .literal →
      resolver.store.get? p.key ≠ none → ∀ expand chain,
        resolver.store.answer expand chain p' = resolver.store.answer expand chain p) ∧
    (∀ (other : Resolver ε) (key' : String) (default?' : Option String),
      resolver.store.Alike (.lookUp key) (.lookUp key') →
      resolver.store.AlikeTexts default? default?' →
      (∀ k, resolver.store.AlikeTexts (resolver.store.get? k) (other.store.get? k)) →
        other.get key' default?' = resolver.get key default?) ∧
    (∀ (zones : Time.ZoneDatabase) (environment environment' settings : Store)
      (further : List (TypeKey × Converter ε)),
      (∀ k, settings.get? k = none → environment'.get? k = environment.get? k) →
        (build zones environment' settings further).bind (·.get key default?) =
          (build zones environment settings further).bind (·.get key default?)) := by
  have hsame : ∀ base other : Resolver ε,
      (∀ k, base.store.QueryConsults key default? k → other.store.get? k = base.store.get? k) →
        other.get key default? = base.get key default? := by
    intro base other htexts
    refine get_eq_of_alike .same (.refl _ _) fun k hk => ?_
    rw [htexts k hk]
    exact .refl _ _
  refine ⟨hsame resolver, ?_, ?_, ?_⟩
  · intro p p' keys plain stored expand chain
    exact answer_eq_of_stored keys plain stored expand chain
  · intro other key' default?' hkey hdefault htexts
    exact get_eq_of_alike hkey hdefault fun k _ => htexts k
  · intro zones environment environment' settings further hshadowed
    rw [build, build]
    cases Registry.build zones further with
    | error type => rfl
    | ok registry =>
      refine hsame ⟨environment.merge settings, registry⟩ ⟨environment'.merge settings, registry⟩ ?_
      intro k _
      dsimp only
      rw [get?_merge, get?_merge]
      -- A key of the settings has its text from there, and any other key the same text in both environments.
      cases hsetting : settings.get? k with
      | none => rw [hshadowed k hsetting]
      | some text => rfl

/-- A store with a default that is not evaluated. -/
def defaultStore : Store := .ofList [("a", "$\x7bb:$\x7bc\x7d\x7d"), ("b", "1")]

theorem get?_defaultStore : defaultStore.get? "a" = some "$\x7bb:$\x7bc\x7d\x7d" ∧
    defaultStore.get? "b" = some "1" := by decide +kernel

theorem read_defaultStore : Placeholder.read "a" = .literal ∧ Placeholder.read "b" = .literal ∧
    Placeholder.read "1" = .literal ∧
    Placeholder.read "$\x7bb:$\x7bc\x7d\x7d" = .placeholder ⟨"b", some "$\x7bc\x7d"⟩ ∧
    Placeholder.read "$\x7bb:$\x7b\x7d\x7d" = .placeholder ⟨"b", some "$\x7b\x7d"⟩ := by decide +kernel

/-- The key in the default is not looked up. -/
theorem consulted_defaultStore {k : String} (h : defaultStore.QueryConsults "a" none k) :
    k = "a" ∨ k = "b" := by
  obtain ⟨ha, hb⟩ := get?_defaultStore
  obtain ⟨reads, plain, literal, reads', -⟩ := read_defaultStore
  rcases h with h | ⟨text, htext, -⟩
  · rcases h.of_lookUp_stored reads ha with rfl | h
    · exact .inl rfl
    · have hkey := (h.of_evaluate reads').of_expand_stored plain (by simp [hb])
      rcases hkey.of_lookUp_stored plain hb with rfl | h
      · exact .inr rfl
      · exact absurd h (not_consults_literal literal)
  · cases htext

/-- The default may hold a key that refers to itself, or a placeholder without a key, and the environment may
refer to the settings. -/
theorem get_eq_defaultStore :
    ((⟨defaultStore.insert "c" "$\x7bc\x7d", .builtin Time.almanac⟩ : Resolver Empty).get "a" none = .ok (some "1")) ∧
    (defaultStore.answer defaultStore.expand [] ⟨"b", some "$\x7b\x7d"⟩ = .ok "1") ∧
    ((⟨defaultStore.insert "a" "$\x7bb:$\x7b\x7d\x7d", .builtin Time.almanac⟩ : Resolver Empty).get "a" none =
      .ok (some "1")) ∧
    ((build Time.almanac (Store.empty.insert "b" "$\x7ba\x7d") defaultStore [] : Except (Failure Empty) _).bind
      (·.get "a" none) = .ok (some "1")) := by
  obtain ⟨ha, hb⟩ := get?_defaultStore
  obtain ⟨-, plain, -, reads, reads'⟩ := read_defaultStore
  have hresolve : defaultStore.resolve "a" = .ok (some "1") := by decide +kernel
  have hget : (⟨defaultStore, .builtin Time.almanac⟩ : Resolver Empty).get "a" none = .ok (some "1") := by
    rw [get, hresolve]
    rfl
  obtain ⟨hsame, hanswer, halike, hshadowed⟩ :=
    get_eq_of_consulted (⟨defaultStore, .builtin Time.almanac⟩ : Resolver Empty) "a" none
  refine ⟨?_, ?_, ?_, ?_⟩
  · refine (hsame ⟨_, .builtin Time.almanac⟩ fun k hk => ?_).trans hget
    rw [get?_insert, if_neg]
    rcases consulted_defaultStore hk with rfl | rfl <;> decide
  · refine (hanswer ⟨"b", some "$\x7bc\x7d"⟩ _ rfl plain (by simp [hb]) defaultStore.expand []).trans ?_
    decide +kernel
  · refine (halike ⟨_, .builtin Time.almanac⟩ "a" none .same .none fun k => ?_).trans hget
    dsimp only
    rw [get?_insert]
    split
    · next hk =>
      rw [hk, ha]
      exact .some (.evaluate reads reads' (.unused rfl plain (by simp [hb])))
    · exact .refl _ _
  · refine (hshadowed Time.almanac .empty (Store.empty.insert "b" "$\x7ba\x7d") defaultStore [] fun k hk => ?_).trans ?_
    · rw [get?_insert, if_neg]
      rintro rfl
      simp [hb] at hk
    · have hmerged : (Store.empty.merge defaultStore).resolve "a" = .ok (some "1") := by decide +kernel
      have hbuild : (build Time.almanac .empty defaultStore [] : Except (Failure Empty) _) =
          .ok ⟨Store.empty.merge defaultStore, .builtin Time.almanac⟩ := rfl
      simp only [hbuild, Except.bind, get, hmerged, Except.mapError]

end Lookup.Resolver
