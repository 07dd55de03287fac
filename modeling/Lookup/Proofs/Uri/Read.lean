import Lookup.Proofs.Text.Fields
import Lookup.Proofs.Uri.Percent
import Lookup.Uri.Basic

/-!
# Schemes, hosts and paths of URIs

A scheme is read from its letters in either case. A host can only stand before a path that is empty or
starts with a slash. Decoding yields a slash first exactly if the encoded text starts with a slash or with
the escape of one.

## Main definitions

* `cleaned`, `pathPart` — what reading a URI ignores in front of the path and behind it
* `HasSlashFirst` — an encoded text starts with a slash

## Main results

* `takeScheme_eq_iff` — which texts have a scheme of small letters
* `read_eq_ok_iff` — which texts are read as a URI
* `head?_pathPart_takeHost` — the path after a host starts with a slash
* `head?_decodePercent_eq_slash_iff` — which texts are decoded to one that starts with a slash
-/

namespace Lookup.Uri

open Text

/-- A text without what is ignored in a URI: control characters and spaces in front, tabs and line ends
anywhere. -/
def cleaned (text : List Char) : List Char :=
  (text.dropWhile fun c => c.toNat ≤ 32).filter fun c => c ∉ ['\t', '\r', '\n']

/-- What stands before a query and a fragment. -/
def pathPart (text : List Char) : List Char := text.takeWhile fun c => c ∉ ['?', '#']

/-- An encoded text starts with a slash, which may be an escape. -/
def HasSlashFirst (text : List Char) : Prop :=
  ∃ slash ∈ ["/".toList, "%2F".toList, "%2f".toList], slash <+: text

instance (text : List Char) : Decidable (HasSlashFirst text) :=
  inferInstanceAs (Decidable (∃ slash ∈ _, slash <+: text))

variable {text rest scheme host path : List Char} {c d : Char}

/-! ### Schemes -/

theorem isAlpha_of_isLower_toLower (h : c.toLower.isLower = true) : c.isAlpha = true := by
  unfold Char.toLower at h
  refine Bool.or_eq_true_iff.2 ?_
  split at h
  · next hcapital => exact .inl (decide_eq_true hcapital)
  · exact .inr h

theorem isSchemeChar_of_isAlpha (h : c.isAlpha = true) : isSchemeChar c = true := by
  simp [isSchemeChar, Char.isAlphanum, h]

/-- A scheme of small letters is read where a text has it, in letters of either case, before its first
colon. -/
theorem takeScheme_eq_iff (hne : scheme ≠ []) (hscheme : ∀ c ∈ scheme, c.isLower = true) :
    takeScheme text = (scheme, rest) ↔
      ∃ written, text = written ++ ':' :: rest ∧ written.map Char.toLower = scheme := by
  constructor
  · intro h
    rw [takeScheme] at h
    split at h
    · next c more after hcut =>
      split_ifs at h
      · obtain ⟨rfl, rfl⟩ := Prod.mk.inj h
        exact ⟨c :: more, (cut_eq_some_iff.1 hcut).2, rfl⟩
      · exact absurd (Prod.mk.inj h).1.symm hne
    · exact absurd (Prod.mk.inj h).1.symm hne
  · rintro ⟨written, rfl, rfl⟩
    have hletters : ∀ c ∈ written, c.isAlpha = true := fun c hc =>
      isAlpha_of_isLower_toLower (hscheme _ (List.mem_map_of_mem hc))
    have hcolon : ':' ∉ written := fun hc => absurd (hletters _ hc) (by decide)
    obtain ⟨c, more, rfl⟩ := List.exists_cons_of_ne_nil (mt List.map_eq_nil_iff.2 hne)
    have hall : (c :: more).all isSchemeChar = true :=
      List.all_eq_true.2 fun d hd => isSchemeChar_of_isAlpha (hletters d hd)
    rw [takeScheme, cut_append hcolon]
    simp only [hletters c List.mem_cons_self, hall, Bool.and_self, if_true]

/-! ### Hosts -/

theorem takeHost_of_not_prefix (h : ¬ "//".toList <+: text) : takeHost text = ([], text) := by
  rw [takeHost]
  rintro rest rfl
  exact h (List.prefix_append "//".toList rest)

/-- The path after a host starts with a slash where there is one. -/
theorem head?_pathPart_takeHost (h : "//".toList <+: text) (hne : pathPart (takeHost text).2 ≠ []) :
    (pathPart (takeHost text).2).head? = some '/' := by
  obtain ⟨rest, rfl⟩ := h
  have hpath : (takeHost ("//".toList ++ rest)).2 = rest.dropWhile fun c => c ∉ ['/', '?', '#'] := by
    change (rest.span _).2 = _
    rw [List.span_eq_takeWhile_dropWhile]
  rw [hpath] at hne ⊢
  match hrest : rest.dropWhile fun c => c ∉ ['/', '?', '#'] with
  | [] =>
    rw [hrest] at hne
    exact absurd rfl hne
  | c :: path =>
    rw [hrest] at hne
    have hstop : c ∈ ['/', '?', '#'] := by
      have hnot := List.head?_dropWhile_not (fun c => decide (c ∉ ['/', '?', '#'])) rest
      rw [hrest] at hnot
      exact of_not_not (of_decide_eq_false hnot)
    rcases List.mem_cons.1 hstop with rfl | hend
    · rfl
    · have hnil : pathPart (c :: path) = [] :=
        List.takeWhile_cons_of_neg fun hc => of_decide_eq_true hc hend
      exact absurd hnil hne

/-! ### Parts -/

/-- A text is read as a URI exactly if its host is in order. -/
theorem read_eq_ok_iff {uri : Uri} :
    read text = .ok uri ↔
      (hostFault? (takeHost (takeScheme (cleaned text)).2).1 = none ∧
        equivalentFault? (takeHost (takeScheme (cleaned text)).2).1 = none) ∧
      uri = ⟨String.ofList (takeScheme (cleaned text)).1,
        String.ofList (takeHost (takeScheme (cleaned text)).2).1,
        String.ofList (pathPart (takeHost (takeScheme (cleaned text)).2).2)⟩ := by
  simp only [read, cleaned, pathPart]
  split
  · next hbroken => simp only [hbroken, reduceCtorEq, false_and]
  · next hdoubtful => simp only [hdoubtful, reduceCtorEq, and_false, false_and]
  · next hbroken hdoubtful =>
    simp only [hbroken, hdoubtful, Except.ok.injEq, and_self, true_and]
    exact eq_comm

/-! ### The first character of a path -/

/-- The digits of a slash. -/
theorem hexValue?_slash {n : Nat} (h : hexValue? c = some n) :
    n < 16 ∧ (n = 2 → c = '2') ∧ (n = 15 → c = 'F' ∨ c = 'f') := by
  have htable : ∀ k < 128, ∀ n ∈ hexValue? (Char.ofNat k),
      n < 16 ∧ (n = 2 → Char.ofNat k = '2') ∧ (n = 15 → Char.ofNat k = 'F' ∨ Char.ofNat k = 'f') := by
    decide +kernel
  have hlt := toNat_lt_of_hexValue? (Option.isSome_of_eq_some h)
  simpa using htable c.toNat hlt n (by simpa using h)

theorem hasSlashFirst_iff :
    HasSlashFirst text ↔
      text.head? = some '/' ∨ ∃ b more, (b = 'F' ∨ b = 'f') ∧ text = '%' :: '2' :: b :: more := by
  constructor
  · rintro ⟨slash, hslash, more, rfl⟩
    simp only [List.mem_cons, List.not_mem_nil, or_false] at hslash
    obtain rfl | rfl | rfl := hslash
    · exact .inl rfl
    · exact .inr ⟨'F', more, .inl rfl, rfl⟩
    · exact .inr ⟨'f', more, .inr rfl, rfl⟩
  · rintro (hhead | ⟨b, more, rfl | rfl, rfl⟩)
    · obtain ⟨more, rfl⟩ := List.head?_eq_some_iff.1 hhead
      exact ⟨"/".toList, by simp, List.prefix_append "/".toList more⟩
    · exact ⟨"%2F".toList, by simp, List.prefix_append "%2F".toList more⟩
    · exact ⟨"%2f".toList, by simp, List.prefix_append "%2f".toList more⟩

/-- The first byte of an encoded stretch is that of a slash exactly if the stretch starts with one. -/
theorem head?_percentBytes_eq_slash_iff (h : ∀ c ∈ text, c.toNat < 128) :
    (percentBytes text).head? = some (UInt8.ofNat '/'.toNat) ↔ HasSlashFirst text := by
  rw [hasSlashFirst_iff]
  fun_cases percentBytes text with
  | case1 => simp
  | case2 a b rest high low hlow hhigh =>
    obtain ⟨ha, htwo, -⟩ := hexValue?_slash hhigh
    obtain ⟨hb, -, hfifteen⟩ := hexValue?_slash hlow
    have hbyte : UInt8.ofNat (high * 16 + low) = UInt8.ofNat '/'.toNat ↔ high * 16 + low = 47 := by
      rw [← UInt8.toNat_inj, toNat_ofNat_of_lt (by omega)]
      rfl
    rw [List.head?_cons, Option.some_inj, hbyte]
    constructor
    · intro hsum
      exact .inr ⟨b, rest, hfifteen (by omega), by rw [htwo (by omega)]⟩
    · rintro (hhead | ⟨b', more, hb', htext⟩)
      · simp at hhead
      · simp only [List.cons.injEq, true_and] at htext
        obtain ⟨rfl, rfl, rfl⟩ := htext
        obtain rfl := Option.some.inj hhigh
        rcases hb' with rfl | rfl
        · obtain rfl := Option.some.inj hlow
          rfl
        · obtain rfl := Option.some.inj hlow
          rfl
  | case3 a b rest hhex =>
    simp only [List.head?_cons, Option.some_inj]
    constructor
    · intro hbyte
      exact absurd hbyte (by decide)
    · rintro (hhead | ⟨b', more, hb', htext⟩)
      · exact absurd hhead (by decide)
      · simp only [List.cons.injEq, true_and] at htext
        obtain ⟨rfl, rfl, rfl⟩ := htext
        rcases hb' with rfl | rfl
        · exact absurd rfl (hhex 2 15 rfl)
        · exact absurd rfl (hhex 2 15 rfl)
  | case4 c rest hshape =>
    have hc : c.toNat < 128 := h c List.mem_cons_self
    rw [List.head?_cons, List.head?_cons, Option.some_inj, Option.some_inj, ← UInt8.toNat_inj,
      toNat_ofNat_of_lt (by omega), toNat_ofNat_of_lt (by decide), Char.toNat_inj]
    refine ⟨.inl, ?_⟩
    rintro (hc | ⟨b, more, -, htext⟩)
    · exact hc
    · obtain ⟨rfl, rfl⟩ := List.cons.inj htext
      exact absurd rfl (hshape '2' b more rfl)

/-- What a stretch starts with does not depend on what comes after a character that is not ASCII. -/
theorem hasSlashFirst_append_cons_iff (hc : ¬ c.toNat < 128) :
    HasSlashFirst (text ++ c :: rest) ↔ HasSlashFirst text := by
  refine exists_congr fun slash => and_congr_right fun hslash => ?_
  have hnot : c ∉ slash := by
    have hascii : ∀ slash ∈ ["/".toList, "%2F".toList, "%2f".toList], ∀ d ∈ slash, d.toNat < 128 := by
      simp
    exact fun hmem => hc (hascii slash hslash c hmem)
  refine ⟨fun hfirst => ?_, fun hfirst => hfirst.trans (List.prefix_append _ _)⟩
  rcases List.prefix_or_prefix_of_prefix hfirst (List.prefix_append text (c :: rest)) with hin | hout
  · exact hin
  · obtain ⟨more, rfl⟩ := hout
    cases more with
    | nil => simp
    | cons d more =>
      rw [List.prefix_append_right_inj, List.cons_prefix_cons] at hfirst
      exact absurd (by simp [hfirst.1]) hnot

theorem head?_decode_percentBytes_eq_slash_iff (h : ∀ c ∈ text, c.toNat < 128) :
    (decodeUtf8Lossy (percentBytes text)).head? = some '/' ↔ HasSlashFirst text := by
  rw [head?_decodeUtf8Lossy_eq_iff (by decide) (by decide), head?_percentBytes_eq_slash_iff h]

theorem head?_decodeFrom_eq_slash_iff {held : List Char} (hheld : ∀ c ∈ held, c.toNat < 128) :
    (decodeFrom held text).head? = some '/' ↔ HasSlashFirst (held.reverse ++ text) := by
  induction text generalizing held with
  | nil =>
    rw [decodeFrom, List.append_nil, head?_decode_percentBytes_eq_slash_iff (by simpa using hheld)]
  | cons c rest ih =>
    by_cases hc : c.toNat < 128
    · have hcons : ∀ d ∈ c :: held, d.toNat < 128 := List.forall_mem_cons.2 ⟨hc, hheld⟩
      rw [decodeFrom, if_pos hc, ih hcons, List.reverse_cons, List.append_assoc,
        List.singleton_append]
    · have hslash : ¬ c = '/' := fun heq => hc (by rw [heq]; decide)
      rw [decodeFrom, if_neg hc, hasSlashFirst_append_cons_iff hc,
        ← head?_decode_percentBytes_eq_slash_iff (by simpa using hheld)]
      cases decodeUtf8Lossy (percentBytes held.reverse) with
      | nil => simpa using hslash
      | cons d decoded => rfl

/-- An encoded text is decoded to one that starts with a slash exactly if it starts with one itself. -/
theorem head?_decodePercent_eq_slash_iff : (decodePercent text).head? = some '/' ↔ HasSlashFirst text :=
  head?_decodeFrom_eq_slash_iff (by simp)

end Lookup.Uri
