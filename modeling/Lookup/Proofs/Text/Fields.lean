import Mathlib.Data.List.Basic
import Mathlib.Data.List.TakeWhile
import Lookup.Text.Basic

/-!
# Fields, exchanging, cutting, runs and trimming

Fields and joins are the splits and intercalations of the standard library, so that parts without the
separator are found again in their join. What does not occur in a text is neither exchanged in it nor
does it cut the text, and trimming leaves alone a text whose ends are of another class.

## Main results

* `fields_join` — the fields of joined parts are the parts
* `nil_mem_fields_iff` — when a field is empty
* `toList_intercalate_singleton` — joining strings joins their characters
* `split_intercalate_singleton` — the parts of joined strings are the strings
* `exchange_eq_self`, `notMem_exchange` — what exchanging characters keeps and takes away
* `cut_append`, `cutAt_append` — a text is cut at a mark that does not occur before
* `takeWhile_append_eq` — where a run of characters ends
* `trimBoth_eq_self`, `trimBoth_append`, `exists_trimBoth` — what trimming keeps and takes off
-/

namespace Lookup.Text

variable {c : Char} {text start rest : List Char} {parts : List (List Char)}

/-! ### Fields and joins -/

theorem fields_eq_splitOn (c : Char) (text : List Char) : fields c text = text.splitOn c := by
  induction text with
  | nil => rfl
  | cons d rest ih =>
    rw [List.splitOn_cons_eq_if_modifyHead, fields, ih]
    by_cases h : d = c
    · simp [h]
    · simp only [if_neg h, beq_eq_false_iff_ne.2 h, Bool.false_eq_true, if_false]
      cases hs : rest.splitOn c with
      | nil => exact absurd hs (List.splitOn_ne_nil c rest)
      | cons first others => rfl

theorem join_eq_intercalate (separator : List Char) (parts : List (List Char)) :
    join separator parts = separator.intercalate parts := by
  induction parts with
  | nil => rfl
  | cons part rest ih =>
    cases rest with
    | nil => simp [join]
    | cons next rest => simp [join, ih]

/-- Parts without the separator are the fields of their join. -/
theorem fields_join (hparts : ∀ part ∈ parts, c ∉ part) (hne : parts ≠ []) :
    fields c (join [c] parts) = parts := by
  rw [fields_eq_splitOn, join_eq_intercalate, List.splitOn_intercalate c hparts hne]

theorem fields_cons_self (c : Char) (text : List Char) :
    fields c (c :: text) = [] :: fields c text := if_pos rfl

theorem notMem_of_mem_fields {part : List Char} (h : part ∈ fields c text) : c ∉ part := by
  induction text generalizing part with
  | nil =>
    obtain rfl : part = [] := by simpa [fields] using h
    exact List.not_mem_nil
  | cons d rest ih =>
    rw [fields] at h
    by_cases hd : d = c
    · rw [if_pos hd] at h
      rcases List.mem_cons.1 h with rfl | h
      · exact List.not_mem_nil
      · exact ih h
    · rw [if_neg hd] at h
      cases hf : fields c rest with
      | nil => exact absurd hf (fields_ne_nil c rest)
      | cons first others =>
        rw [hf] at h
        rcases List.mem_cons.1 h with rfl | h
        · have hfirst : c ∉ first := ih (hf ▸ List.mem_cons_self)
          exact fun hmem => (List.mem_cons.1 hmem).elim (fun heq => hd heq.symm) hfirst
        · exact ih (hf ▸ List.mem_cons_of_mem _ h)

/-- The first field is empty exactly if nothing stands in front of the first separator. -/
theorem head?_fields_eq_nil_iff : (fields c text).head? = some [] ↔ text = [] ∨ text.head? = some c := by
  cases text with
  | nil => simp [fields]
  | cons d rest =>
    rw [fields]
    by_cases hd : d = c
    · simp [hd]
    · cases hrest : fields c rest with
      | nil => exact absurd hrest (fields_ne_nil c rest)
      | cons first others => simp [hd]

theorem nil_mem_fields_iff_tail :
    [] ∈ fields c text ↔ text = [] ∨ text.head? = some c ∨ [] ∈ (fields c text).tail := by
  rw [← or_assoc, ← head?_fields_eq_nil_iff]
  cases hfields : fields c text with
  | nil => exact absurd hfields (fields_ne_nil c text)
  | cons first others => simp [eq_comm]

theorem tail_fields_cons_of_ne {d : Char} (h : d ≠ c) : (fields c (d :: text)).tail = (fields c text).tail := by
  rw [fields, if_neg h]
  cases htext : fields c text with
  | nil => exact absurd htext (fields_ne_nil c text)
  | cons first others => rfl

theorem doubled_infix_cons_iff {d : Char} :
    [c, c] <:+: d :: text ↔ d = c ∧ text.head? = some c ∨ [c, c] <:+: text := by
  rw [List.infix_cons_iff, List.cons_prefix_cons]
  cases text <;> simp [@eq_comm _ c]

/-- A later field is empty exactly if the text ends in a separator, or if one stands right behind another. -/
theorem nil_mem_tail_fields_iff :
    [] ∈ (fields c text).tail ↔ text.getLast? = some c ∨ [c, c] <:+: text := by
  induction text with
  | nil => simp [fields]
  | cons d rest ih =>
    rw [doubled_infix_cons_iff]
    by_cases hd : d = c
    · rw [hd, fields_cons_self, List.tail_cons, nil_mem_fields_iff_tail, ih]
      cases rest with
      | nil => simp
      | cons e rest =>
        rw [List.getLast?_cons_cons]
        simp only [reduceCtorEq, false_or, true_and]
        exact or_left_comm
    · rw [tail_fields_cons_of_ne hd, ih]
      cases rest <;> simp [hd]

/-- No field is empty exactly if separators stand only between other characters. -/
theorem nil_mem_fields_iff : [] ∈ fields c text ↔
    text = [] ∨ text.head? = some c ∨ text.getLast? = some c ∨ [c, c] <:+: text := by
  rw [nil_mem_fields_iff_tail, nil_mem_tail_fields_iff]

theorem join_cons_of_ne_nil {separator part : List Char} (h : parts ≠ []) :
    join separator (part :: parts) = part ++ separator ++ join separator parts := by
  cases parts with
  | nil => exact absurd rfl h
  | cons next rest => rfl

theorem join_append {separator : List Char} {parts' : List (List Char)} (h : parts ≠ [])
    (h' : parts' ≠ []) :
    join separator (parts ++ parts') = join separator parts ++ separator ++ join separator parts' := by
  induction parts with
  | nil => exact absurd rfl h
  | cons part rest ih =>
    cases rest with
    | nil => simp [join_cons_of_ne_nil h', join]
    | cons next rest =>
      rw [List.cons_append, join_cons_of_ne_nil (by simp), join_cons_of_ne_nil (by simp),
        ih (by simp)]
      simp only [List.append_assoc]

/-- A join starts as its first part does. -/
theorem head?_join_cons {separator part : List Char} (h : part ≠ []) :
    (join separator (part :: parts)).head? = part.head? := by
  cases parts with
  | nil => rfl
  | cons next rest =>
    rw [join_cons_of_ne_nil (by simp), List.append_assoc, List.head?_append_of_ne_nil _ h]

/-- A join ends as its last part does. -/
theorem getLast?_join_concat {separator part : List Char} (h : part ≠ []) :
    (join separator (parts ++ [part])).getLast? = part.getLast? := by
  cases parts with
  | nil => rfl
  | cons first rest =>
    rw [join_append (by simp) (by simp), List.getLast?_append_of_ne_nil _ (by simpa [join] using h)]
    rfl

/-- A character of a join is one of the separator or of a part. -/
theorem mem_join {separator : List Char} {d : Char} (h : d ∈ join separator parts) :
    d ∈ separator ∨ ∃ part ∈ parts, d ∈ part := by
  induction parts with
  | nil => exact absurd h List.not_mem_nil
  | cons part rest ih =>
    cases rest with
    | nil => exact .inr ⟨part, List.mem_cons_self, h⟩
    | cons next rest =>
      rw [join_cons_of_ne_nil (by simp), List.append_assoc] at h
      rcases List.mem_append.1 h with h | h
      · exact .inr ⟨part, List.mem_cons_self, h⟩
      rcases List.mem_append.1 h with h | h
      · exact .inl h
      · exact (ih h).imp_right fun ⟨p, hp, hd⟩ => ⟨p, List.mem_cons_of_mem _ hp, hd⟩

/-- A part's characters are those of the join. -/
theorem mem_join_of_mem {separator part : List Char} {d : Char} (hpart : part ∈ parts)
    (hd : d ∈ part) : d ∈ join separator parts := by
  induction parts with
  | nil => exact absurd hpart List.not_mem_nil
  | cons first rest ih =>
    cases rest with
    | nil => exact List.mem_singleton.1 hpart ▸ hd
    | cons next rest =>
      rw [join_cons_of_ne_nil (by simp)]
      rcases List.mem_cons.1 hpart with rfl | hpart
      · exact List.mem_append_left _ (List.mem_append_left _ hd)
      · exact List.mem_append_right _ (ih hpart)

theorem toList_intercalate_singleton (c : Char) (names : List String) :
    (String.intercalate (String.singleton c) names).toList = join [c] (names.map String.toList) := by
  rw [String.toList_intercalate, String.toList_singleton, join_eq_intercalate]

theorem toList_intercalate_eq_join (names : List String) :
    (String.intercalate "/" names).toList = join ['/'] (names.map String.toList) :=
  toList_intercalate_singleton '/' names

/-- Strings without the separator are the parts of their join. -/
theorem split_intercalate_singleton {names : List String} (hnames : ∀ name ∈ names, c ∉ name.toList)
    (hne : names ≠ []) : split c (String.intercalate (String.singleton c) names) = names := by
  rw [split, toList_intercalate_singleton, fields_join (by simpa using hnames) (by simpa using hne)]
  simp [Function.comp_def]

theorem split_intercalate {names : List String} (hnames : ∀ name ∈ names, '/' ∉ name.toList)
    (hne : names ≠ []) : split '/' (String.intercalate "/" names) = names :=
  split_intercalate_singleton hnames hne

theorem endsWith_slash_iff {text : String} :
    endsWith "/" text = true ↔ text.toList.getLast? = some '/' := by
  rw [endsWith, List.isSuffixOf_iff_suffix, List.getLast?_eq_some_iff]
  exact ⟨fun ⟨start, h⟩ => ⟨start, h.symm⟩, fun ⟨start, h⟩ => ⟨start, h.symm⟩⟩

/-- A text without the separator is its only field. -/
theorem fields_eq_singleton (h : c ∉ text) : fields c text = [text] := by
  have hfields : fields c (join [c] [text]) = [text] := fields_join (by simpa using h) (by simp)
  exact hfields

/-! ### Exchanging -/

theorem notMem_exchange {old new : Char} (hne : old ≠ new) (text : List Char) :
    old ∉ exchange old new text := by
  intro h
  obtain ⟨c, -, hc⟩ := List.mem_map.1 h
  by_cases hold : c = old
  · rw [if_pos hold] at hc
    exact hne hc.symm
  · rw [if_neg hold] at hc
    exact hold hc

theorem mem_of_mem_exchange {old new : Char} (h : c ∈ exchange old new text) :
    c = new ∨ c ∈ text := by
  obtain ⟨d, hd, rfl⟩ := List.mem_map.1 h
  by_cases hold : d = old
  · exact .inl (if_pos hold)
  · rw [if_neg hold]
    exact .inr hd

theorem exchange_eq_self {old new : Char} (h : old ∉ text) :
    exchange old new text = text := by
  rw [exchange, List.map_congr_left (g := id), List.map_id]
  intro c hc
  have hne : c ≠ old := fun heq => h (heq ▸ hc)
  exact if_neg hne

/-! ### Cutting -/

theorem cut_append (h : c ∉ start) : cut c (start ++ c :: rest) = some (start, rest) :=
  cut_eq_some_iff.2 ⟨h, rfl⟩

/-- A text is cut at a mark whose first character does not occur before. -/
theorem cutAt_append {mark : List Char} (h : c ∉ start) :
    cutAt (c :: mark) (start ++ (c :: mark) ++ rest) = some (start, rest) := by
  induction start with
  | nil => simp [cutAt]
  | cons d start ih =>
    obtain ⟨hd, hstart⟩ := not_or.1 (mt List.mem_cons.2 h)
    have hfront : (c :: mark).isPrefixOf (d :: (start ++ (c :: mark) ++ rest)) = false := by
      simp [List.isPrefixOf, hd]
    rw [List.cons_append, List.cons_append, cutAt, hfront, ih hstart]
    rfl

/-! ### Runs of one class -/

/-- What comes behind a run of characters of one class is told by its first character. -/
theorem takeWhile_append_eq (p : Char → Bool) (h : ∀ c ∈ text, p c = true)
    (hrest : ∀ c ∈ rest.head?, p c = false) :
    (text ++ rest).takeWhile p = text ∧ (text ++ rest).dropWhile p = rest := by
  rw [List.takeWhile_append_of_pos h, List.dropWhile_append_of_pos h]
  cases rest with
  | nil => simp
  | cons c more =>
    have hc : ¬ p c = true := by simp [hrest c rfl]
    rw [List.takeWhile_cons_of_neg hc, List.dropWhile_cons_of_neg hc, List.append_nil]
    exact ⟨rfl, rfl⟩

/-! ### Trimming -/

variable {drop : Char → Bool}

theorem length_trimEnd_le (text : List Char) : (trimEnd drop text).length ≤ text.length := by
  simpa [trimEnd] using List.length_dropWhile_le drop text.reverse

/-- Trimming does not lengthen. -/
theorem length_trimBoth_le (text : List Char) : (trimBoth drop text).length ≤ text.length :=
  Nat.le_trans (length_trimEnd_le _) (List.length_dropWhile_le drop text)

theorem dropWhile_eq_self (h : ∀ d ∈ text.head?, drop d = false) : text.dropWhile drop = text := by
  cases text with
  | nil => rfl
  | cons d text => simp [h d rfl]

theorem trimEnd_eq_self (h : ∀ d ∈ text.getLast?, drop d = false) : trimEnd drop text = text := by
  rw [trimEnd, dropWhile_eq_self (by rwa [List.head?_reverse]), List.reverse_reverse]

/-- A text with other characters at its ends is kept. -/
theorem trimBoth_eq_self (hfirst : ∀ d ∈ text.head?, drop d = false)
    (hlast : ∀ d ∈ text.getLast?, drop d = false) : trimBoth drop text = text := by
  rw [trimBoth, dropWhile_eq_self hfirst, trimEnd_eq_self hlast]

theorem trimEnd_append {back : List Char} (h : ∀ c ∈ back, drop c = true) :
    trimEnd drop (text ++ back) = trimEnd drop text := by
  rw [trimEnd, List.reverse_append, List.dropWhile_append_of_pos fun c hc => h c (List.mem_reverse.1 hc), trimEnd]

/-- What stands around a text of other characters is taken off. -/
theorem trimBoth_append {front back : List Char} (hfront : ∀ c ∈ front, drop c = true)
    (hback : ∀ c ∈ back, drop c = true) (htext : ∀ c ∈ text, drop c = false) :
    trimBoth drop (front ++ text ++ back) = text := by
  have hlast : ∀ d ∈ text.getLast?, drop d = false := fun d hd => htext d (List.mem_of_getLast? hd)
  rw [trimBoth, List.append_assoc, List.dropWhile_append_of_pos hfront]
  cases text with
  | nil => rw [List.nil_append, List.dropWhile_eq_nil_iff.2 hback, trimEnd, List.reverse_nil, List.dropWhile_nil]; rfl
  | cons d text =>
    rw [dropWhile_eq_self (by simpa using htext d List.mem_cons_self), trimEnd_append hback, trimEnd_eq_self hlast]

/-- What is taken off at the end is of the class. -/
theorem exists_trimEnd (drop : Char → Bool) (text : List Char) :
    ∃ back, (∀ c ∈ back, drop c = true) ∧ text = trimEnd drop text ++ back := by
  refine ⟨(text.reverse.takeWhile drop).reverse,
    fun c hc => List.mem_takeWhile_imp (List.mem_reverse.1 hc), ?_⟩
  rw [trimEnd, ← List.reverse_append, List.takeWhile_append_dropWhile, List.reverse_reverse]

/-- What trimming takes off is of the class. -/
theorem exists_trimBoth (drop : Char → Bool) (text : List Char) :
    ∃ front back, (∀ c ∈ front, drop c = true) ∧ (∀ c ∈ back, drop c = true) ∧
      text = front ++ trimBoth drop text ++ back := by
  obtain ⟨back, hback, hrest⟩ := exists_trimEnd drop (text.dropWhile drop)
  refine ⟨text.takeWhile drop, back, fun _ => List.mem_takeWhile_imp, hback, ?_⟩
  rw [trimBoth, List.append_assoc, ← hrest, List.takeWhile_append_dropWhile]

/-! ### Bytes -/

/-- A text has at least as many bytes as characters. -/
theorem length_le_utf8ByteSize (chars : List Char) :
    chars.length ≤ (String.ofList chars).utf8ByteSize := by
  induction chars with
  | nil => exact Nat.zero_le _
  | cons c rest ih =>
    have hc := Char.utf8Size_pos c
    rw [← List.singleton_append, String.ofList_append, String.utf8ByteSize_append,
      ← String.singleton_eq_ofList, String.utf8ByteSize_singleton, List.length_append,
      List.length_singleton]
    omega

end Lookup.Text
