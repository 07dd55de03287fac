import Lookup.Proofs.Json.Decoder
import Lookup.Proofs.Json.Escaped
import Lookup.Proofs.Json.Numeral

/-!
# What a written document stands for

A document is written by the rules of the grammar unless it holds a number that is not finite. There is no
word for such a number in the grammar, so the text is no document then.

## Main definitions

* `Json.data?` — what a document stands for
* `Json.itemsText`, `Json.membersText` — what stands between brackets and braces

## Main results

* `isWritten_write`, `read_write_eq_none` — documents without and with a number that is not finite
* `decode?_render` — a written document is decoded as what it stands for
* `isDocument_render_iff` — when a written document is one
* `all_isPlain_write`, `isPlain_of_mem_render` — a written document has no control characters but line breaks
-/

namespace Lookup.Json

open Number Text

/-! ### What a document stands for -/

/-- What a number stands for. One that is not finite stands for nothing. -/
def numberData? : Binary → Option Data
  | .finite negative significand exponent =>
    some (.number (Binary.finite negative significand exponent).text)
  | _ => none

mutual

/-- What a document stands for. It stands for nothing if it holds a number that is not finite. -/
def data? : Json → Option Data
  | .null => some .null
  | .boolean value => some (.boolean value)
  | .integer value => some (.number (toString value))
  | .number value => numberData? value
  | .text value => some (.text value)
  | .array items => (itemsData? items).map .array
  | .object members => (membersData? members).map .object

/-- What the items of an array stand for. -/
def itemsData? : List Json → Option (List Data)
  | [] => some []
  | item :: rest => item.data?.bind fun data => (itemsData? rest).map fun found => data :: found

/-- What the members of an object stand for. -/
def membersData? : List (String × Json) → Option (List (String × Data))
  | [] => some []
  | (name, value) :: rest =>
    value.data?.bind fun data => (membersData? rest).map fun found => (name, data) :: found

end

/-- Items stand for what each of them does. -/
theorem itemsData?_map {α : Type} {item : α → Json} {found : α → Data}
    (h : ∀ a, (item a).data? = some (found a)) (list : List α) :
    itemsData? (list.map item) = some (list.map found) := by
  induction list with
  | nil => rfl
  | cons a rest ih =>
    rw [List.map_cons, itemsData?, h, ih]
    rfl

/-- Members stand for what each of their values does. -/
theorem membersData?_map {α : Type} {name : α → String} {value : α → Json} {found : α → Data}
    (h : ∀ a, (value a).data? = some (found a)) (list : List α) :
    membersData? (list.map fun a => (name a, value a)) = some (list.map fun a => (name a, found a)) := by
  induction list with
  | nil => rfl
  | cons a rest ih =>
    rw [List.map_cons, membersData?, h, ih]
    rfl

/-- What stands between the brackets of an array, but for the line break at the end. -/
def itemsText (depth : Nat) : List Json → List Char
  | [] => []
  | item :: rest => newLine depth ++ item.write depth ++ writeItems depth rest

/-- What stands between the braces of an object, but for the line break at the end. -/
def membersText (depth : Nat) : List (String × Json) → List Char
  | [] => []
  | (name, value) :: rest =>
    newLine depth ++ quoted name ++ ':' :: ' ' :: value.write depth ++ writeMembers depth rest

/-- What stands before a bracket or a brace at the end: nothing if there is nothing else between them. -/
def closing (depth : Nat) (empty : Bool) : List Char := if empty then [] else newLine depth

theorem isWhite_nil : IsWhite [] := List.forall_mem_nil _

theorem isWhite_space : IsWhite [' '] := by
  simp [IsWhite, isWhite]

theorem isWhite_newLine (depth : Nat) : IsWhite (newLine depth) := by
  refine List.forall_mem_cons.2 ⟨by decide, fun c hc => ?_⟩
  rw [List.eq_of_mem_replicate hc]
  decide

theorem isWhite_closing (depth : Nat) (empty : Bool) : IsWhite (closing depth empty) := by
  cases empty
  · exact isWhite_newLine depth
  · exact isWhite_nil

theorem write_array (depth : Nat) (items : List Json) :
    write depth (.array items) =
      '[' :: (itemsText (depth + 1) items ++ closing depth items.isEmpty) ++ [']'] := by
  cases items with
  | nil => rw [write]; rfl
  | cons item rest => rw [write]; simp [itemsText, closing]

theorem write_object (depth : Nat) (members : List (String × Json)) :
    write depth (.object members) =
      '\x7b' :: (membersText (depth + 1) members ++ closing depth members.isEmpty) ++ ['\x7d'] := by
  cases members with
  | nil => rw [write]; rfl
  | cons member rest => rw [write]; simp [membersText, closing]

theorem writeItems_cons (depth : Nat) (item : Json) (rest : List Json) :
    writeItems depth (item :: rest) = ',' :: itemsText depth (item :: rest) := by
  rw [writeItems]
  simp [itemsText]

theorem writeMembers_cons (depth : Nat) (member : String × Json) (rest : List (String × Json)) :
    writeMembers depth (member :: rest) = ',' :: membersText depth (member :: rest) := by
  rw [writeMembers]
  simp [membersText]

/-! ### Documents without a number that is not finite -/

theorem isWritten_numeral {value : Binary} {data : Data} (h : numberData? value = some data) :
    IsWritten (.value data) (numeral value).toList := by
  cases value with
  | nan => cases h
  | infinite negative => cases h
  | finite negative significand exponent =>
    obtain rfl := Option.some.inj h
    have hnumber := IsWritten.number (isNumber_text negative significand exponent)
    rwa [String.ofList_toList] at hnumber

mutual

/-- A document that stands for something is written by the rules of the grammar. -/
theorem isWritten_write : ∀ (json : Json) {data : Data}, json.data? = some data →
    ∀ depth : Nat, IsWritten (.value data) (json.write depth)
  | .null, _, h, depth => by
    obtain rfl := Option.some.inj h
    exact .word (by simp [words])
  | .boolean value, _, h, depth => by
    obtain rfl := Option.some.inj h
    cases value
    · exact .word (by simp [words])
    · exact .word (by simp [words])
  | .integer value, _, h, depth => by
    obtain rfl := Option.some.inj h
    have hnumber := IsWritten.number (isNumber_toString value)
    rwa [String.ofList_toList] at hnumber
  | .number value, _, h, depth => isWritten_numeral h
  | .text value, _, h, depth => by
    obtain rfl := Option.some.inj h
    exact .text (quotes_escaped value)
  | .array items, _, h, depth => by
    obtain ⟨found, hfound, rfl⟩ := Option.map_eq_some_iff.1 h
    rw [write_array]
    exact .array (isWritten_items items hfound (depth + 1) (isWhite_closing depth _))
  | .object members, _, h, depth => by
    obtain ⟨found, hfound, rfl⟩ := Option.map_eq_some_iff.1 h
    rw [write_object]
    exact .object (isWritten_members members hfound (depth + 1) (isWhite_closing depth _))

theorem isWritten_items : ∀ (items : List Json) {found : List Data}, itemsData? items = some found →
    ∀ (depth : Nat) {after : List Char}, IsWhite after →
      IsWritten (.items found) (itemsText depth items ++ after)
  | [], _, h, depth, after, hafter => by
    obtain rfl := Option.some.inj h
    exact .noItems hafter
  | item :: rest, _, h, depth, after, hafter => by
    obtain ⟨data, hitem, h⟩ := Option.bind_eq_some_iff.1 h
    obtain ⟨others, hrest, rfl⟩ := Option.map_eq_some_iff.1 h
    -- The white space before a bracket at the end belongs to the last item, before a comma there is none.
    have helement : ∀ {after : List Char}, IsWhite after →
        IsWritten (.element data) (newLine depth ++ item.write depth ++ after) :=
      .element (isWhite_newLine depth) (isWritten_write item hitem depth)
    have hothers := isWritten_items rest hrest depth hafter
    cases rest with
    | nil =>
      obtain rfl := Option.some.inj hrest
      rw [itemsText, writeItems, List.append_nil]
      exact .lastItem (helement hafter)
    | cons next more =>
      obtain ⟨nextData, -, hmore⟩ := Option.bind_eq_some_iff.1 hrest
      obtain ⟨moreData, -, rfl⟩ := Option.map_eq_some_iff.1 hmore
      rw [itemsText, writeItems_cons, List.append_assoc, List.cons_append,
        ← List.append_nil (newLine depth ++ item.write depth)]
      exact .nextItem (helement isWhite_nil) hothers

theorem isWritten_members : ∀ (members : List (String × Json)) {found : List (String × Data)},
    membersData? members = some found → ∀ (depth : Nat) {after : List Char}, IsWhite after →
      IsWritten (.members found) (membersText depth members ++ after)
  | [], _, h, depth, after, hafter => by
    obtain rfl := Option.some.inj h
    exact .noMembers hafter
  | (name, value) :: rest, _, h, depth, after, hafter => by
    obtain ⟨data, hvalue, h⟩ := Option.bind_eq_some_iff.1 h
    obtain ⟨others, hrest, rfl⟩ := Option.map_eq_some_iff.1 h
    have hmember : ∀ {after : List Char}, IsWhite after → IsWritten (.member (name, data))
        (newLine depth ++ quoted name ++ ':' :: ' ' :: value.write depth ++ after) := by
      intro after hafter
      have hwritten := IsWritten.member (isWhite_newLine depth) (quotes_escaped name) isWhite_nil
        (.element isWhite_space (isWritten_write value hvalue depth) hafter)
      simpa [quoted] using hwritten
    have hothers := isWritten_members rest hrest depth hafter
    cases rest with
    | nil =>
      obtain rfl := Option.some.inj hrest
      rw [membersText, writeMembers, List.append_nil]
      exact .lastMember (hmember hafter)
    | cons next more =>
      obtain ⟨nextData, -, hmore⟩ := Option.bind_eq_some_iff.1 hrest
      obtain ⟨moreData, -, rfl⟩ := Option.map_eq_some_iff.1 hmore
      rw [membersText, writeMembers_cons, List.append_assoc, List.cons_append,
        ← List.append_nil (newLine depth ++ quoted name ++ ':' :: ' ' :: value.write depth)]
      exact .nextMember (hmember isWhite_nil) hothers

end

/-! ### Documents with a number that is not finite -/

/-- What is no number by its first characters is not read as one, whatever stands behind it. -/
theorem read_numeral_eq_none {value : Binary} (h : numberData? value = none) (fuel : Nat)
    (rest : List Char) : read fuel ((numeral value).toList ++ rest) = none := by
  cases fuel with
  | zero => rw [read]
  | succ fuel =>
    cases value with
    | nan => rfl
    | infinite negative => cases negative <;> rfl
    | finite negative significand exponent => cases h

/-- A document begins with a character that is no white space and closes no array. -/
theorem exists_cons_write (json : Json) (depth : Nat) :
    ∃ c rest, json.write depth = c :: rest ∧ isWhite c = false ∧ c ≠ ']' := by
  have hnumber : ∀ {text : List Char}, IsNumber text →
      ∃ c rest, text = c :: rest ∧ isWhite c = false ∧ c ≠ ']' := by
    intro text htext
    obtain ⟨c, rest, rfl, hc⟩ := exists_cons_of_isNumber htext
    have hbegins := begins_of_number hc
    refine ⟨c, rest, rfl, isWhite_of_begins hbegins, ?_⟩
    rintro rfl
    exact absurd hbegins (by decide)
  cases json with
  | null => exact ⟨_, _, rfl, by decide, by decide⟩
  | boolean value => cases value <;> exact ⟨_, _, rfl, by decide, by decide⟩
  | integer value => exact hnumber (isNumber_toString value)
  | number value =>
    cases value with
    | nan => exact ⟨_, _, rfl, by decide, by decide⟩
    | infinite negative => cases negative <;> exact ⟨_, _, rfl, by decide, by decide⟩
    | finite negative significand exponent => exact hnumber (isNumber_text negative significand exponent)
  | text value => exact ⟨_, _, rfl, by decide, by decide⟩
  | array items => exact ⟨_, _, write_array depth items, by decide, by decide⟩
  | object members => exact ⟨_, _, write_object depth members, by decide, by decide⟩

/-- The name of a member is read up to behind the colon. -/
theorem readName_quoted (depth : Nat) (name : String) (rest : List Char) :
    readName (newLine depth ++ quoted name ++ ':' :: rest) = some (name, rest) := by
  have hcolon : skip (':' :: rest) = ':' :: rest := skip_eq_self (by simp; decide)
  have hquote : skip (doubleQuote :: (name.toList.flatMap escaped ++ doubleQuote :: ':' :: rest)) =
      doubleQuote :: (name.toList.flatMap escaped ++ doubleQuote :: ':' :: rest) :=
    skip_cons (by decide) _
  rw [readName, List.append_assoc, skip_append (isWhite_newLine depth), quoted]
  simp only [List.cons_append, List.append_assoc, List.nil_append, hquote, ne_eq, not_true_eq_false,
    if_false, readText_of_quotes (quotes_escaped name), Option.bind_some, hcolon, List.head?_cons,
    if_true, List.tail_cons]

/-- A value that stands for something is read with the white space in front of it. -/
theorem read_write {json : Json} {data : Data} (h : json.data? = some data) {depth fuel : Nat}
    {before rest : List Char} (hbefore : IsWhite before)
    (hfuel : before.length + (json.write depth).length < fuel) (hrest : Closes rest) :
    read fuel (before ++ json.write depth ++ rest) = some (data, rest) := by
  have hread : ReadsElement data (before ++ json.write depth ++ []) :=
    isReadAs (.element hbefore (isWritten_write json h depth) isWhite_nil)
  rw [List.append_nil] at hread
  exact hread fuel rest (by simpa using hfuel) hrest

mutual

/-- A document that stands for nothing is not read. -/
theorem read_write_eq_none : ∀ json : Json, json.data? = none → ∀ (depth fuel : Nat) (rest : List Char),
    (json.write depth).length < fuel → read fuel (json.write depth ++ rest) = none
  | .null, h, _, _, _, _ | .boolean _, h, _, _, _, _ | .integer _, h, _, _, _, _
  | .text _, h, _, _, _, _ => by cases h
  | .number value, h, depth, fuel, rest, _ => read_numeral_eq_none h fuel rest
  | .array items, h, depth, fuel, rest, hfuel => by
    rw [data?, Option.map_eq_none_iff] at h
    rw [write_array] at hfuel ⊢
    cases fuel with
    | zero => rw [read]
    | succ fuel =>
      cases items with
      | nil => cases h
      | cons item others =>
        -- The item behind the white space is not the end of the array.
        obtain ⟨c, more, hwrite, hwhite, hne⟩ := exists_cons_write item (depth + 1)
        simp only [List.length_append, List.length_cons] at hfuel
        have hitems := readItems_itemsText_eq_none (item :: others) h (depth + 1) fuel
          (closing depth (item :: others).isEmpty ++ ']' :: rest) (by omega)
        have hskip : ∀ text, skip (itemsText (depth + 1) (item :: others) ++ text) =
            c :: (more ++ writeItems (depth + 1) others ++ text) := by
          intro text
          rw [itemsText, List.append_assoc, List.append_assoc, skip_append (isWhite_newLine _), hwrite,
            List.cons_append, skip_eq_self (by simpa using hwhite), List.append_assoc]
        simp only [List.cons_append, List.append_assoc, List.nil_append]
        rw [read_cons (by decide), readValue, if_neg (by decide), if_pos rfl, hskip,
          if_neg (by simpa using hne), hitems]
        rfl
  | .object members, h, depth, fuel, rest, hfuel => by
    rw [data?, Option.map_eq_none_iff] at h
    rw [write_object] at hfuel ⊢
    cases fuel with
    | zero => rw [read]
    | succ fuel =>
      cases members with
      | nil => cases h
      | cons member others =>
        obtain ⟨name, value⟩ := member
        simp only [List.length_append, List.length_cons] at hfuel
        have hmembers := readMembers_membersText_eq_none ((name, value) :: others) h (depth + 1) fuel
          (closing depth ((name, value) :: others).isEmpty ++ '\x7d' :: rest) (by omega)
        have hskip : ∀ text, (skip (membersText (depth + 1) ((name, value) :: others) ++ text)).head? =
            some doubleQuote := by
          intro text
          simp only [membersText, quoted, List.append_assoc, List.cons_append]
          rw [skip_append (isWhite_newLine _), skip_cons (by decide), List.head?_cons]
        simp only [List.cons_append, List.append_assoc, List.nil_append]
        rw [read_cons (by decide), readValue, if_neg (by decide), if_neg (by decide), if_pos rfl, hskip,
          if_neg (by decide), hmembers]
        rfl

theorem readItems_itemsText_eq_none : ∀ items : List Json, itemsData? items = none →
    ∀ (depth fuel : Nat) (rest : List Char), (itemsText depth items).length + 1 < fuel →
      readItems fuel (itemsText depth items ++ rest) = none
  | [], h, _, _, _, _ => by cases h
  | item :: others, h, depth, fuel, rest, hfuel => by
    cases fuel with
    | zero => rw [readItems]
    | succ fuel =>
      rw [itemsText] at hfuel ⊢
      simp only [List.length_append] at hfuel
      rw [readItems]
      -- The first item that stands for nothing is where reading stops; those before it are read.
      cases hitem : item.data? with
      | none =>
        have hread := read_write_eq_none item hitem depth fuel (writeItems depth others ++ rest) (by omega)
        rw [List.append_assoc, List.append_assoc, read_append (isWhite_newLine depth), hread]
      | some data =>
        rw [itemsData?, hitem, Option.bind_some, Option.map_eq_none_iff] at h
        cases others with
        | nil => cases h
        | cons next more =>
          have hmore := readItems_itemsText_eq_none (next :: more) h depth fuel rest (by
            rw [writeItems_cons, List.length_cons] at hfuel
            omega)
          have hcloses : Closes (',' :: (itemsText depth (next :: more) ++ rest)) :=
            closes_cons (by simp) _
          rw [writeItems_cons, List.append_assoc, List.cons_append,
            read_write hitem (isWhite_newLine depth) (by omega) hcloses]
          simp only [if_true, hmore, Option.map_none]

theorem readMembers_membersText_eq_none : ∀ members : List (String × Json), membersData? members = none →
    ∀ (depth fuel : Nat) (rest : List Char), (membersText depth members).length + 1 < fuel →
      readMembers fuel (membersText depth members ++ rest) = none
  | [], h, _, _, _, _ => by cases h
  | (name, value) :: others, h, depth, fuel, rest, hfuel => by
    cases fuel with
    | zero => rw [readMembers]
    | succ fuel =>
      rw [membersText] at hfuel ⊢
      simp only [List.length_append, List.length_cons] at hfuel
      rw [List.append_assoc, List.append_assoc, List.cons_append, List.cons_append, ← List.append_assoc,
        readMembers, readName_quoted]
      simp only
      cases hvalue : value.data? with
      | none =>
        have hread := read_write_eq_none value hvalue depth fuel (writeMembers depth others ++ rest) (by omega)
        rw [List.append_assoc, ← List.singleton_append, read_append isWhite_space, hread]
      | some data =>
        rw [membersData?, hvalue, Option.bind_some, Option.map_eq_none_iff] at h
        cases others with
        | nil => cases h
        | cons next more =>
          have hmore := readMembers_membersText_eq_none (next :: more) h depth fuel rest (by
            rw [writeMembers_cons, List.length_cons] at hfuel
            omega)
          have hcloses : Closes (',' :: (membersText depth (next :: more) ++ rest)) :=
            closes_cons (by simp) _
          have hfit : [' '].length + (value.write depth).length < fuel := by
            rw [List.length_singleton]
            omega
          have hread := read_write hvalue isWhite_space hfit hcloses
          rw [writeMembers_cons, List.append_assoc, List.cons_append, ← List.singleton_append,
            ← List.append_assoc, hread]
          simp only [if_true, hmore, Option.map_none]

end

/-! ### Written documents -/

section Written

variable {json : Json} {data : Data} {after : String}

/-- A written document that stands for something is one. -/
theorem isDocument_render (h : json.data? = some data) (hafter : IsWhite after.toList) :
    IsDocument (json.render ++ after) data := by
  have hdocument := IsWritten.element isWhite_nil (isWritten_write json h 0) hafter
  rwa [IsDocument, String.toList_append, render, String.toList_ofList]

/-- A written document is decoded as what it stands for, and as nothing if it stands for nothing. -/
theorem decode?_render (json : Json) (hafter : IsWhite after.toList) :
    decode? (json.render ++ after) = json.data? := by
  cases hdata : json.data? with
  | some data => exact decode?_eq_some (isDocument_render hdata hafter)
  | none =>
    have hread := read_write_eq_none json hdata 0 ((json.render ++ after).length + 1) after.toList (by
      simp only [String.length_append, render, String.length_ofList]
      omega)
    rw [decode?, String.toList_append, render, String.toList_ofList, ← render, hread]

/-- A written document is one exactly if it stands for something. -/
theorem isDocument_render_iff (hafter : IsWhite after.toList) :
    IsDocument (json.render ++ after) data ↔ json.data? = some data := by
  refine ⟨fun h => ?_, fun h => isDocument_render h hafter⟩
  rw [← decode?_render json hafter, decode?_eq_some h]

end Written

/-! ### Characters -/

theorem isPlain_of_isNumeric {c : Char} (h : isNumeric c = true) : isPlain c = true := by
  simp only [isNumeric, Bool.or_eq_true, decide_eq_true_eq] at h
  rcases h with ((((h | rfl) | rfl) | rfl) | rfl) | rfl
  · have hrange : 48 ≤ c.toNat ∧ c.toNat ≤ 57 := by
      simpa [Char.isDigit, UInt32.le_iff_toNat_le] using h
    simp only [isPlain, within, Bool.or_eq_true, Bool.and_eq_true, decide_eq_true_eq]
    omega
  all_goals decide

theorem all_isPlain_of_isNumber {text : List Char} (h : IsNumber text) : text.all isPlain = true :=
  List.all_eq_true.2 fun c hc => isPlain_of_isNumeric (isNumeric_of_mem h c hc)

theorem all_isPlain_newLine (depth : Nat) : (newLine depth).all isPlain = true := by
  refine List.all_eq_true.2 (List.forall_mem_cons.2 ⟨by decide, fun c hc => ?_⟩)
  rw [List.eq_of_mem_replicate hc]
  decide

mutual

/-- A document is written in ASCII. -/
theorem all_isPlain_write : ∀ (json : Json) (depth : Nat), (json.write depth).all isPlain = true
  | .null, _ => rfl
  | .boolean value, _ => by cases value <;> rfl
  | .integer value, _ => all_isPlain_of_isNumber (isNumber_toString value)
  | .number value, _ => by
    cases value with
    | nan => rfl
    | infinite negative => cases negative <;> rfl
    | finite negative significand exponent =>
      exact all_isPlain_of_isNumber (isNumber_text negative significand exponent)
  | .text value, _ => all_isPlain_quoted value
  | .array [], _ => rfl
  | .array (item :: rest), depth => by
    rw [write]
    simp only [List.all_append, List.all_cons, all_isPlain_newLine, all_isPlain_write item,
      all_isPlain_writeItems rest]
    decide
  | .object [], _ => rfl
  | .object ((name, value) :: rest), depth => by
    rw [write]
    simp only [List.all_append, List.all_cons, all_isPlain_newLine, all_isPlain_quoted,
      all_isPlain_write value, all_isPlain_writeMembers rest]
    decide

theorem all_isPlain_writeItems : ∀ (items : List Json) (depth : Nat),
    (writeItems depth items).all isPlain = true
  | [], _ => rfl
  | item :: rest, depth => by
    rw [writeItems]
    simp only [List.all_append, List.all_cons, all_isPlain_newLine, all_isPlain_write item,
      all_isPlain_writeItems rest]
    decide

theorem all_isPlain_writeMembers : ∀ (members : List (String × Json)) (depth : Nat),
    (writeMembers depth members).all isPlain = true
  | [], _ => rfl
  | (name, value) :: rest, depth => by
    rw [writeMembers]
    simp only [List.all_append, List.all_cons, all_isPlain_newLine, all_isPlain_quoted,
      all_isPlain_write value, all_isPlain_writeMembers rest]
    decide

end

/-- A written document is in ASCII and without control characters but line breaks. -/
theorem isPlain_of_mem_render {json : Json} {after : String} (hafter : after.toList.all isPlain = true) :
    ∀ c ∈ (json.render ++ after).toList, isPlain c = true := by
  rw [← List.all_eq_true, String.toList_append, render, String.toList_ofList, List.all_append,
    all_isPlain_write, hafter]
  rfl

end Lookup.Json
