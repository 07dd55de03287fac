import Lookup.Proofs.Json.Token

/-!
# Decoding JSON

A decoder reads a document from the front: white space, then a value, which its first character tells
apart, then white space again. What the grammar allows is what it reads, so a document stands for one thing
only.

## Main definitions

* `Json.read`, `Json.decode?` — values and documents

## Main results

* `Json.decode?_eq_some` — documents are decoded as what they stand for
* `Json.IsDocument.unique` — a document stands for one thing only
-/

namespace Lookup.Json

open Text

variable {text rest more : List Char}

/-! ### Documents -/

/-- A value that is written by a word, and what comes behind it. -/
def readWord (text : List Char) : Option (Data × List Char) :=
  (words.find? fun entry => entry.1.toList.isPrefixOf text).map fun entry =>
    (entry.2, text.drop entry.1.length)

/-- A number, and what comes behind it. -/
def readNumber (text : List Char) : Option (Data × List Char) :=
  if isNumber (text.takeWhile isNumeric) then
    some (.number (String.ofList (text.takeWhile isNumeric)), text.dropWhile isNumeric)
  else none

/-- A value that begins with a character, and what comes behind it, given how items and members are
read. -/
def readValue (items : List Char → Option (List Data × List Char))
    (members : List Char → Option (List (String × Data) × List Char)) (c : Char) (rest : List Char) :
    Option (Data × List Char) :=
  if c = doubleQuote then (readText rest).map fun p => (.text p.1, p.2)
  else if c = '[' then
    if (skip rest).head? = some ']' then some (.array [], (skip rest).tail)
    else (items rest).map fun p => (.array p.1, p.2)
  else if c = '\x7b' then
    if (skip rest).head? = some '\x7d' then some (.object [], (skip rest).tail)
    else (members rest).map fun p => (.object p.1, p.2)
  else if c = '-' ∨ c.isDigit = true then readNumber (c :: rest)
  else readWord (c :: rest)

/-- A name with the colon behind it, and what comes behind that. -/
def readName (text : List Char) : Option (String × List Char) :=
  match skip text with
  | [] => none
  | c :: rest =>
    if c ≠ doubleQuote then none
    else
      (readText rest).bind fun p =>
        if (skip p.2).head? = some ':' then some (p.1, (skip p.2).tail) else none

mutual

/-- A value with white space around it, and what comes behind; `fuel` bounds the depth. -/
def read (fuel : Nat) (text : List Char) : Option (Data × List Char) :=
  match fuel with
  | 0 => none
  | fuel + 1 =>
    match skip text with
    | [] => none
    | c :: rest =>
      (readValue (readItems fuel) (readMembers fuel) c rest).map fun p => (p.1, skip p.2)

/-- The items of an array that has some up to the closing bracket, and what comes behind it. -/
def readItems (fuel : Nat) (text : List Char) : Option (List Data × List Char) :=
  match fuel with
  | 0 => none
  | fuel + 1 =>
    match read fuel text with
    | some (item, c :: rest) =>
      if c = ',' then (readItems fuel rest).map fun p => (item :: p.1, p.2)
      else if c = ']' then some ([item], rest)
      else none
    | _ => none

/-- The members of an object that has some up to the closing brace, and what comes behind it. -/
def readMembers (fuel : Nat) (text : List Char) : Option (List (String × Data) × List Char) :=
  match fuel with
  | 0 => none
  | fuel + 1 =>
    match readName text with
    | none => none
    | some (name, text) =>
      match read fuel text with
      | some (value, c :: rest) =>
        if c = ',' then (readMembers fuel rest).map fun p => ((name, value) :: p.1, p.2)
        else if c = '\x7d' then some ([(name, value)], rest)
        else none
      | _ => none

end

/-- What a document stands for, if the text is one. -/
def decode? (text : String) : Option Data :=
  match read (text.length + 1) text.toList with
  | some (data, []) => some data
  | _ => none

/-! ### Reading what the grammar allows -/

/-- A text that a number does not run into. -/
def Ends (text : List Char) : Prop := ∀ c ∈ text.head?, isNumeric c = false

/-- A text that begins behind an item or a member. -/
def Closes (text : List Char) : Prop := ∀ c ∈ text.head?, c = ',' ∨ c = ']' ∨ c = '\x7d'

theorem closes_cons {c : Char} (h : c = ',' ∨ c = ']' ∨ c = '\x7d') (rest : List Char) :
    Closes (c :: rest) := by
  intro d hd
  obtain rfl : c = d := by simpa using hd
  exact h

theorem Closes.ends (h : Closes text) : Ends text := by
  intro c hc
  rcases h c hc with rfl | rfl | rfl <;> decide

theorem Closes.skip_eq (h : Closes text) : skip text = text := by
  refine skip_eq_self fun c hc => ?_
  rcases h c hc with rfl | rfl | rfl <;> decide

theorem ends_append (h : IsWhite text) (hrest : Ends rest) : Ends (text ++ rest) := by
  cases text with
  | nil => exact hrest
  | cons c text =>
    intro d hd
    obtain rfl : c = d := by simpa using hd
    have hwhite := h c List.mem_cons_self
    simp only [isWhite, Bool.or_eq_true, decide_eq_true_eq] at hwhite
    rcases hwhite with ((rfl | rfl) | rfl) | rfl <;> decide

/-- Whether a character may begin a value. -/
def begins (c : Char) : Bool :=
  c = doubleQuote || c = '[' || c = '\x7b' || c = '-' || c.isDigit || c = 'n' || c = 't' || c = 'f'

theorem begins_of_number {c : Char} (h : c = '-' ∨ c.isDigit = true) : begins c = true := by
  rcases h with rfl | h
  · decide
  · simp [begins, h]

theorem exists_cons_of_isNumber (h : IsNumber text) :
    ∃ c rest, text = c :: rest ∧ (c = '-' ∨ c.isDigit = true) := by
  obtain ⟨sign, whole, fraction, exponent, hsign, hwhole, -, -, rfl⟩ := h
  obtain ⟨first, more, rfl⟩ := List.exists_cons_of_ne_nil hwhole.1.1
  rcases hsign with rfl | rfl
  · exact ⟨first, _, rfl, .inr (hwhole.1.2 first List.mem_cons_self)⟩
  · exact ⟨'-', _, rfl, .inl rfl⟩

/-- A value begins with a character that tells it apart. -/
theorem exists_cons_of_value {data : Data} (h : IsWritten (.value data) text) :
    ∃ c rest, text = c :: rest ∧ begins c = true := by
  cases h with
  | word known =>
    simp only [words, List.mem_cons, Prod.mk.injEq, List.not_mem_nil, or_false] at known
    rcases known with ⟨rfl, -⟩ | ⟨rfl, -⟩ | ⟨rfl, -⟩
    · exact ⟨'n', _, rfl, by decide⟩
    · exact ⟨'t', _, rfl, by decide⟩
    · exact ⟨'f', _, rfl, by decide⟩
  | number digits =>
    obtain ⟨c, rest, rfl, hc⟩ := exists_cons_of_isNumber digits
    exact ⟨c, rest, rfl, begins_of_number hc⟩
  | text quotes => exact ⟨_, _, rfl, by decide⟩
  | array inner => exact ⟨_, _, rfl, by decide⟩
  | object inner => exact ⟨_, _, rfl, by decide⟩

theorem isWhite_of_begins {c : Char} (h : begins c = true) : isWhite c = false := by
  rw [← Bool.not_eq_true]
  intro hwhite
  simp only [isWhite, Bool.or_eq_true, decide_eq_true_eq] at hwhite
  rcases hwhite with ((rfl | rfl) | rfl) | rfl <;> exact absurd h (by decide)

theorem skip_cons {c : Char} (h : begins c = true) (rest : List Char) :
    skip (c :: rest) = c :: rest := skip_eq_self fun d hd => by
  obtain rfl : c = d := by simpa using hd
  exact isWhite_of_begins h

theorem read_cons {c : Char} (h : begins c = true) (fuel : Nat) (rest : List Char) :
    read (fuel + 1) (c :: rest) =
      (readValue (readItems fuel) (readMembers fuel) c rest).map fun p => (p.1, skip p.2) := by
  rw [read, skip_cons h]

theorem read_append (h : IsWhite text) (fuel : Nat) (rest : List Char) :
    read fuel (text ++ rest) = read fuel rest := by
  cases fuel with
  | zero => rw [read, read]
  | succ fuel => rw [read, read, skip_append h]

/-- A text that is read as a value, given enough depth. -/
def ReadsValue (data : Data) (text : List Char) : Prop :=
  ∀ fuel rest, text.length < fuel → Ends rest → read fuel (text ++ rest) = some (data, skip rest)

/-- A text that is read as a value with the white space around it. -/
def ReadsElement (data : Data) (text : List Char) : Prop :=
  ∀ fuel rest, text.length < fuel → Closes rest → read fuel (text ++ rest) = some (data, rest)

/-- A text that is read as the items of an array. -/
def ReadsItems (items : List Data) (text : List Char) : Prop :=
  items ≠ [] → ∀ fuel rest, text.length + 1 < fuel →
    readItems fuel (text ++ ']' :: rest) = some (items, rest)

/-- A text that is read as a member of an object. -/
def ReadsMember (member : String × Data) (text : List Char) : Prop :=
  ∀ fuel rest, text.length < fuel → Closes rest →
    ∃ value, readName (text ++ rest) = some (member.1, value) ∧
      read fuel value = some (member.2, rest)

/-- A text that is read as the members of an object. -/
def ReadsMembers (members : List (String × Data)) (text : List Char) : Prop :=
  members ≠ [] → ∀ fuel rest, text.length + 1 < fuel →
    readMembers fuel (text ++ '\x7d' :: rest) = some (members, rest)

/-- A text is read as a value if its first character tells so. -/
theorem readsValue_of_readValue {data : Data} {c : Char} (hbegins : begins c = true)
    (h : ∀ fuel rest, text.length < fuel → Ends rest →
      readValue (readItems fuel) (readMembers fuel) c (text ++ rest) = some (data, rest)) :
    ReadsValue data (c :: text) := by
  intro fuel rest hfuel hrest
  cases fuel with
  | zero => omega
  | succ fuel =>
    rw [List.cons_append, read_cons hbegins, h fuel rest (by simpa using hfuel) hrest, Option.map_some]

theorem readWord_append {word : String} {data : Data} (h : (word, data) ∈ words) (rest : List Char) :
    readWord (word.toList ++ rest) = some (data, rest) := by
  simp only [words, List.mem_cons, Prod.mk.injEq, List.not_mem_nil, or_false] at h
  rcases h with ⟨rfl, rfl⟩ | ⟨rfl, rfl⟩ | ⟨rfl, rfl⟩ <;> rfl

theorem readsValue_word {word : String} {data : Data} (h : (word, data) ∈ words) :
    ReadsValue data word.toList := by
  have hread := readWord_append h
  simp only [words, List.mem_cons, Prod.mk.injEq, List.not_mem_nil, or_false] at h
  rcases h with ⟨rfl, rfl⟩ | ⟨rfl, rfl⟩ | ⟨rfl, rfl⟩ <;>
    exact readsValue_of_readValue (by decide) fun fuel rest _ _ => hread rest

theorem readNumber_append (h : IsNumber text) (hrest : Ends rest) :
    readNumber (text ++ rest) = some (.number (String.ofList text), rest) := by
  obtain ⟨htake, hdrop⟩ := takeWhile_append_eq isNumeric (isNumeric_of_mem h) hrest
  rw [readNumber, htake, hdrop, if_pos (isNumber_of h)]

/-- A value that begins as a number is read as one. -/
theorem readValue_eq_readNumber {items : List Char → Option (List Data × List Char)}
    {members : List Char → Option (List (String × Data) × List Char)} {c : Char}
    (h : c = '-' ∨ c.isDigit = true) (rest : List Char) :
    readValue items members c rest = readNumber (c :: rest) := by
  have hne : ∀ d : Char, d ≠ '-' → d.isDigit = false → c ≠ d := by
    rintro d hminus hdigit rfl
    exact h.elim hminus fun h => Bool.false_ne_true (hdigit.symm.trans h)
  rw [readValue, if_neg (hne _ (by decide) (by decide)), if_neg (hne _ (by decide) (by decide)),
    if_neg (hne _ (by decide) (by decide)), if_pos h]

theorem readsValue_number (h : IsNumber text) : ReadsValue (.number (String.ofList text)) text := by
  obtain ⟨c, tail, rfl, hc⟩ := exists_cons_of_isNumber h
  refine readsValue_of_readValue (begins_of_number hc) fun fuel rest _ hrest => ?_
  rw [readValue_eq_readNumber hc, ← List.cons_append, readNumber_append h hrest]

theorem readsValue_text {value : String} (h : Quotes text value) :
    ReadsValue (.text value) (doubleQuote :: text ++ [doubleQuote]) := by
  rw [List.cons_append]
  refine readsValue_of_readValue (by decide) fun fuel rest _ _ => ?_
  rw [readValue, if_pos rfl, List.append_assoc, List.singleton_append, readText_of_quotes h,
    Option.map_some]

/-! ### Items -/

theorem readsElement {before after : List Char} {data : Data} (hbefore : IsWhite before)
    (h : ReadsValue data text) (hafter : IsWhite after) :
    ReadsElement data (before ++ text ++ after) := by
  intro fuel rest hfuel hrest
  simp only [List.length_append] at hfuel
  rw [List.append_assoc, List.append_assoc, read_append hbefore,
    h fuel _ (by omega) (ends_append hafter hrest.ends), skip_append hafter, hrest.skip_eq]

/-- Behind white space an element begins as its value does. -/
theorem exists_skip_element {data : Data} (h : IsWritten (.element data) text) :
    ∃ c tail, begins c = true ∧ ∀ rest, skip (text ++ rest) = c :: (tail ++ rest) := by
  cases h with
  | @element before _ after _ white_before value white_after =>
    obtain ⟨c, tail, rfl, hbegins⟩ := exists_cons_of_value value
    refine ⟨c, tail ++ after, hbegins, fun rest => ?_⟩
    rw [List.append_assoc, List.append_assoc, skip_append white_before, List.cons_append,
      skip_cons hbegins, List.append_assoc]

theorem exists_skip_items {item : Data} {others : List Data}
    (h : IsWritten (.items (item :: others)) text) :
    ∃ c tail, begins c = true ∧ ∀ rest, skip (text ++ rest) = c :: (tail ++ rest) := by
  cases h with
  | lastItem element => exact exists_skip_element element
  | @nextItem _ more _ _ _ element others =>
    obtain ⟨c, tail, hbegins, hskip⟩ := exists_skip_element element
    refine ⟨c, tail ++ ',' :: more, hbegins, fun rest => ?_⟩
    rw [List.append_assoc, hskip, List.append_assoc]

theorem readsItems_singleton {item : Data} (h : ReadsElement item text) :
    ReadsItems [item] text := by
  intro _ fuel rest hfuel
  cases fuel with
  | zero => omega
  | succ fuel =>
    have hcloses : Closes (']' :: rest) := closes_cons (by simp) rest
    rw [readItems, h fuel _ (by omega) hcloses]
    rfl

theorem readsItems_cons {item next : Data} {others : List Data} (h : ReadsElement item text)
    (hmore : ReadsItems (next :: others) more) :
    ReadsItems (item :: next :: others) (text ++ ',' :: more) := by
  intro _ fuel rest hfuel
  simp only [List.length_append, List.length_cons] at hfuel
  cases fuel with
  | zero => omega
  | succ fuel =>
    have hcloses : Closes (',' :: (more ++ ']' :: rest)) := closes_cons (by simp) _
    rw [List.append_assoc, List.cons_append, readItems, h fuel _ (by omega) hcloses]
    simp only [if_true, hmore (by simp) fuel rest (by omega), Option.map_some]

theorem readsValue_array {items : List Data} (h : IsWritten (.items items) text)
    (hitems : ReadsItems items text) : ReadsValue (.array items) ('[' :: text ++ [']']) := by
  rw [List.cons_append]
  refine readsValue_of_readValue (by decide) fun fuel rest hfuel _ => ?_
  rw [List.append_assoc, List.singleton_append, readValue, if_neg (by decide), if_pos rfl]
  cases items with
  | nil =>
    cases h with
    | noItems white =>
      rw [skip_append white, skip_eq_self (by simp; decide)]
      rfl
  | cons item others =>
    obtain ⟨c, tail, hbegins, hskip⟩ := exists_skip_items h
    have hne : c ≠ ']' := by
      rintro rfl
      exact absurd hbegins (by decide)
    rw [hskip, if_neg (by simpa using hne), hitems (by simp) fuel rest (by simpa using hfuel),
      Option.map_some]

/-! ### Members -/

theorem readsMember {before name after : List Char} {key : String} {value : Data}
    (hbefore : IsWhite before) (hname : Quotes name key) (hafter : IsWhite after)
    (h : ReadsElement value text) :
    ReadsMember (key, value) (before ++ doubleQuote :: name ++ doubleQuote :: after ++ ':' :: text) := by
  intro fuel rest hfuel hrest
  simp only [List.length_append, List.length_cons] at hfuel
  refine ⟨text ++ rest, ?_, h fuel rest (by omega) hrest⟩
  have hcolon : skip (after ++ ':' :: (text ++ rest)) = ':' :: (text ++ rest) := by
    rw [skip_append hafter, skip_eq_self (by simp; decide)]
  simp only [List.append_assoc, List.cons_append]
  rw [readName, skip_append hbefore, skip_cons (by decide)]
  simp only [ne_eq, not_true_eq_false, if_false, readText_of_quotes hname, Option.bind_some, hcolon,
    List.head?_cons, if_true, List.tail_cons]

theorem exists_skip_member {member : String × Data} (h : IsWritten (.member member) text) :
    ∃ tail, ∀ rest, skip (text ++ rest) = doubleQuote :: (tail ++ rest) := by
  cases h with
  | @member before name after text key value white_before quotes white_after element =>
    refine ⟨name ++ doubleQuote :: (after ++ ':' :: text), fun rest => ?_⟩
    simp only [List.append_assoc, List.cons_append]
    rw [skip_append white_before, skip_cons (by decide)]

theorem exists_skip_members {member : String × Data} {others : List (String × Data)}
    (h : IsWritten (.members (member :: others)) text) :
    ∃ tail, ∀ rest, skip (text ++ rest) = doubleQuote :: (tail ++ rest) := by
  cases h with
  | lastMember single => exact exists_skip_member single
  | @nextMember _ more _ _ _ single others =>
    obtain ⟨tail, hskip⟩ := exists_skip_member single
    exact ⟨tail ++ ',' :: more, fun rest => by rw [List.append_assoc, hskip, List.append_assoc]⟩

theorem readsMembers_singleton {member : String × Data} (h : ReadsMember member text) :
    ReadsMembers [member] text := by
  intro _ fuel rest hfuel
  cases fuel with
  | zero => omega
  | succ fuel =>
    have hcloses : Closes ('\x7d' :: rest) := closes_cons (by simp) rest
    obtain ⟨value, hname, hvalue⟩ := h fuel _ (by omega) hcloses
    simp only [readMembers, hname, hvalue]
    rfl

theorem readsMembers_cons {member next : String × Data} {others : List (String × Data)}
    (h : ReadsMember member text) (hmore : ReadsMembers (next :: others) more) :
    ReadsMembers (member :: next :: others) (text ++ ',' :: more) := by
  intro _ fuel rest hfuel
  simp only [List.length_append, List.length_cons] at hfuel
  cases fuel with
  | zero => omega
  | succ fuel =>
    have hcloses : Closes (',' :: (more ++ '\x7d' :: rest)) := closes_cons (by simp) _
    obtain ⟨value, hname, hvalue⟩ := h fuel _ (by omega) hcloses
    rw [List.append_assoc, List.cons_append]
    simp only [readMembers, hname, hvalue, if_true, hmore (by simp) fuel rest (by omega),
      Option.map_some]

theorem readsValue_object {members : List (String × Data)} (h : IsWritten (.members members) text)
    (hmembers : ReadsMembers members text) :
    ReadsValue (.object members) ('\x7b' :: text ++ ['\x7d']) := by
  rw [List.cons_append]
  refine readsValue_of_readValue (by decide) fun fuel rest hfuel _ => ?_
  rw [List.append_assoc, List.singleton_append, readValue, if_neg (by decide), if_neg (by decide),
    if_pos rfl]
  cases members with
  | nil =>
    cases h with
    | noMembers white =>
      rw [skip_append white, skip_eq_self (by simp; decide)]
      rfl
  | cons member others =>
    obtain ⟨tail, hskip⟩ := exists_skip_members h
    rw [hskip, if_neg (by simp; decide), hmembers (by simp) fuel rest (by simpa using hfuel),
      Option.map_some]

/-! ### Uniqueness -/

/-- What a part of a document is read as. -/
def Phrase.IsReadAs (text : List Char) : Phrase → Prop
  | .value data => ReadsValue data text
  | .element data => ReadsElement data text
  | .items found => ReadsItems found text
  | .member found => ReadsMember found text
  | .members found => ReadsMembers found text

/-- What the grammar allows is read as what it stands for. -/
theorem isReadAs {phrase : Phrase} (h : IsWritten phrase text) : phrase.IsReadAs text := by
  induction h with
  | word known => exact readsValue_word known
  | number digits => exact readsValue_number digits
  | text quotes => exact readsValue_text quotes
  | array inner ih => exact readsValue_array inner ih
  | object inner ih => exact readsValue_object inner ih
  | element white_before value white_after ih => exact readsElement white_before ih white_after
  | noItems white => exact fun hne => absurd rfl hne
  | lastItem element ih => exact readsItems_singleton ih
  | nextItem element others ih ih' => exact readsItems_cons ih ih'
  | member white_before quotes white_after element ih =>
    exact readsMember white_before quotes white_after ih
  | noMembers white => exact fun hne => absurd rfl hne
  | lastMember single ih => exact readsMembers_singleton ih
  | nextMember single others ih ih' => exact readsMembers_cons ih ih'

/-- A document is decoded as what it stands for. -/
theorem decode?_eq_some {document : String} {data : Data} (h : IsDocument document data) :
    decode? document = some data := by
  have hread : ReadsElement data document.toList := isReadAs h
  have hfuel : document.toList.length < document.length + 1 := by
    rw [String.length_toList]
    exact Nat.lt_succ_self _
  have hall := hread (document.length + 1) [] hfuel fun c hc => by simp at hc
  rw [List.append_nil] at hall
  rw [decode?, hall]

/-- A document stands for one thing only. -/
theorem IsDocument.unique {document : String} {data other : Data} (h : IsDocument document data)
    (hother : IsDocument document other) : data = other :=
  Option.some.inj ((decode?_eq_some h).symm.trans (decode?_eq_some hother))

end Lookup.Json
