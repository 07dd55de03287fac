import Lookup.Proofs.Files.Node

/-!
# Following paths

Following the components of a path and then more of them comes to where following the rest from the
first place comes to, with the links that are left. In a tree without links the components lead
along the entries of directories, unless one of them is too long.

## Main results

* `Node.exists_followWithin_append` — following a path further
* `Node.advance_of_isLinkFree` — following components in a tree without links
* `Disk.resolve_below` — where a path below a directory without links leads
-/

namespace Lookup.Files

open Text

namespace Node

variable {root node : Node} {place names todo more : List String} {links : Nat}

theorem advance_done (h : advance root place todo = .done names node) :
    root.at? names = some node := by
  induction todo generalizing place with
  | nil =>
    rw [advance] at h
    split at h
    · next found hfound =>
      obtain ⟨rfl, rfl⟩ := Reach.done.inj h
      exact hfound
    · simp at h
  | cons name rest ih =>
    rw [advance] at h
    split at h
    · split at h
      · exact ih h
      split at h
      · exact ih h
      split at h
      · simp at h
      split at h
      · simp at h
      · simp at h
      · exact ih h
    · simp at h
    · simp at h

/-- What following a path comes to is at the place where it ends. -/
theorem at?_of_followWithin (h : followWithin root links place todo = .ok (names, node)) :
    root.at? names = some node := by
  induction links generalizing place todo with
  | zero => simp [followWithin] at h
  | succ links ih =>
    rw [followWithin] at h
    split at h
    · next hdone =>
      obtain ⟨rfl, rfl⟩ := Prod.mk.inj (Except.ok.inj h)
      exact advance_done hdone
    · exact ih h
    · simp at h

/-- How far more components lead than those that reach somewhere already. -/
def Reach.further (root : Node) (more : List String) : Reach → Reach
  | .done names _ => advance root names more
  | .detour names todo => .detour names (todo ++ more)
  | .failed errno => .failed errno

theorem advance_append (root : Node) (place todo more : List String) :
    advance root place (todo ++ more) = (advance root place todo).further root more := by
  induction todo generalizing place with
  | nil =>
    rw [List.nil_append]
    cases hplace : root.at? place with
    | some node => simp [advance, hplace, Reach.further]
    | none =>
      cases more with
      | nil => simp [advance, hplace, Reach.further]
      | cons name rest => simp [advance, hplace, Reach.further]
  | cons name rest ih =>
    rw [List.cons_append, advance, advance]
    split
    · split
      · exact ih place
      split
      · exact ih place.dropLast
      split
      · rfl
      split
      · rfl
      · simp [Reach.further]
      · exact ih (place ++ [name])
    · rfl
    · rfl

/-- Following a path further starts where the path ends, with the links that are left. -/
theorem exists_followWithin_append (h : followWithin root links place todo = .ok (names, node)) :
    ∃ left, ∀ more,
      followWithin root links place (todo ++ more) = followWithin root (left + 1) names more := by
  induction links generalizing place todo with
  | zero => simp [followWithin] at h
  | succ links ih =>
    rw [followWithin] at h
    split at h
    · next hdone =>
      obtain ⟨rfl, rfl⟩ := Prod.mk.inj (Except.ok.inj h)
      refine ⟨links, fun more => ?_⟩
      rw [followWithin, advance_append, hdone, followWithin]
      rfl
    · next hdetour =>
      obtain ⟨left, hleft⟩ := ih h
      refine ⟨left, fun more => ?_⟩
      rw [followWithin, advance_append, hdetour, ← hleft more]
      rfl
    · simp at h

/-- Whether one of several names is too long for the system. -/
def HasLongName (names : List String) : Prop := ∃ name ∈ names, componentLimit < name.utf8ByteSize

instance (names : List String) : Decidable (HasLongName names) :=
  inferInstanceAs (Decidable (∃ name ∈ names, componentLimit < name.utf8ByteSize))

variable {entries : List (String × Node)} {name : String} {rest : List String}

theorem advance_cons_long (hplace : root.at? place = some (.directory entries)) (hdot : name ≠ ".")
    (hdotdot : name ≠ "..") (hlong : componentLimit < name.utf8ByteSize) :
    advance root place (name :: rest) = .failed .nameTooLong := by
  simp only [advance, hplace, if_neg hdot, if_neg hdotdot, if_pos hlong]

theorem advance_cons_none (hplace : root.at? place = some (.directory entries)) (hdot : name ≠ ".")
    (hdotdot : name ≠ "..") (hshort : ¬ componentLimit < name.utf8ByteSize)
    (hentry : entries.lookup name = none) :
    advance root place (name :: rest) = .failed .noEntry := by
  simp only [advance, hplace, if_neg hdot, if_neg hdotdot, if_neg hshort, hentry]

theorem advance_cons_some {child : Node} (hplace : root.at? place = some (.directory entries))
    (hdot : name ≠ ".") (hdotdot : name ≠ "..") (hshort : ¬ componentLimit < name.utf8ByteSize)
    (hentry : entries.lookup name = some child) (hchild : ∀ target, child ≠ .link target) :
    advance root place (name :: rest) = advance root (place ++ [name]) rest := by
  simp only [advance, hplace, if_neg hdot, if_neg hdotdot, if_neg hshort, hentry]

/-- Components that do not step back lead along the entries of a tree without links, unless one of them
is too long. -/
theorem advance_of_isLinkFree (hplace : root.at? place = some node) (hlinks : node.IsLinkFree)
    (hnames : ∀ name ∈ names, name ≠ "." ∧ name ≠ "..") :
    (HasLongName names ∧ advance root place names = .failed .nameTooLong) ∨
    (∃ found, node.at? names = some found ∧
      advance root place names = .done (place ++ names) found) ∨
    (∃ errno, errno ≠ .nameTooLong ∧ node.at? names = none ∧
      advance root place names = .failed errno) := by
  induction names generalizing place node with
  | nil => exact .inr (.inl ⟨node, rfl, by simp [advance, hplace]⟩)
  | cons name rest ih =>
    cases node with
    | file content =>
      exact .inr (.inr ⟨.notDirectory, by decide, by simp [at?_cons, entry?, Node.entries],
        by simp [advance, hplace]⟩)
    | link target => exact absurd rfl (hlinks [] target)
    | directory entries =>
      obtain ⟨hdot, hdotdot⟩ := hnames name List.mem_cons_self
      by_cases hlong : componentLimit < name.utf8ByteSize
      · exact .inl ⟨⟨name, List.mem_cons_self, hlong⟩,
          advance_cons_long hplace hdot hdotdot hlong⟩
      cases hentry : Node.entry? (.directory entries) name with
      | none =>
        exact .inr (.inr ⟨.noEntry, by decide, by rw [at?_cons, hentry, Option.bind_none],
          advance_cons_none hplace hdot hdotdot hlong hentry⟩)
      | some child =>
        have hchild : (Node.directory entries).at? [name] = some child := by
          rw [at?_cons, hentry, Option.bind_some, at?]
        have hrest : (Node.directory entries).at? (name :: rest) = child.at? rest := by
          rw [at?_cons, hentry, Option.bind_some]
        have hnext : root.at? (place ++ [name]) = some child := by
          rw [at?_append, hplace, Option.bind_some, hchild]
        rw [hrest, advance_cons_some hplace hdot hdotdot hlong hentry fun target hlink =>
          hlinks [name] target (hlink ▸ hchild)]
        rcases ih hnext (hlinks.of_at? hchild) fun n hn => hnames n (List.mem_cons_of_mem _ hn) with
          ⟨⟨long, hmem, hlong⟩, hfail⟩ | ⟨found, hfound, hdone⟩ | hnone
        · exact .inl ⟨⟨long, List.mem_cons_of_mem _ hmem, hlong⟩, hfail⟩
        · refine .inr (.inl ⟨found, hfound, ?_⟩)
          rw [hdone, List.append_assoc, List.singleton_append]
        · exact .inr (.inr hnone)

end Node

/-! ### Paths -/

/-- The system takes a component as it is. -/
theorem Node.steps_of_isComponent {name : String} (h : IsComponent name) : Node.steps name = [name] := by
  have hends : endsWith "/" name = false := by
    rw [← Bool.not_eq_true, endsWith_slash_iff]
    exact fun hlast => h.slash_notMem (List.mem_of_getLast? hlast)
  rw [Node.steps, split, fields_eq_singleton h.slash_notMem, hends]
  simp [h.ne_empty]

variable {disk : Disk} {entry : Path} {names : List String}

/-- The system takes the components of a path from its text. -/
theorem Path.steps_text (h : entry.IsNormal) (hne : entry.names ≠ []) :
    Node.steps entry.text = entry.names := by
  have hends : ¬ endsWith "/" entry.text = true := by
    rw [endsWith_slash_iff]
    exact Path.getLast?_text_ne h hne
  rw [Node.steps, Path.split_text h hne, if_neg hends, List.append_nil]

/-- The root has no component of its own, so the system takes a dot from its text. -/
theorem Path.steps_text_of_names_eq_nil (h : entry.IsNormal) (hnil : entry.names = []) :
    Node.steps entry.text = ["."] := by
  rw [Path.text_of_isAbsolute h.isAbsolute, hnil]
  rcases Path.root_eq_of_isAbsolute h.isAbsolute with hroot | hroot
  · rw [hroot]
    rfl
  · rw [hroot]
    rfl

namespace Disk

variable {node : Node} {place : List String}

theorem resolve_eq (h : entry.IsNormal) (hnul : '\x00' ∉ entry.text.toList)
    (hshort : ¬ Node.pathLimit < entry.text.utf8ByteSize) :
    disk.resolve entry = (disk.root.follow [] (Node.steps entry.text)).mapError .refused := by
  obtain ⟨rest, hrest⟩ := Path.exists_toList_text_eq_cons h.isAbsolute
  have hempty : entry.text ≠ "" := fun hempty => by simp [hempty] at hrest
  have hstart : startsWith "/" entry.text = true := by
    rw [startsWith, hrest]
    rfl
  rw [resolve, resolveText, if_neg (by simpa using hnul), if_neg hshort, if_neg hempty, if_pos hstart]

/-- A path that leads somewhere has no NUL character, is short enough and can be followed. -/
theorem follow_of_resolve (h : entry.IsNormal) (hresolve : disk.resolve entry = .ok (place, node)) :
    '\x00' ∉ entry.text.toList ∧ ¬ Node.pathLimit < entry.text.utf8ByteSize ∧
      disk.root.follow [] (Node.steps entry.text) = .ok (place, node) := by
  have hnul : '\x00' ∉ entry.text.toList := by
    intro hmem
    rw [resolve, resolveText, if_pos (by simpa using hmem)] at hresolve
    simp at hresolve
  have hshort : ¬ Node.pathLimit < entry.text.utf8ByteSize := by
    intro hlong
    rw [resolve, resolveText, if_neg (by simpa using hnul), if_pos hlong] at hresolve
    simp at hresolve
  refine ⟨hnul, hshort, ?_⟩
  rw [resolve_eq h hnul hshort] at hresolve
  match hfollow : disk.root.follow [] (Node.steps entry.text), hresolve with
  | .ok found, hresolve => exact congrArg _ (Except.ok.inj hresolve)

/-- What a path leads to is at the place where it leads. -/
theorem at?_of_resolve (h : disk.resolve entry = .ok (place, node)) :
    disk.root.at? place = some node := by
  rw [resolve, resolveText] at h
  split at h
  · simp at h
  split at h
  · simp at h
  split at h
  · simp at h
  match hfollow : disk.root.follow (if startsWith "/" entry.text then [] else disk.cwd)
      (Node.steps entry.text) with
  | .error errno => simp [hfollow, Except.mapError] at h
  | .ok found =>
    obtain rfl : found = (place, node) := by simpa [hfollow, Except.mapError] using h
    exact Node.at?_of_followWithin hfollow

/-- The components of a path below another are followed from where that one leads. -/
theorem exists_follow_below (h : entry.IsNormal) (hresolve : disk.resolve entry = .ok (place, node)) :
    ∃ left, ∀ names, disk.root.follow [] (entry.names ++ names) =
      disk.root.followWithin (left + 1) place names := by
  have hfollow := (follow_of_resolve h hresolve).2.2
  by_cases hne : entry.names = []
  · obtain rfl : place = [] := by
      rw [Path.steps_text_of_names_eq_nil h hne, Node.follow, Node.followWithin] at hfollow
      match hroot : disk.root with
      | .directory entries =>
        simp only [hroot, Node.advance, Node.at?, if_true, Except.ok.injEq, Prod.mk.injEq] at hfollow
        exact hfollow.1.symm
      | .file content => simp [hroot, Node.advance, Node.at?] at hfollow
      | .link target => simp [hroot, Node.advance, Node.at?] at hfollow
    exact ⟨Node.linkLimit, fun names => by rw [hne, List.nil_append, Node.follow]⟩
  · rw [Path.steps_text h hne] at hfollow
    exact Node.exists_followWithin_append hfollow

/-- Paths below another lead where their components do from its place, with the links that are left. -/
theorem exists_resolve_below (h : entry.IsNormal)
    (hresolve : disk.resolve entry = .ok (place, node)) :
    ∃ left, ∀ names, (∀ name ∈ names, IsComponent name) →
      '\x00' ∉ (entry.below names).text.toList →
      ¬ Node.pathLimit < (entry.below names).text.utf8ByteSize →
      disk.resolve (entry.below names) =
        (disk.root.followWithin (left + 1) place names).mapError .refused := by
  obtain ⟨left, hleft⟩ := exists_follow_below h hresolve
  refine ⟨left, fun names hnames hnul hshort => ?_⟩
  by_cases hne : names = []
  · subst hne
    rw [Path.below_nil, hresolve, Node.followWithin]
    simp only [Node.advance, at?_of_resolve hresolve]
    rfl
  · have hbelow : (entry.below names).IsNormal := h.below hnames
    have hsteps : Node.steps (entry.below names).text = entry.names ++ names :=
      Path.steps_text hbelow (List.append_ne_nil_of_right_ne_nil _ hne)
    rw [resolve_eq hbelow hnul hshort, hsteps, hleft]

theorem resolve_of_long (hnul : '\x00' ∉ entry.text.toList)
    (hlong : Node.pathLimit < entry.text.utf8ByteSize) :
    disk.resolve entry = .error (.refused .nameTooLong) := by
  rw [resolve, resolveText, if_neg (by simpa using hnul), if_pos hlong]

theorem nul_notMem_text_below (h : entry.IsNormal)
    (hresolve : disk.resolve entry = .ok (place, node))
    (hnul : ∀ name ∈ names, '\x00' ∉ name.toList) : '\x00' ∉ (entry.below names).text.toList := by
  intro hmem
  rcases Path.mem_text_below h hmem with hslash | hentry | ⟨name, hname, hmem⟩
  · exact absurd hslash (by decide)
  · exact absurd hentry (follow_of_resolve h hresolve).1
  · exact hnul name hname hmem

/-- A path below a directory is refused if its first component there is too long. -/
theorem resolve_below_of_long {entries : List (String × Node)} {first : String} {rest : List String}
    (h : entry.IsNormal) (hresolve : disk.resolve entry = .ok (place, .directory entries))
    (hnames : ∀ name ∈ first :: rest, IsComponent name) (hdotdot : first ≠ "..")
    (hnul : ∀ name ∈ first :: rest, '\x00' ∉ name.toList)
    (hlong : Node.componentLimit < first.utf8ByteSize) :
    disk.resolve (entry.below (first :: rest)) = .error (.refused .nameTooLong) := by
  have hnul := nul_notMem_text_below h hresolve hnul
  by_cases hpath : Node.pathLimit < (entry.below (first :: rest)).text.utf8ByteSize
  · exact resolve_of_long hnul hpath
  · obtain ⟨left, hleft⟩ := exists_resolve_below h hresolve
    rw [hleft _ hnames hnul hpath, Node.followWithin, Node.advance_cons_long (at?_of_resolve hresolve)
      (hnames first List.mem_cons_self).ne_dot hdotdot hlong]
    rfl

/-- A path below a directory without links leads along its entries, unless it is too long. -/
theorem resolve_below (h : entry.IsNormal) (hresolve : disk.resolve entry = .ok (place, node))
    (hsound : node.IsSound) (hlinks : node.IsLinkFree)
    (hnames : ∀ name ∈ names, IsComponent name ∧ name ≠ "..") :
    ((Node.HasLongName names ∨ Node.pathLimit < (entry.below names).text.utf8ByteSize) ∧
      disk.resolve (entry.below names) = .error (.refused .nameTooLong)) ∨
    (∃ found, node.at? names = some found ∧
      disk.resolve (entry.below names) = .ok (place ++ names, found)) ∨
    (∃ error, error ≠ .refused .nameTooLong ∧ node.at? names = none ∧
      disk.resolve (entry.below names) = .error error) := by
  by_cases hnul : '\x00' ∈ (entry.below names).text.toList
  · -- A sound tree holds no such name, so nothing is there.
    refine .inr (.inr ⟨.nul, by simp, ?_, by rw [resolve, resolveText, if_pos (by simpa using hnul)]⟩)
    rw [Option.eq_none_iff_forall_ne_some]
    exact fun found hfound => nul_notMem_text_below h hresolve
      (fun name hname => (hsound.isFileName hfound name hname).nul_notMem) hnul
  by_cases hlong : Node.pathLimit < (entry.below names).text.utf8ByteSize
  · exact .inl ⟨.inr hlong, resolve_of_long hnul hlong⟩
  obtain ⟨left, hleft⟩ := exists_resolve_below h hresolve
  rw [hleft names (fun name hname => (hnames name hname).1) hnul hlong, Node.followWithin]
  rcases Node.advance_of_isLinkFree (at?_of_resolve hresolve) hlinks fun name hname =>
      ⟨(hnames name hname).1.ne_dot, (hnames name hname).2⟩ with
    ⟨hname, hfail⟩ | ⟨found, hfound, hdone⟩ | ⟨errno, herrno, hnone, hfail⟩
  · exact .inl ⟨.inl hname, by rw [hfail]; rfl⟩
  · exact .inr (.inl ⟨found, hfound, by rw [hdone]; rfl⟩)
  · exact .inr (.inr ⟨.refused errno, fun heq => herrno (PathError.refused.inj heq), hnone,
      by rw [hfail]; rfl⟩)

end Disk

end Lookup.Files
