import Lookup.Proofs.Files.Path

/-!
# Components that step back

Taking away components that step back, each with the one before it, is reckoning with names alone. What names
lead to from a base is then the base, shortened by as many components as the names climb above it, and below it
what the names come to on their own. So names without components that step back stay below any base.

## Main definitions

* `Path.climb` — by how many components names climb above where they start
* `Path.IsBelow` — a path leads strictly below another one by the names alone

## Main results

* `Path.settle_append` — what names come to behind a base
* `Path.isBelow_below_iff`, `Path.isBelow_iff` — when a path leads below another one
-/

namespace Lookup.Files.Path

variable {path base : Path} {name : String} {names more done : List String}

/-- The components that are left, the last one first, after a further one. -/
def stepOn (done : List String) (name : String) : List String :=
  if name = ".." then done.tail else name :: done

theorem stepOn_dotdot : stepOn done ".." = done.tail := if_pos rfl

theorem stepOn_of_ne (h : name ≠ "..") : stepOn done name = name :: done := if_neg h

theorem settle_eq_foldl (names : List String) : settle names = (names.foldl stepOn []).reverse := rfl

/-- By how many components names climb above where they start, behind `depth` components that may be taken away
before. -/
def climb (depth : Nat) : List String → Nat
  | [] => 0
  | name :: rest =>
    if name = ".." then
      match depth with
      | 0 => climb 0 rest + 1
      | depth + 1 => climb depth rest
    else climb (depth + 1) rest

theorem climb_of_ne {depth : Nat} (h : name ≠ "..") : climb depth (name :: names) = climb (depth + 1) names :=
  if_neg h

/-- Names without components that step back do not climb. -/
theorem climb_eq_zero {depth : Nat} (h : ".." ∉ names) : climb depth names = 0 := by
  induction names generalizing depth with
  | nil => rfl
  | cons name rest ih =>
    rw [climb_of_ne (List.ne_of_not_mem_cons h).symm]
    exact ih (List.not_mem_of_not_mem_cons h)

/-- Names take away components from below those that are kept only by climbing. -/
theorem foldl_stepOn_append (names done base : List String) :
    names.foldl stepOn (done ++ base) = names.foldl stepOn done ++ base.drop (climb done.length names) := by
  -- A component that steps back takes one from `done` while there are any, and only then one from `base`.
  induction names generalizing done base with
  | nil => rfl
  | cons name rest ih =>
    by_cases hname : name = ".."
    · subst hname
      cases done with
      | nil =>
        have htail : stepOn base ".." = [] ++ base.tail := stepOn_dotdot
        have hnil : stepOn [] ".." = ([] : List String) := stepOn_dotdot
        have hclimb : climb 0 (".." :: rest) = climb 0 rest + 1 := by rw [climb, if_pos rfl]
        rw [List.nil_append, List.foldl_cons, List.foldl_cons, htail, hnil, ih, List.length_nil, hclimb,
          Nat.add_comm, ← List.drop_drop, List.drop_one]
      | cons last done =>
        have htail : stepOn (last :: done ++ base) ".." = done ++ base := stepOn_dotdot
        have hclimb : climb (last :: done).length (".." :: rest) = climb done.length rest := by
          rw [List.length_cons, climb, if_pos rfl]
        rw [List.foldl_cons, List.foldl_cons, htail, stepOn_dotdot, ih, hclimb, List.tail_cons]
    · rw [List.foldl_cons, List.foldl_cons, stepOn_of_ne hname, stepOn_of_ne hname, climb_of_ne hname,
        ← List.cons_append, ih, List.length_cons]

/-- Names without components that step back are kept. -/
theorem settle_of_notMem (h : ".." ∉ names) : settle names = names := by
  have hkept : ∀ done, names.foldl stepOn done = names.reverse ++ done := by
    induction names with
    | nil => exact fun _ => rfl
    | cons name rest ih =>
      intro done
      rw [List.foldl_cons, stepOn_of_ne (List.ne_of_not_mem_cons h).symm,
        ih (List.not_mem_of_not_mem_cons h), List.reverse_cons, List.append_assoc, List.singleton_append]
  rw [settle_eq_foldl, hkept, List.append_nil, List.reverse_reverse]

/-- Behind a base names come to what they come to on their own, below what is left of the base. -/
theorem settle_append (h : ".." ∉ more) (names : List String) :
    settle (more ++ names) = more.take (more.length - climb 0 names) ++ settle names := by
  -- The last component comes first in what is left, so the base is shortened at its front there.
  have hmore : more.foldl stepOn [] = more.reverse := by
    rw [← List.reverse_reverse (more.foldl stepOn []), ← settle_eq_foldl, settle_of_notMem h]
  have happend := foldl_stepOn_append names [] more.reverse
  rw [List.nil_append, List.length_nil] at happend
  rw [settle_eq_foldl, List.foldl_append, hmore, happend, List.reverse_append, List.reverse_drop,
    List.reverse_reverse, List.length_reverse, settle_eq_foldl]

/-! ### Paths below others -/

/-- A path leads strictly below another one, reckoned by names alone. -/
def IsBelow (path base : Path) : Prop :=
  ∃ rest, rest ≠ [] ∧ (⟨path.root, settle path.names⟩ : Path) = base.below rest

theorem isBelow_iff : path.IsBelow base ↔
    path.root = base.root ∧ ∃ rest, rest ≠ [] ∧ settle path.names = base.names ++ rest := by
  simp only [IsBelow, below, Files.Path.mk.injEq]
  constructor
  · rintro ⟨rest, hne, hroot, hnames⟩
    exact ⟨hroot, rest, hne, hnames⟩
  · rintro ⟨hroot, rest, hne, hnames⟩
    exact ⟨rest, hne, hroot, hnames⟩

/-- Names lead strictly below a base exactly if they go down again along all that they climb, and further. -/
theorem isBelow_below_iff (h : ".." ∉ base.names) :
    (base.below names).IsBelow base ↔ ∃ rest, rest ≠ [] ∧
      settle names = base.names.drop (base.names.length - climb 0 names) ++ rest := by
  have hsettle := settle_append h names
  -- Both sides begin with what is left of the base, and the base goes on with what is dropped.
  generalize base.names.length - climb 0 names = kept at hsettle
  rw [isBelow_iff, below, and_iff_right rfl, hsettle]
  refine exists_congr fun rest => and_congr_right fun _ => ?_
  constructor
  · intro heq
    rw [← List.take_append_drop kept base.names, List.append_assoc, List.take_append_drop] at heq
    exact List.append_cancel_left heq
  · intro heq
    rw [heq, ← List.append_assoc, List.take_append_drop]

/-- Names without components that step back lead strictly below any base, if there are any. -/
theorem isBelow_below (h : ".." ∉ base.names) (hnames : ".." ∉ names) (hne : names ≠ []) :
    (base.below names).IsBelow base := by
  refine (isBelow_below_iff h).2 ⟨names, hne, ?_⟩
  rw [climb_eq_zero hnames, Nat.sub_zero, List.drop_length, List.nil_append, settle_of_notMem hnames]

end Lookup.Files.Path
