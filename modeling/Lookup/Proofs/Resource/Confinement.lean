import Lookup.Proofs.Files.Lexical
import Lookup.Proofs.Resource.FirstMatch

/-!
# Reading below the search path

A resource of a directory is read at the path of its name behind the path of the directory. One slash in front
of the name is dropped, and no more than one, and components that step back are kept. So the path lies below the
directory unless the name is still absolute, having begun with two slashes, or climbs out of the directory. In
these two cases what is read may be anywhere on the disk.

## Main definitions

* `StartsWithSlashes` — names that begin with two slashes of either kind

## Main results

* `isAbsolute_ofText_lookupName_iff` — which names are looked up as absolute paths
* `openResource_isBelow_iff` — where the files that are opened lie
-/

namespace Lookup

open Files Text

variable {ε : Type} {disk : Disk} {entries : List String} {name text : String} {path entry : Path}
  {content : Content}

/-- A name begins with two slashes of either kind. -/
def StartsWithSlashes (name : String) : Prop :=
  ∃ a b rest, name.toList = a :: b :: rest ∧ isSlash a = true ∧ isSlash b = true

/-- A name is looked up as an absolute path exactly if it begins with two slashes, one of which is dropped. -/
theorem isAbsolute_ofText_lookupName_iff :
    (Path.ofText (lookupName name)).isAbsolute = true ↔ StartsWithSlashes name := by
  have hturned : ∀ c, isSlash (if c = '\\' then '/' else c) = isSlash c := by
    intro c
    by_cases hc : c = '\\' <;> simp [isSlash, hc]
  have hslash : ∀ c, (if c = '\\' then '/' else c) = '/' ↔ isSlash c = true := by
    intro c
    by_cases hc : c = '\\' <;> simp [isSlash, hc]
  rw [Path.isAbsolute_ofText_iff, lookupName, canonicalName, String.toList_ofList, StartsWithSlashes, exchange]
  rcases name.toList with _ | ⟨a, rest⟩
  · simp [dropLeading]
  rw [List.map_cons, dropLeading, hturned]
  by_cases ha : isSlash a = true
  · -- The first slash is dropped, and the next character decides.
    rw [if_pos ha]
    rcases rest with _ | ⟨b, rest⟩
    · simp
    · simp [hslash, ha]
  · rw [if_neg ha]
    refine iff_of_false ?_ ?_
    · rintro ⟨others, hothers⟩
      exact ha ((hslash a).1 (List.cons.inj hothers).1)
    · rintro ⟨first, second, others, heq, hfirst, -⟩
      exact ha ((List.cons.inj heq).1 ▸ hfirst)

theorem dotdot_notMem_of_mem_searchEntries (h : entry ∈ searchEntries disk entries) : ".." ∉ entry.names := by
  obtain ⟨text, -, rfl⟩ := List.mem_map.1 h
  rw [Path.absolute]
  split <;> exact Path.dotdot_notMem_settle _

/-- A relative name leads from a directory along its components. -/
theorem append_of_not_isAbsolute {other : Path} (h : other.isAbsolute = false) (base : Path) :
    base.append other = base.below other.names := by
  rw [Path.append, if_neg (by simp [h]), Path.below]

/-- A file that is opened is that of the name in the first directory that has it. If the name begins with two
slashes, the file may be anywhere, and it lies below the directory only if the name itself says so. Otherwise it
lies below the directory exactly if the name goes down again along all components of the directory that it
climbs, and further; so it does if no component steps back. -/
theorem openResource_isBelow_iff
    (hlocate : locate disk entries name = (.ok (.file path content) : Except (Failure ε) _)) :
    ∃ before entry after, searchEntries disk entries = before ++ entry :: after ∧
      (∀ other ∈ before, Lacks disk (lookupName name) other) ∧ disk.isDirectory entry = .ok true ∧
      path = entry.append (Path.ofText (lookupName name)) ∧ disk.content path = .ok content ∧
      (∀ (α : Type) (reader : Stream → Except (ReadError ε) α), openResource disk entries name reader =
        ([(Holder.file path content).record],
          (reader (.file content.bytes)).mapError (ReadError.failure (.reading (lookupName name))))) ∧
      (StartsWithSlashes name → (path.IsBelow entry ↔
        (Path.ofText (lookupName name)).root = entry.root ∧ ∃ rest, rest ≠ [] ∧
          Path.settle (Path.ofText (lookupName name)).names = entry.names ++ rest)) ∧
      (¬ StartsWithSlashes name → (path.IsBelow entry ↔ ∃ rest, rest ≠ [] ∧
        Path.settle (Path.ofText (lookupName name)).names = entry.names.drop
          (entry.names.length - Path.climb 0 (Path.ofText (lookupName name)).names) ++ rest)) ∧
      (¬ StartsWithSlashes name → ".." ∉ (Path.ofText (lookupName name)).names → path.IsBelow entry) := by
  obtain ⟨before, entry, after, hentries, hbefore, hholds⟩ := exists_of_locateIn_eq_ok hlocate
  have hdotdot : ".." ∉ entry.names :=
    dotdot_notMem_of_mem_searchEntries (hentries ▸ List.mem_append_right _ List.mem_cons_self)
  obtain ⟨isDirectory, hpath, isFile⟩ := holds_file_iff.1 hholds
  refine ⟨before, entry, after, hentries, hbefore, isDirectory, hpath, isFile, ?_, ?_, ?_, ?_⟩
  · intro α reader
    simp only [openResource, hlocate, Holder.stream]
  · intro hslashes
    -- An absolute name replaces the path of the directory.
    rw [hpath, Path.append_of_isAbsolute entry (isAbsolute_ofText_lookupName_iff.2 hslashes), Path.isBelow_iff]
  · intro hslashes
    have hrelative := Bool.eq_false_iff.2 (mt isAbsolute_ofText_lookupName_iff.1 hslashes)
    rw [hpath, append_of_not_isAbsolute hrelative, Path.isBelow_below_iff hdotdot]
  · intro hslashes hnames
    have hrelative := Bool.eq_false_iff.2 (mt isAbsolute_ofText_lookupName_iff.1 hslashes)
    rw [append_of_not_isAbsolute hrelative] at hpath
    rw [hpath]
    refine Path.isBelow_below hdotdot hnames fun hempty => ?_
    -- Without components the file would be the directory.
    obtain ⟨hfalse, -, -⟩ := checks_of_content isFile
    rw [hpath, hempty, Path.below_nil, isDirectory] at hfalse
    simp at hfalse

theorem mem_searchEntries_singleton {text : String} {before after : List Path}
    (h : searchEntries disk [text] = before ++ entry :: after) : entry = entryPath disk text := by
  have hentry : entry ∈ searchEntries disk [text] := h ▸ List.mem_append_right before List.mem_cons_self
  exact List.mem_singleton.1 hentry

/-- By a plain name a file below the directory is read. By one that steps back, and by one that begins with two
slashes, it is one beside the directory. -/
theorem openResource_matchDisk_isBelow_iff :
    (⟨.slash, ["e", "x"]⟩ : Path).IsBelow ⟨.slash, ["e"]⟩ ∧
    (openResource matchDisk ["d"] "../p" (Stream.readAll (ε := Empty)) =
        ([⟨.debug, "autumnio.classpath", "reading /d/../p"⟩], .ok []) ∧
      ¬ (⟨.slash, ["d", "..", "p"]⟩ : Path).IsBelow ⟨.slash, ["d"]⟩) ∧
    (openResource matchDisk ["d"] "//p" (Stream.readAll (ε := Empty)) =
        ([⟨.debug, "autumnio.classpath", "reading /p"⟩], .ok []) ∧
      ¬ (⟨.slash, ["p"]⟩ : Path).IsBelow ⟨.slash, ["d"]⟩) := by
  refine ⟨?_, ?_, ?_⟩
  · have hlocate : locate matchDisk ["e"] "x" =
        (.ok (.file ⟨.slash, ["e", "x"]⟩ ⟨[1], none⟩) : Except (Failure Empty) _) := rfl
    obtain ⟨_, entry, _, hentries, -, -, -, -, -, -, -, hbelow⟩ := openResource_isBelow_iff hlocate
    obtain rfl := mem_searchEntries_singleton hentries
    exact hbelow (mt isAbsolute_ofText_lookupName_iff.2 (by decide)) (by decide)
  · have hlocate : locate matchDisk ["d"] "../p" =
        (.ok (.file ⟨.slash, ["d", "..", "p"]⟩ ⟨[], none⟩) : Except (Failure Empty) _) := rfl
    obtain ⟨_, entry, _, hentries, -, -, -, -, hopen, -, hbelow, -⟩ := openResource_isBelow_iff hlocate
    obtain rfl := mem_searchEntries_singleton hentries
    refine ⟨(hopen Bytes _).trans rfl, ?_⟩
    -- The name climbs one component and goes down along another one.
    have hdown : Path.settle (Path.ofText (lookupName "../p")).names = ["p"] := by decide
    have hclimbed : (entryPath matchDisk "d").names.drop ((entryPath matchDisk "d").names.length -
        Path.climb 0 (Path.ofText (lookupName "../p")).names) = ["d"] := by decide
    intro habove
    obtain ⟨rest, -, hrest⟩ := (hbelow (mt isAbsolute_ofText_lookupName_iff.2 (by decide))).1 habove
    rw [hdown, hclimbed] at hrest
    simp at hrest
  · have hlocate : locate matchDisk ["d"] "//p" =
        (.ok (.file ⟨.slash, ["p"]⟩ ⟨[], none⟩) : Except (Failure Empty) _) := rfl
    obtain ⟨_, entry, _, hentries, -, -, -, -, hopen, hbelow, -⟩ := openResource_isBelow_iff hlocate
    obtain rfl := mem_searchEntries_singleton hentries
    refine ⟨(hopen Bytes _).trans rfl, ?_⟩
    have hdown : Path.settle (Path.ofText (lookupName "//p")).names = ["p"] := by decide
    have hnames : (entryPath matchDisk "d").names = ["d"] := by decide
    intro habove
    obtain ⟨-, rest, -, hrest⟩ := (hbelow (isAbsolute_ofText_lookupName_iff.1 (by decide))).1 habove
    rw [hdown, hnames] at hrest
    simp at hrest

end Lookup
