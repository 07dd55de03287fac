import Lookup.Proofs.Command.Builtin
import Lookup.Proofs.Resource.Fault
import Lookup.Time.Almanac
import Lookup.Yaml.Data

/-!
# What escapes commands for resources

A run of a command for resources succeeds, or it reports what went wrong and prints nothing else. What
escapes it are the faults that are let through below, and those of reading the command line and of printing
the answer.

## Main definitions

* `Request.ComesTo` — the result of a request before its failure is told
* `Escapes` — what escapes a run, and when
* `EndsAsListed` — runs that let through exactly that

## Main results

* `run_of_comesTo` — how a run ends, by the result of its request
* `endsAsListed_mounts`, `endsAsListed_scan`, `endsAsListed_cat` — runs of the three commands
* `run_resources` — every end of a run is disciplined, and exactly the listed failures escape
-/

namespace Lookup.Command

open Files Text

variable {ε : Type} {kit : Toolkit} {world : World} {line : List String} {failure : Failure ε}
  {json verbose : Bool} {request : Request}

/-! ### Runs -/

/-- A request comes to a result, of which a failure is told or escapes. -/
def Request.ComesTo (world : World) (request : Request) (result : Except (Failure ε) Answer) : Prop :=
  ∃ operation context,
    (request.answer world).2 = result.mapError (Stop.during (.failed operation context))

theorem mounts_comesTo (world : World) (package : String) (path : List String) :
    (Request.mounts package path).ComesTo world
      ((mountLocations (ε := ε) world.disk (world.entries path) package).map (.mounts package)) := by
  refine ⟨"list mounts", ⟨some package, none⟩, ?_⟩
  simp only [Request.answer, answerMounts]
  cases mountLocations (ε := ε) world.disk (world.entries path) package <;> rfl

theorem scan_comesTo (world : World) (package : String) (path : List String)
    (ending? : Option String) (modules : Bool) :
    (Request.scan package path ending? modules).ComesTo world
      (match (scan world.disk (world.entries path) package : Run ScanStep (Failure ε)).failure? with
      | some failure => .error failure
      | none => .ok (listing package modules ((scan world.disk (world.entries path) package :
          Run ScanStep (Failure ε)).resources.filter (hasEnding ending?)))) := by
  refine ⟨"scan resources", ⟨some package, none⟩, ?_⟩
  simp only [Request.answer, answerScan]
  cases (scan world.disk (world.entries path) package : Run ScanStep (Failure ε)).failure? <;> rfl

theorem cat_comesTo (world : World) (name : String) (path : List String) :
    (Request.cat name path).ComesTo world
      ((readText (ε := ε) world.disk (world.entries path) name "utf-8").2.map (.content name)) := by
  refine ⟨"read resource", ⟨none, none⟩, ?_⟩
  simp only [Request.answer, answerCat]
  cases (readText (ε := ε) world.disk (world.entries path) name "utf-8").2 <;> rfl

/-- An error of the library is told, anything else escapes. -/
theorem during_cases (tell : Error → Trouble) (failure : Failure ε) :
    (failure.IsReported ∧ ∃ error, Stop.during tell failure = .trouble (tell error)) ∨
      (¬ failure.IsReported ∧ Stop.during tell failure = .escape failure) := by
  cases failure with
  | error error => exact .inl ⟨⟨error, rfl⟩, error, rfl⟩
  | fault | duplicate | foreign =>
    refine .inr ⟨?_, rfl⟩
    rintro ⟨error, herror⟩
    cases herror

/-- The answer to a request is its result, if that is one. -/
theorem Request.ComesTo.answer_eq_ok_iff {result : Except (Failure ε) Answer} {answer : Answer}
    (h : request.ComesTo world result) :
    (request.answer world : Logged (Except (Stop ε) Answer)).2 = .ok answer ↔ result = .ok answer := by
  obtain ⟨operation, context, hanswer⟩ := h
  rw [hanswer]
  cases result <;> simp [Except.mapError]

/-- A run of a request ends in success or a report, or it lets through what its result is let through
with, or it has an answer that is not printed. -/
theorem run_of_comesTo (hkit : kit.IsFaithful) (json verbose : Bool)
    {result : Except (Failure ε) Answer} (h : request.ComesTo world result) :
    (∀ outcome, (Invocation.run kit world ⟨json, verbose, request⟩ :
        Logged (Except (Failure ε) Outcome)).2 = .ok outcome → outcome.IsDisciplined) ∧
    ∀ failure, (Invocation.run kit world ⟨json, verbose, request⟩).2 = .error failure ↔
      (result = .error failure ∧ ¬ failure.IsReported) ∨
      json = false ∧ ∃ answer, (request.answer world : Logged (Except (Stop ε) Answer)).2 = .ok answer ∧
        answer.Unprinted kit failure := by
  simp only [h.answer_eq_ok_iff]
  obtain ⟨operation, context, hanswer⟩ := h
  cases result with
  | error reason =>
    rcases during_cases (.failed operation context) reason with ⟨hreported, error, hstop⟩ | ⟨hnot, hstop⟩
    · have hrun : (Invocation.run kit world ⟨json, verbose, request⟩ :
          Logged (Except (Failure ε) Outcome)).2 =
          .ok ((Trouble.failed operation context error).outcome kit verbose) := by
        simp only [Invocation.run, hanswer, Except.mapError, hstop]
      rw [hrun]
      refine ⟨fun outcome houtcome => ?_, fun failure => ?_⟩
      · rw [← Except.ok.inj houtcome]
        exact hkit.isDisciplined_failed _ _ _ _
      · simp only [reduceCtorEq, false_iff, not_or]
        refine ⟨?_, by simp⟩
        rintro ⟨heq, hfailure⟩
        exact hfailure (Except.error.inj heq ▸ hreported)
    · have hrun : (Invocation.run kit world ⟨json, verbose, request⟩ :
          Logged (Except (Failure ε) Outcome)).2 = .error reason := by
        simp only [Invocation.run, hanswer, Except.mapError, hstop]
      rw [hrun]
      refine ⟨fun outcome houtcome => absurd houtcome (by simp), fun failure => ?_⟩
      simp only [Except.error.injEq, reduceCtorEq, false_and, exists_false, and_false, or_false]
      exact ⟨fun heq => ⟨heq, heq ▸ hnot⟩, And.left⟩
  | ok answer =>
    have hrun : (Invocation.run kit world ⟨json, verbose, request⟩ :
        Logged (Except (Failure ε) Outcome)).2 = (answer.outcome kit json).2 := by
      simp only [Invocation.run, hanswer, Except.mapError]
    rw [hrun]
    refine ⟨fun outcome houtcome => .inl (status_of_outcome houtcome), fun failure => ?_⟩
    simp [hkit.outcome_eq_error_iff]

theorem run_of_read {invocation : Invocation} (hread : kit.parse world line = .ok invocation) :
    (run kit world line : Logged (Except (Failure ε) Outcome)) = invocation.run kit world := by
  rw [run, hread]

/-! ### What escapes -/

/-- What escapes a run of a command for resources. -/
inductive Escapes (kit : Toolkit) (world : World) (line : List String) : Failure ε → Prop
  /-- The command line cannot be read. -/
  | unread {fault : Fault} (hread : kit.parse world line = .error (.fault fault)) :
      Escapes kit world line (.fault fault)
  /-- The search for mounts comes to an archive whose fault is let through. -/
  | mounts {json verbose : Bool} {package : String} {path : List String} {escaping : ArchiveFault}
      (hread : kit.parse world line = .ok ⟨json, verbose, .mounts package path⟩)
      (hstops : MountsStopAt ε world.disk (world.entries path) package escaping) :
      Escapes kit world line (.fault (.archive escaping))
  /-- A scan comes to such an archive when it searches for mounts. -/
  | scan {json verbose modules : Bool} {package : String} {path : List String}
      {ending? : Option String} {escaping : ArchiveFault}
      (hread : kit.parse world line = .ok ⟨json, verbose, .scan package path ending? modules⟩)
      (hstops : MountsStopAt ε world.disk (world.entries path) package escaping) :
      Escapes kit world line (.fault (.archive escaping))
  /-- A scan finds the mounts and comes to an archive that leads it back to its start. -/
  | endless {json verbose modules : Bool} {package : String} {path : List String}
      {ending? : Option String}
      (hread : kit.parse world line = .ok ⟨json, verbose, .scan package path ending? modules⟩)
      (hback : ScanTurnsBack ε world.disk (world.entries path) package) :
      Escapes kit world line (.fault .endless)
  /-- The search for a resource comes to an archive whose fault is let through. -/
  | cat {json verbose : Bool} {name : String} {path : List String} {escaping : ArchiveFault}
      (hread : kit.parse world line = .ok ⟨json, verbose, .cat name path⟩)
      (hstops : LocateStopsAt ε world.disk (world.entries path) name escaping) :
      Escapes kit world line (.fault (.archive escaping))
  /-- A resource is found but cannot be read as a text. -/
  | unreadable {json verbose : Bool} {name : String} {path : List String} {holder : Holder}
      {fault : Fault}
      (hread : kit.parse world line = .ok ⟨json, verbose, .cat name path⟩)
      (hlocate : locate world.disk (world.entries path) name = (.ok holder : Except (Failure ε) _))
      (hunreadable : IsUnreadable holder fault) : Escapes kit world line (.fault fault)
  /-- There is an answer, but its table cannot be printed or its text not be written. -/
  | unprinted {verbose : Bool} {request : Request} {answer : Answer} {failure : Failure ε}
      (hread : kit.parse world line = .ok ⟨false, verbose, request⟩)
      (hanswer : (request.answer world : Logged (Except (Stop ε) Answer)).2 = .ok answer)
      (hprint : answer.Unprinted kit failure) : Escapes kit world line failure

/-- An answer to a request is to be printed for readers and is not. -/
def Request.EndsUnprinted (kit : Toolkit) (world : World) (json : Bool) (request : Request)
    (failure : Failure ε) : Prop :=
  json = false ∧ ∃ answer, (request.answer world : Logged (Except (Stop ε) Answer)).2 = .ok answer ∧
    answer.Unprinted kit failure

theorem Request.EndsUnprinted.escapes (hread : kit.parse world line = .ok ⟨json, verbose, request⟩)
    (h : request.EndsUnprinted kit world json failure) : Escapes kit world line failure := by
  obtain ⟨rfl, answer, hanswer, hprint⟩ := h
  exact .unprinted hread hanswer hprint

/-- What escapes a run that lists mounts. -/
theorem escapes_mounts_iff {package : String} {path : List String}
    (hread : kit.parse world line = .ok ⟨json, verbose, .mounts package path⟩) :
    Escapes kit world line failure ↔
      (∃ escaping, failure = .fault (.archive escaping) ∧
        MountsStopAt ε world.disk (world.entries path) package escaping) ∨
      (Request.mounts package path).EndsUnprinted kit world json failure := by
  constructor
  · intro h
    cases h with
    | mounts hother hstops =>
      rw [hread] at hother
      cases hother
      exact .inl ⟨_, rfl, hstops⟩
    | unprinted hother hanswer hprint =>
      rw [hread] at hother
      cases hother
      exact .inr ⟨rfl, _, hanswer, hprint⟩
    | unread hother | scan hother | endless hother | cat hother | unreadable hother =>
      rw [hread] at hother
      cases hother
  · rintro (⟨escaping, rfl, hstops⟩ | hprint)
    · exact .mounts hread hstops
    · exact hprint.escapes hread

/-- What escapes a run that lists resources. -/
theorem escapes_scan_iff {modules : Bool} {package : String} {path : List String}
    {ending? : Option String}
    (hread : kit.parse world line = .ok ⟨json, verbose, .scan package path ending? modules⟩) :
    Escapes kit world line failure ↔
      ((∃ escaping, failure = .fault (.archive escaping) ∧
        MountsStopAt ε world.disk (world.entries path) package escaping) ∨
      failure = .fault .endless ∧ ScanTurnsBack ε world.disk (world.entries path) package) ∨
      (Request.scan package path ending? modules).EndsUnprinted kit world json failure := by
  constructor
  · intro h
    cases h with
    | scan hother hstops =>
      rw [hread] at hother
      cases hother
      exact .inl (.inl ⟨_, rfl, hstops⟩)
    | endless hother hback =>
      rw [hread] at hother
      cases hother
      exact .inl (.inr ⟨rfl, hback⟩)
    | unprinted hother hanswer hprint =>
      rw [hread] at hother
      cases hother
      exact .inr ⟨rfl, _, hanswer, hprint⟩
    | unread hother | mounts hother | cat hother | unreadable hother =>
      rw [hread] at hother
      cases hother
  · rintro ((⟨escaping, rfl, hstops⟩ | ⟨rfl, hback⟩) | hprint)
    · exact .scan hread hstops
    · exact .endless hread hback
    · exact hprint.escapes hread

/-- What escapes a run that prints a text. -/
theorem escapes_cat_iff {name : String} {path : List String}
    (hread : kit.parse world line = .ok ⟨json, verbose, .cat name path⟩) :
    Escapes kit world line failure ↔
      ((∃ escaping, failure = .fault (.archive escaping) ∧
        LocateStopsAt ε world.disk (world.entries path) name escaping) ∨
      ∃ holder fault, locate world.disk (world.entries path) name =
          (.ok holder : Except (Failure ε) _) ∧
        IsUnreadable holder fault ∧ failure = .fault fault) ∨
      (Request.cat name path).EndsUnprinted kit world json failure := by
  constructor
  · intro h
    cases h with
    | cat hother hstops =>
      rw [hread] at hother
      cases hother
      exact .inl (.inl ⟨_, rfl, hstops⟩)
    | unreadable hother hlocate hunreadable =>
      rw [hread] at hother
      cases hother
      exact .inl (.inr ⟨_, _, hlocate, hunreadable, rfl⟩)
    | unprinted hother hanswer hprint =>
      rw [hread] at hother
      cases hother
      exact .inr ⟨rfl, _, hanswer, hprint⟩
    | unread hother | mounts hother | scan hother | endless hother =>
      rw [hread] at hother
      cases hother
  · rintro ((⟨escaping, rfl, hstops⟩ | ⟨holder, fault, hlocate, hunreadable, rfl⟩) | hprint)
    · exact .cat hread hstops
    · exact .unreadable hread hlocate hunreadable
    · exact hprint.escapes hread

/-- A run ends as it is to end, or it lets through exactly what is listed. -/
def EndsAsListed (ε : Type) (kit : Toolkit) (world : World) (line : List String) : Prop :=
  (∀ outcome, (run kit world line : Logged (Except (Failure ε) Outcome)).2 = .ok outcome →
    outcome.IsDisciplined) ∧
  ∀ failure : Failure ε, (run kit world line).2 = .error failure ↔ Escapes kit world line failure

/-- A run whose command line asks for nothing prints help or is reported, or a fault escapes. -/
theorem endsAsListed_of_ending (hkit : kit.IsFaithful) {ending : Ending}
    (hread : kit.parse world line = .error ending) : EndsAsListed ε kit world line := by
  have hrun : (run kit world line : Logged (Except (Failure ε) Outcome)).2 = ending.outcome := by
    rw [run, hread]
  rw [EndsAsListed, hrun]
  refine ⟨fun outcome => hkit.isDisciplined_ending hread, fun failure => ?_⟩
  constructor
  · intro h
    cases ending with
    | help text => cases h
    | usage report => cases h
    | fault fault =>
      obtain rfl := Except.error.inj h
      exact .unread hread
  · intro h
    cases h with
    | unread hother =>
      rw [hread] at hother
      cases hother
      rfl
    | mounts hother | scan hother | endless hother | cat hother | unreadable hother | unprinted hother =>
      rw [hread] at hother
      cases hother

/-- A run that lists mounts lets through what the search for them does, or is not printed. -/
theorem endsAsListed_mounts (hkit : kit.IsFaithful) {package : String} {path : List String}
    (hread : kit.parse world line = .ok ⟨json, verbose, .mounts package path⟩) :
    EndsAsListed ε kit world line := by
  obtain ⟨houtcome, hfailure⟩ :=
    run_of_comesTo hkit json verbose (mounts_comesTo (ε := ε) world package path)
  rw [EndsAsListed, run_of_read hread]
  refine ⟨houtcome, fun failure => ?_⟩
  rw [hfailure, escapes_mounts_iff hread, ← mountLocations_unreported_iff, map_eq_error_iff]
  rfl

/-- A run that lists resources lets through what the search for mounts does, or does not end, or is not
printed. -/
theorem endsAsListed_scan (hkit : kit.IsFaithful) {modules : Bool} {package : String} {path : List String}
    {ending? : Option String} (hcwd : ∀ name ∈ world.disk.cwd, IsComponent name)
    (hread : kit.parse world line = .ok ⟨json, verbose, .scan package path ending? modules⟩) :
    EndsAsListed ε kit world line := by
  obtain ⟨houtcome, hfailure⟩ :=
    run_of_comesTo hkit json verbose (scan_comesTo (ε := ε) world package path ending? modules)
  rw [EndsAsListed, run_of_read hread]
  refine ⟨houtcome, fun failure => ?_⟩
  rw [hfailure, escapes_scan_iff hread, ← mountLocations_unreported_iff, ← scan_unreported_iff hcwd]
  cases (scan world.disk (world.entries path) package : Run ScanStep (Failure ε)).failure? with
  | some other => simp [Request.EndsUnprinted]
  | none => simp [Request.EndsUnprinted]

/-- A run that prints a text lets through what reading it does, or is not printed. -/
theorem endsAsListed_cat (hkit : kit.IsFaithful) {name : String} {path : List String}
    (hread : kit.parse world line = .ok ⟨json, verbose, .cat name path⟩) :
    EndsAsListed ε kit world line := by
  obtain ⟨houtcome, hfailure⟩ :=
    run_of_comesTo hkit json verbose (cat_comesTo (ε := ε) world name path)
  rw [EndsAsListed, run_of_read hread]
  refine ⟨houtcome, fun failure => ?_⟩
  rw [hfailure, escapes_cat_iff hread, ← readText_unreported_iff, map_eq_error_iff]
  rfl

/-- A run of a command for resources ends with success, or with the status for failures, a report and no
output; and what escapes it instead is exactly what is let through below, a fault of reading the command line,
or an answer that cannot be printed. The names of the working directory are components, as those of any
directory are. -/
theorem run_resources (hkit : kit.IsFaithful) (hcwd : ∀ name ∈ world.disk.cwd, IsComponent name)
    (hline : ∀ invocation, kit.parse world line = .ok invocation → invocation.request.IsForResources) :
    (∀ outcome, (run kit world line : Logged (Except (Failure ε) Outcome)).2 = .ok outcome →
      outcome.status = 0 ∨ outcome.status = 2 ∧ outcome.output = "" ∧ outcome.errors ≠ "") ∧
    ∀ failure : Failure ε, (run kit world line).2 = .error failure ↔ Escapes kit world line failure := by
  cases hread : kit.parse world line with
  | error ending => exact endsAsListed_of_ending hkit hread
  | ok invocation =>
    have hrequest := hline invocation hread
    obtain ⟨json, verbose, request⟩ := invocation
    cases request with
    | mounts package path => exact endsAsListed_mounts hkit hread
    | scan package path ending? modules => exact endsAsListed_scan hkit hcwd hread
    | cat name path => exact endsAsListed_cat hkit hread
    | get | list => exact hrequest.elim

/-- A directory with a file whose only byte begins no character of UTF-8. -/
def brokenWorld : World :=
  ⟨⟨.directory [("d", .directory [("b", .file ⟨[0xFF], none⟩)])], [], 0⟩, .empty, [], "", [],
    Time.almanac, Yaml.read fun _ => ""⟩

/-- The file escapes being printed as a text. -/
theorem run_brokenWorld :
    (run .builtin brokenWorld ["resources", "cat", "b", "--path", "d"] :
      Logged (Except (Failure Empty) Outcome)).2 = .error (.fault .undecodable) := by
  have hread : Toolkit.builtin.parse brokenWorld ["resources", "cat", "b", "--path", "d"] =
      .ok ⟨false, false, .cat "b" ["d"]⟩ := by
    rw [parse_builtin_eq_ok_iff]
    decide +kernel
  have henter : programForm.enter ["resources", "cat", "b", "--path", "d"] =
      .ok (⟨[], ["resources", "cat", "b", "--path", "d"]⟩, "resources", ["cat", "b", "--path", "d"]) := by
    decide +kernel
  have hlocate : locate brokenWorld.disk (brokenWorld.entries ["d"]) "b" =
      (.ok (.file ⟨.slash, ["d", "b"]⟩ ⟨[0xFF], none⟩) : Except (Failure Empty) _) := rfl
  refine ((run_resources Toolkit.builtin_isFaithful (by decide) fun _ => isForResources_of_enter henter).2 _).2
    (.unreadable hread hlocate ?_)
  have hbytes : (Holder.file ⟨.slash, ["d", "b"]⟩ ⟨[0xFF], none⟩).HasBytes [0xFF] := rfl
  exact .undecodable hbytes (by decide) (by decide)

end Lookup.Command
