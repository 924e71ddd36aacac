import Mathlib.Data.List.Forall2
import SliceGrowth.Proofs.Policy

/-!
A package is checked file by file. The report on some files is put together from the reports on each of
them alone, so that no file has a say in what is found in another.
-/
namespace SliceGrowth

open Analysis

instance : Append Report where
  append a b := { findings := a.findings ++ b.findings, unsupported := a.unsupported ++ b.unsupported }

namespace Options

/-- The report on some files, in terms of the checks of each. -/
theorem checkInputs_outcome (options : Options) (name : String) (inputs : List Input) :
    (options.checkInputs name [] inputs).outcome = do
      let found ← (Run.gather (options.checkFile options.activeChecks) inputs).withConstructs.outcome
      return { findings := found.1, unsupported := found.2 } := by
  have logged : ∀ event : Event, event.construct? = none → (Run.emit event).Returns () [] := by
    intro event unrecorded
    exact ⟨rfl, List.filterMap_cons_none unrecorded⟩
  have same : (options.checkFiles name inputs).withConstructs.outcome =
      (Run.gather (options.checkFile options.activeChecks) inputs).withConstructs.outcome := by
    unfold checkFiles
    rw [Run.withConstructs_bind_of_returns options.runnable_returns,
      Run.withConstructs_bind_of_returns (logged _ rfl)]
  rw [checkInputs_nil, ← same]
  cases ended : (options.checkFiles name inputs).withConstructs.outcome with
  | error failure =>
    rw [Run.bind_of_error ended]
    rfl
  | ok found =>
    rw [Run.bind_of_ok ended]
    rfl

theorem checkInputs_empty (options : Options) (name : String) :
    (options.checkInputs name [] []).outcome = .ok {} := by
  rw [checkInputs_outcome]
  rfl

theorem checkInputs_append (options : Options) (name front back : String) (as bs : List Input) :
    (options.checkInputs name [] (as ++ bs)).outcome = do
      let first ← (options.checkInputs front [] as).outcome
      let second ← (options.checkInputs back [] bs).outcome
      return first ++ second := by
  simp only [checkInputs_outcome, Run.withConstructs_gather_append]
  cases (Run.gather (options.checkFile options.activeChecks) as).withConstructs.outcome with
  | error failure => rfl
  | ok found =>
    cases (Run.gather (options.checkFile options.activeChecks) bs).withConstructs.outcome with
    | error failure => rfl
    | ok found' => rfl

theorem checkInputs_cons_eq_ok {options : Options} {name : String} {input : Input} {inputs : List Input}
    {report : Report} (returned : (options.checkInputs name [] (input :: inputs)).outcome = .ok report) :
    ∃ first rest, (options.checkInputs name [] [input]).outcome = .ok first ∧
      (options.checkInputs name [] inputs).outcome = .ok rest ∧ report = first ++ rest := by
  have split := options.checkInputs_append name name name [input] inputs
  rw [List.singleton_append, returned] at split
  cases alone : (options.checkInputs name [] [input]).outcome with
  | error failure =>
    rw [alone] at split
    cases split
  | ok first =>
    cases others : (options.checkInputs name [] inputs).outcome with
    | error failure =>
      rw [alone, others] at split
      cases split
    | ok rest =>
      rw [alone, others] at split
      cases split
      exact ⟨first, rest, rfl, rfl, rfl⟩

/-- Each file of a package that is reported on is reported on alone as well, and these reports strung
together are the report. -/
theorem checkInputs_by_file {options : Options} {name : String} {inputs : List Input} {report : Report}
    (returned : (options.checkInputs name [] inputs).outcome = .ok report) :
    ∃ own : List Report,
      List.Forall₂ (fun input r => (options.checkInputs name [] [input]).outcome = .ok r) inputs own ∧
      report.findings = own.flatMap (·.findings) ∧ report.unsupported = own.flatMap (·.unsupported) := by
  induction inputs generalizing report with
  | nil =>
    rw [checkInputs_empty] at returned
    cases returned
    exact ⟨[], .nil, rfl, rfl⟩
  | cons input inputs ih =>
    obtain ⟨first, rest, alone, others, rfl⟩ := checkInputs_cons_eq_ok returned
    obtain ⟨own, each, findings, unsupported⟩ := ih others
    refine ⟨first :: own, .cons alone each, ?_, ?_⟩
    · rw [List.flatMap_cons, ← findings]
      rfl
    · rw [List.flatMap_cons, ← unsupported]
      rfl

/-- The check of two lists of files fails as the check of the first does, or else as that of the second, and
otherwise reports what the two report. In the report every file counts as if it were alone, so a field that
one file grows is never made up for by another. -/
theorem check_is_file_local (options : Options) (name front back : String) (as bs : List Input) :
    let whole := (options.checkInputs name [] (as ++ bs)).outcome
    let first := (options.checkInputs front [] as).outcome
    let second := (options.checkInputs back [] bs).outcome
    (∀ failure, first = .error failure → whole = .error failure) ∧
    (∀ report failure, first = .ok report → second = .error failure → whole = .error failure) ∧
    (∀ report report', first = .ok report → second = .ok report' → whole = .ok {
      findings := report.findings ++ report'.findings
      unsupported := report.unsupported ++ report'.unsupported }) ∧
    (∀ report, whole = .ok report → ∃ own : List Report,
      List.Forall₂ (fun input r => (options.checkInputs name [] [input]).outcome = .ok r) (as ++ bs) own ∧
      report.findings = own.flatMap (·.findings) ∧
      report.unsupported = own.flatMap (·.unsupported)) := by
  intro whole first second
  have split : whole = first >>= fun report => second >>= fun report' => pure (report ++ report') :=
    options.checkInputs_append name front back as bs
  refine ⟨?_, ?_, ?_, ?_⟩
  · intro failure failed
    rw [split, failed]
    rfl
  · intro report failure returned failed
    rw [split, returned, failed]
    rfl
  · intro report report' returned returned'
    rw [split, returned, returned']
    rfl
  · intro report returned
    exact checkInputs_by_file returned

end Options

end SliceGrowth
