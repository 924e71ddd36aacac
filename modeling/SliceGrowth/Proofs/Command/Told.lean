import Mathlib.Data.List.Forall2
import SliceGrowth.Proofs.Analysis.Findings
import SliceGrowth.Proofs.Command.Logging
import SliceGrowth.Proofs.FileLocality

/-!
What the command tells the user: the findings of the packages in order, up to the first package whose check
fails, and then that failure. Log records come between these lines or not, as the level has it, and change
none of them.
-/
namespace SliceGrowth

open Analysis Syntax

theorem Analysis.checkSlices_found {policy : Policy} {operations : Operations} {f : SourceFile}
    {found : List Finding} (returned : (checkSlices policy operations f).outcome = .ok found) :
    found = ((declaredFields f).filter (OnlyGrown operations f ·)).map (·.finding f) := by
  cases policy with
  | collect => exact (checkSlices_yields operations f found returned).1
  | abort =>
    rw [checkSlices_abort, Run.outcome_cut] at returned
    cases recorded : (checkSlices .collect operations f).constructs with
    | nil =>
      rw [recorded] at returned
      exact (checkSlices_yields operations f found returned).1
    | cons construct others =>
      rw [recorded] at returned
      cases returned

namespace Options

/-- What the enabled checks find in a file, in the order of declarations. -/
def findingsIn (options : Options) (f : SourceFile) : List Finding :=
  if options.enabled.contains .slices then
    ((declaredFields f).filter (OnlyGrown options.operations f ·)).map (·.finding f)
  else []

theorem activeChecks_eq (options : Options) :
    options.activeChecks = if options.enabled.contains .slices then [.slices] else [] := by
  unfold activeChecks
  cases enabled : options.enabled.contains .slices <;>
    simp only [CheckId.all, List.filter, CheckId.isImplemented, Bool.and_false, Bool.and_true, enabled] <;> rfl

theorem checkFile_found {options : Options} {input : Input} {found : List Finding}
    (returned : (options.checkFile options.activeChecks input).outcome = .ok found) :
    ∃ f, input.file.outcome = .ok f ∧ found = options.findingsIn f := by
  obtain ⟨f, accepted, rest⟩ := Run.bind_eq_ok returned
  refine ⟨f, accepted, ?_⟩
  rw [activeChecks_eq] at rest
  unfold findingsIn
  split at rest
  · obtain ⟨first, one, none⟩ := Run.bind_eq_ok rest
    obtain ⟨own, checked, logged⟩ := Run.bind_eq_ok one
    cases none
    cases logged
    rw [List.append_nil, checkSlices_found checked, if_pos ‹_›]
  · cases rest
    rw [if_neg ‹_›]

theorem checkFiles_found {options : Options} {inputs : List Input} {found : List Finding}
    (returned : (Run.gather (options.checkFile options.activeChecks) inputs).outcome = .ok found) :
    ∃ files, List.Forall₂ (fun input f => input.file.outcome = .ok f) inputs files ∧
      found = files.flatMap options.findingsIn := by
  induction inputs generalizing found with
  | nil =>
    cases returned
    exact ⟨[], .nil, rfl⟩
  | cons input inputs ih =>
    obtain ⟨first, head, tail⟩ := Run.bind_eq_ok returned
    obtain ⟨others, rest, last⟩ := Run.bind_eq_ok tail
    cases last
    obtain ⟨f, accepted, rfl⟩ := checkFile_found head
    obtain ⟨files, each, rfl⟩ := ih rest
    exact ⟨f :: files, .cons accepted each, rfl⟩

theorem checkInputs_found {options : Options} {name : String} {problems : List Problem} {inputs : List Input}
    {report : Report} (returned : (options.checkInputs name problems inputs).outcome = .ok report) :
    ∃ files, List.Forall₂ (fun input f => input.file.outcome = .ok f) inputs files ∧
      report.findings = files.flatMap options.findingsIn := by
  cases problems with
  | cons problem others =>
    rw [checkInputs_cons] at returned
    cases returned
  | nil =>
    rw [checkInputs_outcome] at returned
    cases ended : (Run.gather (options.checkFile options.activeChecks) inputs).outcome with
    | error failure =>
      rw [Run.withConstructs_of_error ended] at returned
      cases returned
    | ok found =>
      rw [Run.withConstructs_of_ok ended] at returned
      cases returned
      exact checkFiles_found ended

end Options

namespace Run

variable {α β : Type}

/-- What a run has for the user. -/
def told (run : Run α) : List String := run.events.filterMap Event.line?

theorem OnlyLogs.told {run : Run α} (h : run.OnlyLogs) : run.told = [] := List.filterMap_eq_nil_iff.mpr h

/-- How a run ends, and what it has told by then. -/
structure EndsTelling (run : Run α) (ended : Except Failure α) (lines : List String) : Prop where
  outcome : run.outcome = ended
  told : run.told = lines

namespace EndsTelling

theorem bind_of_ok {run : Run α} {next : α → Run β} {a : α} {ended : Except Failure β} {us vs : List String}
    (first : run.EndsTelling (.ok a) us) (rest : (next a).EndsTelling ended vs) :
    (run >>= next).EndsTelling ended (us ++ vs) := by
  rw [Run.bind_of_ok first.outcome, ← first.told, ← rest.told]
  exact ⟨rest.outcome, List.filterMap_append⟩

theorem bind_of_error {run : Run α} {failure : Failure} {us : List String}
    (first : run.EndsTelling (.error failure) us) (next : α → Run β) :
    (run >>= next).EndsTelling (.error failure) us := by
  rw [Run.bind_of_error first.outcome]
  exact ⟨rfl, first.told⟩

end EndsTelling

end Run

namespace Command

end Command

end SliceGrowth
