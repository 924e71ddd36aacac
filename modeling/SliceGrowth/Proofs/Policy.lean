import SliceGrowth.Checker
import SliceGrowth.Proofs.Analysis.Assigned
import SliceGrowth.Proofs.Analysis.Declared
import SliceGrowth.Proofs.Run.Cut

/-!
The two policies compared. Aborting is collecting cut short: a run that stops at the first construct it
cannot judge is the run that records constructs, cut where it records the first.
-/
namespace SliceGrowth

open Analysis Syntax

namespace Analysis

theorem reportedTargets_abort (f : SourceFile) (spec : Node) :
    reportedTargets .abort f spec = (reportedTargets .collect f spec).cut := by
  unfold reportedTargets
  cases specTargets f spec with
  | ok found => exact (Run.cut_of_constructs_nil (logged_targets_return found).constructs).symm
  | error construct =>
    dsimp only
    rw [Run.cut_bind, Run.cut_report]
    rfl

theorem declarationTargets_abort (f : SourceFile) (declaration : Node) :
    declarationTargets .abort f declaration = (declarationTargets .collect f declaration).cut := by
  unfold declarationTargets
  split
  · rfl
  split
  · rw [Run.cut_gather, funext (reportedTargets_abort f)]
  split
  · cases Text.firstLine? (f.text declaration) with
    | none => rfl
    | some line =>
      dsimp only
      rw [Run.cut_bind, Run.cut_report]
      rfl
  · rw [Run.cut_bind, Run.cut_report]
    rfl

theorem targets_abort (f : SourceFile) : targets .abort f = (targets .collect f).cut := by
  unfold targets
  rw [Run.cut_gather, funext (declarationTargets_abort f)]

theorem bodyUpdates_abort (operations : Operations) (f : SourceFile) (receiver : Receiver) (body : Node) :
    bodyUpdates .abort operations f receiver body =
      (bodyUpdates .collect operations f receiver body).cut := by
  unfold bodyUpdates
  cases assignments f receiver.name body with
  | nil => rfl
  | cons first others =>
    cases receiverType f receiver.type with
    | error construct =>
      dsimp only
      rw [Run.cut_bind, Run.cut_report]
      rfl
    | ok identity => exact (Run.cut_of_constructs_nil (logged_updates_return _).constructs).symm

theorem updates_abort (operations : Operations) (f : SourceFile) (method : Node) :
    updates .abort operations f method = (updates .collect operations f method).cut := by
  unfold updates
  split
  · cases method.child? "body" with
    | none => rfl
    | some body =>
      dsimp only
      rw [Run.cut_bind, Run.cut_of_constructs_nil (Run.constructs_eq_nil_iff.mpr (receiver_emits _ f method))]
      simp only [bodyUpdates_abort]
  · rfl

theorem findings_emits (kind : Event → Prop) (declared : List Target) (made : List Update) :
    (findings declared made).Emits kind := by
  refine .traverse fun target _ => ?_
  unfold finding
  split
  · exact .pure _
  · exact .fail _

theorem checkSlices_abort (operations : Operations) (f : SourceFile) :
    checkSlices .abort operations f = (checkSlices .collect operations f).cut := by
  unfold checkSlices
  simp only [Run.cut_bind, Run.cut_gather, targets_abort, funext (updates_abort operations f),
    Run.cut_of_constructs_nil (Run.constructs_eq_nil_iff.mpr (findings_emits _ _ _))]

end Analysis

/-- Failures that end a check which records the constructs it cannot judge. -/
def Failure.EndsCollecting : Failure → Prop
  | load _ => True
  | parse _ _ => True
  | defect (.broken _ _) => True
  | defect .emptyDeclaration => True
  | _ => False

/-- Those of them that come from the analysis of a file. -/
def Failure.EndsAnalysis : Failure → Prop
  | defect (.broken _ _) => True
  | defect .emptyDeclaration => True
  | _ => False

theorem Failure.EndsAnalysis.endsCollecting (failure : Failure) (ends : failure.EndsAnalysis) :
    failure.EndsCollecting := by
  cases failure with
  | defect d => cases d <;> trivial
  | _ => cases ends

namespace Analysis

theorem firstLine?_eq_none {text : String} (none : Text.firstLine? text = none) : text = "" := by
  cases chars : text.toList with
  | nil => exact String.toList_eq_nil_iff.mp chars
  | cons c cs =>
    unfold Text.firstLine? at none
    rw [chars] at none
    cases none

theorem targets_failsOnly (f : SourceFile) :
    (targets .collect f).FailsOnly fun failure =>
      failure = .defect .emptyDeclaration ∧ ∃ declaration ∈ f.root.namedChildren, f.text declaration = "" := by
  apply Run.FailsOnly.gather
  intro declaration member
  unfold declarationTargets
  split
  · exact .of_returned rfl
  split
  · exact .gather fun spec _ => .of_returned (reportedTargets_collect_returns f spec).outcome
  split
  · split
    · exact .fail ⟨rfl, declaration, member, firstLine?_eq_none ‹_›⟩
    · exact .of_returned rfl
  · exact .of_returned rfl

theorem updates_failsOnly (operations : Operations) (f : SourceFile) (method : Node) :
    (updates .collect operations f method).FailsOnly Failure.EndsAnalysis := by
  have receiver_failsOnly : (receiver f method).FailsOnly Failure.EndsAnalysis := by
    unfold receiver
    split
    · exact .fail trivial
    · split
      · exact .fail trivial
      · exact .of_returned rfl
  unfold updates
  split
  · split
    · exact .of_returned rfl
    · rename_i body _
      refine receiver_failsOnly.bind fun r => ?_
      exact .of_returned (bodyUpdates_returns operations f r body).outcome
  · exact .of_returned rfl

theorem findings_failsOnly (declared : List Target) (made : List Update) :
    (findings declared made).FailsOnly Failure.EndsAnalysis := by
  unfold findings
  rw [Run.traverse_eq_gather]
  apply Run.FailsOnly.gather
  intro target _
  refine Run.FailsOnly.bind ?_ fun _ => .of_returned rfl
  unfold finding
  split
  · exact .of_returned rfl
  · exact .fail trivial

theorem checkSlices_failsOnly (operations : Operations) (f : SourceFile) :
    (checkSlices .collect operations f).FailsOnly Failure.EndsAnalysis := by
  have declaring : (targets .collect f).FailsOnly Failure.EndsAnalysis := by
    refine (targets_failsOnly f).mono ?_
    rintro _ ⟨rfl, -⟩
    trivial
  refine declaring.bind fun declared => ?_
  refine Run.FailsOnly.bind ?_ fun made => findings_failsOnly declared _
  exact .gather fun method _ => updates_failsOnly operations f method

end Analysis

namespace Options

/-- The options with another policy. -/
def under (options : Options) (policy : Policy) : Options := { options with policy := policy }

/-- The checks that are asked for and can be run. -/
def activeChecks (options : Options) : List CheckId :=
  CheckId.all.filter fun id => options.enabled.contains id && id.isImplemented

theorem runnable_returns (options : Options) : options.runnable.Returns options.activeChecks [] := by
  have each : options.activeChecks = CheckId.all.flatMap fun id =>
      if options.enabled.contains id && id.isImplemented then [id] else [] := by
    unfold activeChecks
    induction CheckId.all with
    | nil => rfl
    | cons id ids ih =>
      rw [List.flatMap_cons, ← ih, List.filter_cons]
      split <;> rfl
  rw [each]
  apply Run.Returns.gather_nil
  intro id _
  cases options.enabled.contains id with
  | false => exact Run.Returns.pure []
  | true =>
    cases id.isImplemented with
    | true => exact Run.Returns.pure [id]
    | false => exact ⟨rfl, rfl⟩

theorem runCheck_abort (options : Options) (f : SourceFile) (id : CheckId) :
    (options.under .abort).runCheck f id = ((options.under .collect).runCheck f id).cut := by
  cases id with
  | slices => exact checkSlices_abort options.operations f
  | goroutines => rfl

theorem checkFile_abort (options : Options) (checks : List CheckId) {input : Input}
    (unrecorded : input.file.constructs = []) :
    (options.under .abort).checkFile checks input = ((options.under .collect).checkFile checks input).cut := by
  unfold checkFile
  simp only [Run.cut_bind, Run.cut_gather, Run.cut_of_constructs_nil unrecorded, runCheck_abort]
  rfl

theorem checkFiles_abort (options : Options) (name : String) {inputs : List Input}
    (unrecorded : ∀ input ∈ inputs, input.file.constructs = []) :
    (options.under .abort).checkFiles name inputs = ((options.under .collect).checkFiles name inputs).cut := by
  have files : ∀ checks, Run.gather ((options.under .abort).checkFile checks) inputs =
      Run.gather (fun input => ((options.under .collect).checkFile checks input).cut) inputs := fun checks =>
    Run.gather_congr fun input member => checkFile_abort options checks (unrecorded input member)
  unfold checkFiles
  simp only [Run.cut_bind, Run.cut_gather, Run.cut_of_constructs_nil (runnable_returns _).constructs, files]
  rfl

theorem checkInputs_cons (options : Options) (name : String) (problem : Problem) (others : List Problem)
    (inputs : List Input) :
    options.checkInputs name (problem :: others) inputs = Run.fail (.load (problem :: others)) :=
  Run.bind_of_error rfl _

theorem checkInputs_nil (options : Options) (name : String) (inputs : List Input) :
    options.checkInputs name [] inputs = (options.checkFiles name inputs).withConstructs >>= fun found =>
      pure { findings := found.1, unsupported := found.2 } := rfl

theorem checkInputs_abort (options : Options) (name : String) (problems : List Problem) {inputs : List Input}
    (unrecorded : ∀ input ∈ inputs, input.file.constructs = []) :
    (options.under .abort).checkInputs name problems inputs =
      ((options.under .collect).checkInputs name problems inputs).cut := by
  cases problems with
  | cons problem others =>
    rw [checkInputs_cons, checkInputs_cons]
    rfl
  | nil =>
    rw [checkInputs_nil, checkInputs_nil, Run.cut_bind, Run.cut_withConstructs,
      checkFiles_abort options name unrecorded]
    rfl

theorem input_emits {kind : Event → Prop} (debug : ∀ channel message, kind (.debug channel message))
    (fs : FileSystem) (path : SlashPath) : (fs.input path).file.Emits kind := by
  refine .bind (.emit (debug _ _)) fun _ => ?_
  split
  · exact .fail _
  · unfold SourceFile.accept
    split
    · exact .fail _
    · exact .pure _

theorem check_abort (options : Options) (fs : FileSystem) (package : Package) :
    (options.under .abort).check fs package = ((options.under .collect).check fs package).cut := by
  apply checkInputs_abort
  intro input member
  obtain ⟨path, -, rfl⟩ := List.mem_map.mp member
  exact Run.constructs_eq_nil_iff.mpr (input_emits (fun _ _ => rfl) fs path)

theorem input_failsOnly (fs : FileSystem) (path : SlashPath) :
    (fs.input path).file.FailsOnly Failure.EndsCollecting := by
  refine Run.FailsOnly.bind (.of_returned rfl) fun _ => ?_
  split
  · exact .fail trivial
  · unfold SourceFile.accept
    split
    · exact .fail trivial
    · exact .of_returned rfl

section Failures

variable {kind : Failure → Prop}

theorem checkFile_failsOnly (options : Options) (checks : List CheckId) {input : Input}
    (analysis : ∀ failure : Failure, failure.EndsAnalysis → kind failure) (read : input.file.FailsOnly kind) :
    ((options.under .collect).checkFile checks input).FailsOnly kind := by
  refine read.bind fun f => .gather fun id _ => ?_
  refine Run.FailsOnly.bind ?_ fun found => .of_returned rfl
  cases id with
  | slices => exact (checkSlices_failsOnly options.operations f).mono analysis
  | goroutines => exact .of_returned rfl

theorem checkFiles_failsOnly (options : Options) (name : String) {inputs : List Input}
    (analysis : ∀ failure : Failure, failure.EndsAnalysis → kind failure)
    (read : ∀ input ∈ inputs, input.file.FailsOnly kind) :
    ((options.under .collect).checkFiles name inputs).FailsOnly kind := by
  refine Run.FailsOnly.bind (.of_returned (runnable_returns _).outcome) fun checks => ?_
  refine Run.FailsOnly.bind (.of_returned rfl) fun _ => ?_
  exact .gather fun input member => checkFile_failsOnly options checks analysis (read input member)

theorem checkInputs_failsOnly (options : Options) (name : String) {problems : List Problem}
    {inputs : List Input} (analysis : ∀ failure : Failure, failure.EndsAnalysis → kind failure)
    (loading : problems ≠ [] → kind (.load problems)) (read : ∀ input ∈ inputs, input.file.FailsOnly kind) :
    ((options.under .collect).checkInputs name problems inputs).FailsOnly kind := by
  cases problems with
  | cons problem others =>
    rw [checkInputs_cons]
    exact .fail (loading (by simp))
  | nil =>
    rw [checkInputs_nil]
    exact (checkFiles_failsOnly options name analysis read).withConstructs.bind fun found => .of_returned rfl

end Failures

theorem check_failsOnly (options : Options) (fs : FileSystem) (package : Package) :
    ((options.under .collect).check fs package).FailsOnly Failure.EndsCollecting := by
  apply checkInputs_failsOnly options package.name Failure.EndsAnalysis.endsCollecting fun _ => trivial
  intro input member
  obtain ⟨path, -, rfl⟩ := List.mem_map.mp member
  exact input_failsOnly fs path

theorem checkInputs_unsupported {options : Options} {name : String} {problems : List Problem}
    {inputs : List Input} {report : Report}
    (returned : (options.checkInputs name problems inputs).outcome = .ok report) :
    report.unsupported = (options.checkInputs name problems inputs).constructs := by
  cases problems with
  | cons problem others =>
    rw [checkInputs_cons] at returned
    cases returned
  | nil =>
    rw [checkInputs_nil] at returned ⊢
    obtain ⟨found, collected, rest⟩ := Run.bind_eq_ok returned
    rw [Run.constructs_bind_of_ok collected, Run.constructs_pure, List.append_nil]
    cases rest
    exact Run.withConstructs_snd collected

/-- Aborting and collecting agree up to the first construct that cannot be judged. -/
theorem check_abort_agrees_collect (options : Options) (fs : FileSystem) (package : Package) :
    let collected := (options.under .collect).check fs package
    let aborted := (options.under .abort).check fs package
    (∀ construct, collected.outcome ≠ .error (.unsupported construct)) ∧
    (∀ report, collected.outcome = .ok report → report.unsupported = [] → aborted.outcome = .ok report) ∧
    (∀ report construct rest, collected.outcome = .ok report → report.unsupported = construct :: rest →
      aborted.outcome = .error (.unsupported construct)) ∧
    (∀ failure, collected.outcome = .error failure → failure.EndsCollecting ∧
      aborted.outcome = .error ((collected.constructs.head?.map Failure.unsupported).getD failure)) := by
  intro collected aborted
  have outcome : aborted.outcome = _ :=
    (congrArg Run.outcome (check_abort options fs package)).trans (Run.outcome_cut collected)
  have recorded : ∀ report, collected.outcome = .ok report → report.unsupported = collected.constructs :=
    fun report returned => checkInputs_unsupported returned
  refine ⟨?_, ?_, ?_, ?_⟩
  · intro construct failed
    exact check_failsOnly options fs package _ failed
  · intro report returned none
    rw [outcome, ← recorded report returned, none, returned]
  · intro report construct rest returned first
    rw [outcome, ← recorded report returned, first]
  · intro failure failed
    refine ⟨check_failsOnly options fs package failure failed, ?_⟩
    rw [outcome]
    cases collected.constructs with
    | nil => exact failed
    | cons construct rest => rfl

end Options

end SliceGrowth
