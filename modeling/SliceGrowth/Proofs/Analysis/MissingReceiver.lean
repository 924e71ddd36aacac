import SliceGrowth.Proofs.Analysis.Findings
import SliceGrowth.Proofs.Policy
import SliceGrowth.Syntax.Acceptance

/-!
Where the check for slice fields breaks down. In a tree of the grammar's shape one thing goes against what
the check takes for granted: a method with a body and nothing in its receiver list.
-/
namespace SliceGrowth.Analysis

open Syntax

def LacksReceiver (method : Node) : Prop :=
  (method.child? "body").isSome ∧ receiverParameters method = []

def missingReceiver (f : SourceFile) (method : Node) : Failure :=
  .defect (.broken "method declaration without receiver"
    [("path", .text f.path.text), ("line", .number (method.span.row + 1))])

structure IsGoShaped (f : SourceFile) : Prop where
  listed : ∀ method ∈ methods f, ∃ list ∈ method.child? "receiver", list.kind = "parameter_list"
  typed : ∀ method ∈ methods f, ∀ parameter ∈ receiverParameters method, (parameter.child? "type").isSome
  spelled : ∀ declaration ∈ f.root.namedChildren, f.text declaration ≠ ""

theorem receiver_of_no_parameter (f : SourceFile) {method : Node} (none : receiverParameters method = []) :
    (receiver f method).outcome = .error (missingReceiver f method) := by
  unfold receiver
  rw [← receiverParameters, none]
  rfl

theorem receiver_failsOnly (f : SourceFile) {method : Node}
    (typed : ∀ parameter ∈ receiverParameters method, (parameter.child? "type").isSome) :
    (receiver f method).FailsOnly fun failure =>
      receiverParameters method = [] ∧ failure = missingReceiver f method := by
  cases found : receiverParameters method with
  | nil =>
    intro failure failed
    rw [receiver_of_no_parameter f found] at failed
    cases failed
    exact ⟨rfl, rfl⟩
  | cons parameter others =>
    obtain ⟨type, hasType⟩ := Option.isSome_iff_exists.mp (typed parameter (by simp [found]))
    unfold receiver
    rw [← receiverParameters, found]
    simp only [hasType]
    exact .of_returned rfl

theorem updates_of_lacksReceiver (policy : Policy) (operations : Operations) (f : SourceFile) {method : Node}
    (kind : method.kind = "method_declaration") (lacks : LacksReceiver method) :
    (updates policy operations f method).outcome = .error (missingReceiver f method) := by
  obtain ⟨body, hasBody⟩ := Option.isSome_iff_exists.mp lacks.1
  simp only [updates, kind, hasBody, beq_self_eq_true, ↓reduceIte]
  rw [Run.bind_of_error (receiver_of_no_parameter f lacks.2)]

theorem updates_failsOnly_lacksReceiver (operations : Operations) (f : SourceFile) {method : Node}
    (typed : ∀ parameter ∈ receiverParameters method, (parameter.child? "type").isSome) :
    (updates .collect operations f method).FailsOnly fun failure =>
      LacksReceiver method ∧ failure = missingReceiver f method := by
  unfold updates
  split
  · cases hasBody : method.child? "body" with
    | none => exact .of_returned rfl
    | some body =>
      refine Run.FailsOnly.bind ?_ fun r => .of_returned (bodyUpdates_returns operations f r body).outcome
      refine (receiver_failsOnly f typed).mono fun failure lacking => ?_
      exact ⟨⟨by simp [hasBody], lacking.1⟩, lacking.2⟩
  · exact .of_returned rfl

theorem targets_return {f : SourceFile}
    (spelled : ∀ declaration ∈ f.root.namedChildren, f.text declaration ≠ "") :
    ∃ declared, (targets .collect f).outcome = .ok declared := by
  refine Run.FailsOnly.returned ((targets_failsOnly f).mono ?_)
  rintro _ ⟨-, declaration, member, empty⟩
  exact spelled declaration member empty

theorem checkSlices_collect_failsOnly (operations : Operations) {f : SourceFile} (shape : IsGoShaped f) :
    (checkSlices .collect operations f).FailsOnly fun failure =>
      ∃ method ∈ methods f, LacksReceiver method ∧ failure = missingReceiver f method := by
  obtain ⟨declared, returned⟩ := targets_return shape.spelled
  have made : (Run.gather (updates .collect operations f) (methods f)).FailsOnly fun failure =>
      ∃ method ∈ methods f, LacksReceiver method ∧ failure = missingReceiver f method := by
    apply Run.FailsOnly.gather
    intro method member
    refine (updates_failsOnly_lacksReceiver operations f (shape.typed method member)).mono ?_
    exact fun failure lacking => ⟨method, member, lacking⟩
  intro failure failed
  rw [checkSlices, Run.bind_of_ok returned] at failed
  rw [(targets_yields f declared returned).1] at failed
  refine made.bind (fun us => ?_) failure failed
  exact .of_returned (findings_declared_returns f _).outcome

/-- Collecting returns, or breaks at a method that lacks a receiver; it cannot pass such a method. -/
theorem checkSlices_collect_cases (operations : Operations) {f : SourceFile} (shape : IsGoShaped f) :
    (∃ found, (checkSlices .collect operations f).outcome = .ok found ∧
      ∀ method ∈ methods f, ¬ LacksReceiver method) ∨
    ∃ method ∈ methods f, LacksReceiver method ∧
      (checkSlices .collect operations f).outcome = .error (missingReceiver f method) := by
  cases ended : (checkSlices .collect operations f).outcome with
  | ok found =>
    -- A run that returns has run every method, and one without a receiver would have ended it.
    refine .inl ⟨found, rfl, fun method member lacks => ?_⟩
    obtain ⟨declared, -, rest⟩ := Run.bind_eq_ok ended
    obtain ⟨made, gathered, -⟩ := Run.bind_eq_ok rest
    obtain ⟨own, returned⟩ := Run.gather_eq_ok gathered method member
    have kind : method.kind = "method_declaration" := eq_of_beq (List.mem_filter.mp member).2
    rw [updates_of_lacksReceiver .collect operations f kind lacks] at returned
    cases returned
  | error failure =>
    obtain ⟨method, member, lacks, rfl⟩ := checkSlices_collect_failsOnly operations shape failure ended
    exact .inr ⟨method, member, lacks, rfl⟩

/-- A file whose one method has an empty receiver list. -/
def emptyReceiver : SourceFile where
  path := .ofString "p.go"
  source := "package p;func () F()\x7b\x7d".toUTF8
  root := onLine "source_file" 0 23 [
    onLine "package_clause" 0 9 [onLine "package_identifier" 8 9 []],
    onLine "method_declaration" 10 23 [
      (onLine "parameter_list" 15 17 []).inRole "receiver",
      (onLine "field_identifier" 18 19 []).inRole "name",
      (onLine "parameter_list" 19 21 []).inRole "parameters",
      (onLine "block" 21 23 []).inRole "body"]]

theorem emptyReceiver_isGoShaped : IsGoShaped emptyReceiver where
  listed method member := by
    rw [List.mem_singleton.mp member]
    exact ⟨_, rfl, rfl⟩
  typed method member := by
    rw [List.mem_singleton.mp member]
    exact fun parameter absent => absurd absent List.not_mem_nil
  spelled := by decide +kernel

/-- A check of a file of the grammar's shape returns, stops at a construct it cannot judge, or breaks at a
method that lacks a receiver. It breaks exactly if there is such a method and it has not stopped before. -/
theorem checkSlices_breaks_at_missing_receiver (policy : Policy) (operations : Operations) (f : SourceFile)
    (shape : IsGoShaped f) :
    ((∃ found, (checkSlices policy operations f).outcome = .ok found) ∨
      (∃ construct, (checkSlices policy operations f).outcome = .error (.unsupported construct)) ∨
      ∃ method ∈ methods f, LacksReceiver method ∧
        (checkSlices policy operations f).outcome = .error (missingReceiver f method)) ∧
    ((∃ defect, (checkSlices policy operations f).outcome = .error (.defect defect)) ↔
      (∃ method ∈ methods f, LacksReceiver method) ∧
        (policy = .abort → (checkSlices .collect operations f).constructs = [])) := by
  have collected := checkSlices_collect_cases operations shape
  -- An aborting run that is not cut is the collecting run.
  have settled : (policy = .abort → (checkSlices .collect operations f).constructs = []) →
      (checkSlices policy operations f).outcome = (checkSlices .collect operations f).outcome := by
    intro unrecorded
    cases policy with
    | collect => rfl
    | abort => rw [checkSlices_abort, Run.outcome_cut, unrecorded rfl]
  by_cases unrecorded : policy = .abort → (checkSlices .collect operations f).constructs = []
  · rw [settled unrecorded]
    rcases collected with ⟨found, returned, all⟩ | ⟨method, member, lacks, broke⟩
    · refine ⟨.inl ⟨found, returned⟩, ?_, ?_⟩
      · rintro ⟨defect, broke⟩
        rw [returned] at broke
        cases broke
      · rintro ⟨⟨method, member, lacks⟩, -⟩
        exact absurd lacks (all method member)
    · exact ⟨.inr (.inr ⟨method, member, lacks, broke⟩), fun _ => ⟨⟨method, member, lacks⟩, unrecorded⟩,
        fun _ => ⟨_, broke⟩⟩
  · obtain ⟨rfl, recorded⟩ := Classical.not_imp.mp unrecorded
    obtain ⟨construct, others, first⟩ := List.exists_cons_of_ne_nil recorded
    have stopped : (checkSlices .abort operations f).outcome = .error (.unsupported construct) := by
      rw [checkSlices_abort, Run.outcome_cut, first]
    refine ⟨.inr (.inl ⟨construct, stopped⟩), ?_, fun both => absurd both.2 unrecorded⟩
    rintro ⟨defect, broke⟩
    rw [stopped] at broke
    cases broke

theorem checkSlices_breaks_at_missing_receiver_empty :
    IsGoShaped emptyReceiver ∧
      ∃ defect, (checkSlices .abort {} emptyReceiver).outcome = .error (.defect defect) := by
  have breaks := checkSlices_breaks_at_missing_receiver .abort {} emptyReceiver emptyReceiver_isGoShaped
  exact ⟨emptyReceiver_isGoShaped, breaks.2.mpr ⟨⟨_, List.mem_singleton_self _, rfl, rfl⟩, fun _ => rfl⟩⟩

/-- An accepted file of the grammar's shape breaks the check, whatever the policy. -/
theorem accepted_file_breaks :
    (SourceFile.accept emptyReceiver.path emptyReceiver.source emptyReceiver.root).outcome = .ok emptyReceiver ∧
      IsGoShaped emptyReceiver ∧
      ∀ policy, (checkSlices policy {} emptyReceiver).outcome = .error (.defect (.broken
        "method declaration without receiver" [("path", .text "p.go"), ("line", .number 1)])) := by
  refine ⟨rfl, emptyReceiver_isGoShaped, fun policy => ?_⟩
  cases policy <;> rfl

end SliceGrowth.Analysis
