import Mathlib.Data.List.Forall2
import SliceGrowth.Analysis.Slices
import SliceGrowth.Proofs.Run.Laws

/-!
Targets held against updates. Of a list of updates it only matters which fields are grown and which are
shrunk; the targets that are grown and never shrunk are reported, each where it is declared, and one of them
that is declared nowhere ends the run.
-/
namespace SliceGrowth.Analysis

/-- Some update of this kind is of this field. -/
def Makes (updates : List Update) (identity : String) (field : Option String) (kind : UpdateKind) : Prop :=
  ∃ u ∈ updates, u.target.identity = identity ∧ u.target.field = field ∧ u.kind = kind

instance (updates : List Update) (identity : String) (field : Option String) (kind : UpdateKind) :
    Decidable (Makes updates identity field kind) :=
  inferInstanceAs (Decidable (∃ u ∈ updates, _))

/-- The target is grown at least once and never shrunk. -/
def LeftGrown (updates : List Update) (target : Target) : Prop :=
  Makes updates target.identity target.field .grow ∧ ¬ Makes updates target.identity target.field .shrink

instance (updates : List Update) : DecidablePred (LeftGrown updates) := fun target =>
  inferInstanceAs (Decidable (Makes updates target.identity target.field .grow ∧ ¬ _))

/-- The finding is about the target, at its declaration. -/
def Target.ReportedAs (target : Target) (found : Finding) : Prop :=
  found.target = target ∧ target.position = some found.position

/-- The same fields are grown, and the same fields are shrunk. -/
def SameUpdates (updates others : List Update) : Prop :=
  ∀ identity field kind, kind ≠ .unknown →
    (Makes updates identity field kind ↔ Makes others identity field kind)

theorem isUpdated_iff_makes (updates : List Update) (target : Target) (kind : UpdateKind) :
    isUpdated updates target kind = true ↔ Makes updates target.identity target.field kind := by
  unfold isUpdated Makes
  rw [List.any_eq_true]
  simp only [Target.sameAs, Bool.and_eq_true, beq_iff_eq]
  constructor
  · intro updated
    obtain ⟨u, member, isKind, identity, field⟩ := updated
    exact ⟨u, member, identity, field, isKind⟩
  · intro made
    obtain ⟨u, member, identity, field, isKind⟩ := made
    exact ⟨u, member, isKind, identity, field⟩

theorem onlyGrows_iff (updates : List Update) (target : Target) :
    onlyGrows updates target = true ↔ LeftGrown updates target := by
  unfold onlyGrows LeftGrown
  rw [Bool.and_eq_true, Bool.not_eq_true', ← Bool.not_eq_true, isUpdated_iff_makes, isUpdated_iff_makes]

theorem filter_onlyGrows (targets : List Target) (updates : List Update) :
    targets.filter (onlyGrows updates) = targets.filter (LeftGrown updates ·) := by
  apply List.filter_congr
  intro target _
  have same := onlyGrows_iff updates target
  rw [Bool.eq_iff_iff, same, decide_eq_true_iff]

theorem SameUpdates.leftGrown_iff {updates others : List Update} (same : SameUpdates updates others)
    (target : Target) : LeftGrown updates target ↔ LeftGrown others target := by
  have grown := same target.identity target.field .grow (by decide)
  have shrunk := same target.identity target.field .shrink (by decide)
  unfold LeftGrown
  rw [grown, shrunk]

theorem SameUpdates.of_perm {updates others : List Update} (perm : updates.Perm others) :
    SameUpdates updates others := by
  intro identity field kind _
  unfold Makes
  simp only [perm.mem_iff]

theorem findings_congr (targets : List Target) {updates others : List Update}
    (same : SameUpdates updates others) : findings targets updates = findings targets others := by
  unfold findings
  simp only [filter_onlyGrows, same.leftGrown_iff]

/-- What the run ends with at a target that is declared nowhere. -/
def undeclared (target : Target) : Failure :=
  .defect (.broken "reported target has no declaration position" [("target", .text target.text)])

theorem finding_of_declared {target : Target} {position : Position} (declared : target.position = some position) :
    finding target = pure { target := target, position := position } := by
  simp only [finding, declared]

theorem finding_of_undeclared {target : Target} (nowhere : target.position = none) :
    finding target = Run.fail (undeclared target) := by
  simp only [finding, nowhere, undeclared]

theorem traverse_finding_of_declared {targets : List Target} (declared : ∀ t ∈ targets, t.position ≠ none) :
    ∃ found, (Run.traverse finding targets).outcome = .ok found ∧
      List.Forall₂ Target.ReportedAs targets found := by
  induction targets with
  | nil => exact ⟨[], rfl, .nil⟩
  | cons target targets ih =>
    obtain ⟨position, here⟩ := Option.ne_none_iff_exists'.mp (declared target (by simp))
    obtain ⟨found, returned, reported⟩ := ih fun t member => declared t (by simp [member])
    have first : (finding target).outcome = .ok ⟨target, position⟩ := by
      rw [finding_of_declared here]
      rfl
    refine ⟨⟨target, position⟩ :: found, ?_, .cons ⟨rfl, here⟩ reported⟩
    rw [Run.traverse, Run.bind_of_ok first, Run.bind_of_ok returned]
    rfl

/-- Targets are reported one by one, so the first that is declared nowhere ends the run. -/
theorem traverse_finding_of_undeclared {targets : List Target} {target : Target}
    (first : targets.find? (·.position.isNone) = some target) :
    (Run.traverse finding targets).outcome = .error (undeclared target) := by
  induction targets with
  | nil => cases first
  | cons other targets ih =>
    cases here : other.position with
    | none =>
      rw [List.find?_cons_of_pos (by simp [here])] at first
      cases first
      rw [Run.traverse, finding_of_undeclared here]
      rfl
    | some position =>
      rw [List.find?_cons_of_neg (by simp [here])] at first
      rw [Run.traverse, finding_of_declared here, pure_bind, Run.bind_of_error (ih first)]

theorem findings_of_declared {targets : List Target} {updates : List Update}
    (declared : ¬ ∃ t ∈ targets, t.position = none ∧ LeftGrown updates t) :
    ∃ found, (findings targets updates).outcome = .ok found ∧
      List.Forall₂ Target.ReportedAs (targets.filter (LeftGrown updates ·)) found := by
  unfold findings
  rw [filter_onlyGrows]
  apply traverse_finding_of_declared
  intro target member nowhere
  rw [List.mem_filter, decide_eq_true_iff] at member
  exact declared ⟨target, member.1, nowhere, member.2⟩

theorem findings_of_undeclared {targets : List Target} {updates : List Update}
    (nowhere : ∃ t ∈ targets, t.position = none ∧ LeftGrown updates t) :
    ∃ t, (findings targets updates).outcome = .error (undeclared t) := by
  obtain ⟨target, member, nowhere, grown⟩ := nowhere
  have kept : target ∈ targets.filter (LeftGrown updates ·) := by
    rw [List.mem_filter, decide_eq_true_iff]
    exact ⟨member, grown⟩
  have found : ((targets.filter (LeftGrown updates ·)).find? (·.position.isNone)).isSome := by
    rw [List.find?_isSome]
    exact ⟨target, kept, by simp [nowhere]⟩
  obtain ⟨first, isFirst⟩ := Option.isSome_iff_exists.mp found
  refine ⟨first, ?_⟩
  unfold findings
  rw [filter_onlyGrows]
  exact traverse_finding_of_undeclared isFirst

/-- A run over targets breaks exactly if one that is left grown is declared nowhere. Otherwise it reports the
targets that are left grown, in their order and as often as they are given, each where it is declared.
What it does is the same for all lists of updates that grow the same fields and shrink the same fields. -/
theorem findings_exact (targets : List Target) (updates : List Update) :
    ((∃ assumption evidence,
        (findings targets updates).outcome = .error (.defect (.broken assumption evidence))) ↔
      ∃ t ∈ targets, t.position = none ∧ LeftGrown updates t) ∧
    ((¬ ∃ t ∈ targets, t.position = none ∧ LeftGrown updates t) →
      ∃ found, (findings targets updates).outcome = .ok found ∧
        List.Forall₂ Target.ReportedAs (targets.filter (LeftGrown updates ·)) found) ∧
    ∀ others, SameUpdates updates others → findings targets updates = findings targets others := by
  refine ⟨⟨?_, ?_⟩, findings_of_declared, fun others => findings_congr targets⟩
  · intro broken
    obtain ⟨assumption, evidence, broke⟩ := broken
    by_contra declared
    obtain ⟨found, returned, -⟩ := findings_of_declared declared
    rw [returned] at broke
    cases broke
  · intro nowhere
    obtain ⟨t, broke⟩ := findings_of_undeclared nowhere
    exact ⟨_, _, broke⟩

/-- A field that is grown, and one that is grown and shrunk. -/
def storedFields : List Target :=
  ["d", "e"].map fun field =>
    { identity := "S", field := some field, position := some ⟨.ofString "store.go", 1, 15⟩ }

def storedUpdates (column : Nat) (entries : List (String × UpdateKind)) : List Update :=
  entries.map fun entry => {
    target := { identity := "S", field := some entry.1 }
    kind := entry.2
    position := ⟨.ofString "store.go", 1, column⟩ }

def plainUpdates : List Update := storedUpdates 40 [("d", .grow), ("e", .grow), ("e", .shrink)]

/-- The same in another order, elsewhere, with a repetition and beside an update that is not understood. -/
def shuffledUpdates : List Update :=
  storedUpdates 60 [("e", .shrink), ("d", .grow), ("d", .unknown), ("e", .grow), ("d", .grow)]

theorem findings_exact_storedFields :
    SameUpdates plainUpdates shuffledUpdates ∧
      findings storedFields plainUpdates = findings storedFields shuffledUpdates := by
  have same : SameUpdates plainUpdates shuffledUpdates := by
    intro identity field kind known
    have notUnknown : ¬ .unknown = kind := fun unknown => known unknown.symm
    simp only [Makes, plainUpdates, shuffledUpdates, storedUpdates, List.map_cons, List.map_nil, List.mem_cons,
      List.not_mem_nil, or_false, exists_eq_or_imp, exists_eq_left, notUnknown, and_false, false_or]
    tauto
  exact ⟨same, (findings_exact storedFields plainUpdates).2.2 shuffledUpdates same⟩

end SliceGrowth.Analysis
