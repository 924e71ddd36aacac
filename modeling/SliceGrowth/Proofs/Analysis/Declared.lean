import Mathlib.Data.List.Basic
import SliceGrowth.Analysis.Targets
import SliceGrowth.Proofs.Run.Laws

/-!
The fields that a file declares. A type is judged exactly if it is a struct without map fields; such a
type gives the names of its sequence fields, and any other type gives one construct and nothing else.
-/
namespace SliceGrowth.Analysis

open Syntax

/-- A line of fields that are maps. -/
def IsMapLine (line : Node) : Prop := ∃ type ∈ line.child? "type", type.kind = "map_type"

/-- A line of fields that are slices or arrays. -/
def IsSequenceLine (line : Node) : Prop :=
  ∃ type ∈ line.child? "type", type.kind = "slice_type" ∨ type.kind = "array_type"

instance : DecidablePred IsMapLine := fun line =>
  inferInstanceAs (Decidable (∃ type ∈ line.child? "type", type.kind = "map_type"))

instance : DecidablePred IsSequenceLine := fun line =>
  inferInstanceAs (Decidable (∃ type ∈ line.child? "type", type.kind = "slice_type" ∨ type.kind = "array_type"))

def DeclaresStruct (spec struct : Node) : Prop :=
  spec.kind = "type_spec" ∧ struct ∈ spec.child? "type" ∧ struct.kind = "struct_type"

def IsMapFreeStruct (spec : Node) : Prop :=
  ∃ struct, DeclaresStruct spec struct ∧ ∀ line ∈ fieldDeclarations struct, ¬ IsMapLine line

/-- The names of the slice and array fields of a declared type, in order. -/
def sequenceNames (spec : Node) : List Node :=
  (spec.child? "type").toList.flatMap fun type =>
    ((fieldDeclarations type).filter (IsSequenceLine ·)).flatMap (·.childrenIn "name")

def fieldTarget (f : SourceFile) (spec name : Node) : Target :=
  { identity := specIdentity f spec, field := some (f.text name), position := some (f.position name) }

/-- What is reported of a declared type that cannot be judged. -/
inductive SpecReport (f : SourceFile) (spec : Node) : Unsupported → Prop
  | nonStruct (other : ∀ struct, ¬ DeclaresStruct spec struct) :
    SpecReport f spec {
      kind := .nonStructType
      position := f.position spec
      detail := specIdentity f spec }
  | mapField {struct line : Node} (declared : DeclaresStruct spec struct)
    (first : (fieldDeclarations struct).find? (IsMapLine ·) = some line) :
    SpecReport f spec {
      kind := .mapField
      position := f.position line
      detail := specIdentity f spec ++ ": " ++ Text.spaced (f.text line) }

theorem specStruct?_eq_some_iff {spec struct : Node} :
    specStruct? spec = some struct ↔ DeclaresStruct spec struct := by
  unfold specStruct? DeclaresStruct
  by_cases kind : spec.kind = "type_spec"
  · simp [kind, Option.filter_eq_some_iff]
  · simp [kind]

instance : DecidablePred IsMapFreeStruct := fun spec =>
  decidable_of_iff (∃ struct ∈ specStruct? spec, ∀ line ∈ fieldDeclarations struct, ¬ IsMapLine line) (by
    simp only [Option.mem_def, specStruct?_eq_some_iff]
    rfl)

theorem DeclaresStruct.sequenceNames_eq {spec struct : Node} (declared : DeclaresStruct spec struct) :
    sequenceNames spec =
      ((fieldDeclarations struct).filter (IsSequenceLine ·)).flatMap (·.childrenIn "name") := by
  have type : spec.child? "type" = some struct := declared.2.1
  simp [sequenceNames, type]

theorem fieldTargets_of_map (f : SourceFile) (identity : String) {line : Node} (map : IsMapLine line) :
    fieldTargets f identity line = .error {
      kind := .mapField
      position := f.position line
      detail := identity ++ ": " ++ Text.spaced (f.text line) } := by
  obtain ⟨type, found, kind⟩ := map
  have found : line.child? "type" = some type := found
  simp [fieldTargets, found, kind]

theorem fieldTargets_of_not_map (f : SourceFile) (spec : Node) {line : Node} (other : ¬ IsMapLine line) :
    fieldTargets f (specIdentity f spec) line =
      .ok (if IsSequenceLine line then (line.childrenIn "name").map (fieldTarget f spec) else []) := by
  unfold fieldTargets
  cases found : line.child? "type" with
  | none => simp [IsSequenceLine, found]
  | some type =>
    have kind : type.kind ≠ "map_type" := fun same => other ⟨type, found, same⟩
    simp only [IsSequenceLine, isSequence, found, kind, Option.mem_def, beq_iff_eq,
      Bool.or_eq_true, Option.some.injEq, exists_eq_left', ↓reduceIte]
    split <;> rfl

theorem mapM_eq_ok {ε α β : Type} {g : α → Except ε β} {value : α → β} {xs : List α}
    (each : ∀ x ∈ xs, g x = .ok (value x)) : xs.mapM g = .ok (xs.map value) := by
  induction xs with
  | nil => rfl
  | cons x xs ih =>
    rw [List.mapM_cons, each x (by simp), ih fun y member => each y (by simp [member])]
    rfl

/-- The first element that fails decides the error. -/
theorem mapM_eq_error {ε α β : Type} {g : α → Except ε β} {value : α → β} {error : α → ε}
    {fails : α → Bool} {xs : List α} {x : α} (error_of : ∀ y, fails y → g y = .error (error y))
    (ok_of : ∀ y, ¬ fails y → g y = .ok (value y)) (first : xs.find? fails = some x) :
    xs.mapM g = .error (error x) := by
  induction xs with
  | nil => cases first
  | cons y ys ih =>
    rw [List.mapM_cons]
    by_cases failed : fails y
    · rw [List.find?_cons_of_pos failed] at first
      rw [← Option.some.inj first, error_of y failed]
      rfl
    · rw [List.find?_cons_of_neg failed] at first
      rw [ok_of y failed, ih first]
      rfl

theorem specTargets_of_mapFree (f : SourceFile) {spec : Node} (mapFree : IsMapFreeStruct spec) :
    specTargets f spec = .ok ((sequenceNames spec).map (fieldTarget f spec)) := by
  obtain ⟨struct, declared, lines⟩ := mapFree
  have each := mapM_eq_ok fun line member => fieldTargets_of_not_map f spec (lines line member)
  simp only [specTargets, specStruct?_eq_some_iff.mpr declared, each, declared.sequenceNames_eq]
  change Except.ok _ = Except.ok _
  congr 1
  induction fieldDeclarations struct with
  | nil => rfl
  | cons line rest ih =>
    by_cases sequence : IsSequenceLine line <;> simp [sequence, ih]

theorem specTargets_of_not_mapFree (f : SourceFile) {spec : Node} (other : ¬ IsMapFreeStruct spec) :
    ∃ construct, specTargets f spec = .error construct ∧ SpecReport f spec construct := by
  cases found : specStruct? spec with
  | none =>
    refine ⟨_, by simp only [specTargets, found], .nonStruct fun struct declared => ?_⟩
    rw [specStruct?_eq_some_iff.mpr declared] at found
    cases found
  | some struct =>
    have declared := specStruct?_eq_some_iff.mp found
    cases first : (fieldDeclarations struct).find? (IsMapLine ·) with
    | none =>
      refine absurd ⟨struct, declared, fun line member => ?_⟩ other
      simpa using List.find?_eq_none.mp first line member
    | some line =>
      have failed := mapM_eq_error
        (fun y map => fieldTargets_of_map f (specIdentity f spec) (of_decide_eq_true map))
        (fun y none => fieldTargets_of_not_map f spec (by simpa using none)) first
      refine ⟨_, ?_, .mapField declared first⟩
      simp only [specTargets, found, failed]
      rfl

/-- The targets of a declared type, if it can be judged. -/
def specValue (f : SourceFile) (spec : Node) : List Target :=
  if IsMapFreeStruct spec then (sequenceNames spec).map (fieldTarget f spec) else []

/-- What is recorded of a declared type, if it cannot be judged. -/
def specRecorded (f : SourceFile) (spec : Node) : List Unsupported :=
  match specTargets f spec with
  | .ok _ => []
  | .error construct => [construct]

theorem specRecorded_of_mapFree (f : SourceFile) {spec : Node} (mapFree : IsMapFreeStruct spec) :
    specRecorded f spec = [] := by
  simp only [specRecorded, specTargets_of_mapFree f mapFree]

theorem specRecorded_of_not_mapFree (f : SourceFile) {spec : Node} (other : ¬ IsMapFreeStruct spec) :
    ∃ construct, specRecorded f spec = [construct] ∧ SpecReport f spec construct := by
  obtain ⟨construct, failed, report⟩ := specTargets_of_not_mapFree f other
  exact ⟨construct, by simp only [specRecorded, failed], report⟩

theorem logTarget_returns (target : Target) : (logTarget target).Returns () [] := by
  unfold logTarget
  split <;> exact ⟨rfl, rfl⟩

theorem logged_targets_return (found : List Target) :
    (do Run.forEach logTarget found; return found : Run (List Target)).Returns found [] :=
  (Run.Returns.forEach fun target _ => logTarget_returns target).bind (Run.Returns.pure found)

theorem reportedTargets_collect_returns (f : SourceFile) (spec : Node) :
    (reportedTargets .collect f spec).Returns (specValue f spec) (specRecorded f spec) := by
  unfold reportedTargets specValue specRecorded
  by_cases mapFree : IsMapFreeStruct spec
  · simp only [specTargets_of_mapFree f mapFree, mapFree, if_true]
    exact logged_targets_return _
  · obtain ⟨construct, failed, -⟩ := specTargets_of_not_mapFree f mapFree
    simp only [failed, mapFree, if_false]
    exact (Run.Returns.report_collect construct).bind (Run.Returns.pure [])

/-- A declaration of no kind that the analysis knows. -/
def IsUnknownDeclaration (declaration : Node) : Prop :=
  declaration.kind ∉ "type_declaration" :: "var_declaration" :: fieldlessKinds

instance : DecidablePred IsUnknownDeclaration := fun declaration =>
  inferInstanceAs (Decidable (declaration.kind ∉ "type_declaration" :: "var_declaration" :: fieldlessKinds))

/-- What is reported of a declaration that cannot be judged as a whole. -/
def declarationReport (f : SourceFile) (declaration : Node) : Unsupported :=
  if declaration.kind = "var_declaration" then {
    kind := .packageVariable
    position := f.position declaration
    detail := Text.trim ((Text.firstLine? (f.text declaration)).getD "") }
  else {
    kind := .unknownDeclaration
    position := f.position declaration
    detail := declaration.kind }

def declarationValue (f : SourceFile) (declaration : Node) : List Target :=
  if declaration.kind = "type_declaration" then declaration.contents.flatMap (specValue f) else []

def declarationRecorded (f : SourceFile) (declaration : Node) : List Unsupported :=
  if declaration.kind = "type_declaration" then declaration.contents.flatMap (specRecorded f)
  else if declaration.kind = "var_declaration" ∨ IsUnknownDeclaration declaration then
    [declarationReport f declaration]
  else []

theorem typeDeclaration_returns (f : SourceFile) {declaration : Node}
    (kind : declaration.kind = "type_declaration") :
    (declarationTargets .collect f declaration).Returns (declarationValue f declaration)
      (declarationRecorded f declaration) := by
  have other : fieldlessKinds.contains "type_declaration" = false := by decide
  simp only [declarationTargets, declarationValue, declarationRecorded, kind, other, beq_self_eq_true,
    Bool.false_eq_true, ↓reduceIte]
  exact Run.Returns.gather fun spec _ => reportedTargets_collect_returns f spec

theorem declarationRecorded_of_fieldless (f : SourceFile) {declaration : Node}
    (kind : declaration.kind ∈ fieldlessKinds) : declarationRecorded f declaration = [] := by
  have notType : declaration.kind ≠ "type_declaration" :=
    ne_of_mem_of_not_mem kind (by decide)
  have notVar : declaration.kind ≠ "var_declaration" :=
    ne_of_mem_of_not_mem kind (by decide)
  have known : ¬ IsUnknownDeclaration declaration := by simp [IsUnknownDeclaration, kind]
  simp [declarationRecorded, notType, notVar, known]

theorem declarationTargets_of_fieldless (policy : Policy) (f : SourceFile) {declaration : Node}
    (kind : declaration.kind ∈ fieldlessKinds) : declarationTargets policy f declaration = pure [] := by
  simp only [declarationTargets, List.contains_iff_mem.mpr kind, ↓reduceIte]

theorem fieldlessDeclaration_returns (f : SourceFile) {declaration : Node}
    (kind : declaration.kind ∈ fieldlessKinds) :
    (declarationTargets .collect f declaration).Returns (declarationValue f declaration) [] := by
  have notType : declaration.kind ≠ "type_declaration" :=
    ne_of_mem_of_not_mem kind (by decide)
  rw [declarationTargets_of_fieldless .collect f kind, declarationValue, if_neg notType]
  exact Run.Returns.pure []

theorem declarationTargets_yields (f : SourceFile) (declaration : Node) :
    (declarationTargets .collect f declaration).Yields (declarationValue f declaration)
      (declarationRecorded f declaration) := by
  by_cases fieldless : declaration.kind ∈ fieldlessKinds
  · rw [declarationRecorded_of_fieldless f fieldless]
    exact (fieldlessDeclaration_returns f fieldless).yields
  by_cases type : declaration.kind = "type_declaration"
  · exact (typeDeclaration_returns f type).yields
  have contained : fieldlessKinds.contains declaration.kind = false := by simpa using fieldless
  by_cases var : declaration.kind = "var_declaration"
  · have varContained : fieldlessKinds.contains "var_declaration" = false := by decide
    have notType : ("var_declaration" == "type_declaration") = false := by decide
    simp only [declarationTargets, declarationValue, declarationRecorded, declarationReport, var,
      varContained, notType, beq_self_eq_true, String.reduceEq, true_or, Bool.false_eq_true, ↓reduceIte]
    cases Text.firstLine? (f.text declaration) with
    | none => exact Run.Yields.fail _ _ _
    | some line => exact ((Run.Returns.report_collect _).bind (Run.Returns.pure [])).yields
  · have unknown : IsUnknownDeclaration declaration := by
      simp [IsUnknownDeclaration, fieldless, type, var]
    simp only [declarationTargets, declarationValue, declarationRecorded, declarationReport, contained,
      type, var, unknown, beq_iff_eq, or_true, Bool.false_eq_true, ↓reduceIte]
    exact ((Run.Returns.report_collect _).bind (Run.Returns.pure [])).yields

theorem targets_yields (f : SourceFile) :
    (targets .collect f).Yields (f.root.namedChildren.flatMap (declarationValue f))
      (f.root.namedChildren.flatMap (declarationRecorded f)) :=
  Run.Yields.gather fun declaration _ => declarationTargets_yields f declaration

/-- The targets of a file are those of some of its declarations, if all others are of kinds without fields. -/
theorem targets_eq_filter (policy : Policy) (f : SourceFile) {keep : Node → Bool}
    (fieldless : ∀ declaration : Node, ¬ keep declaration → declaration.kind ∈ fieldlessKinds) :
    targets policy f = Run.gather (declarationTargets policy f) (f.root.namedChildren.filter keep) := by
  unfold targets
  symm
  apply Run.gather_filter
  intro declaration _ dropped
  exact declarationTargets_of_fieldless policy f (fieldless declaration dropped)

section Root

-- What a declaration gives is read off the source and the path of its file, and not off the rest of the tree.
variable (f : SourceFile) (root : Node)

theorem text_withRoot (n : Node) : SourceFile.text { f with root := root } n = f.text n := rfl

theorem position_withRoot (n : Node) : SourceFile.position { f with root := root } n = f.position n := rfl

theorem specTargets_withRoot (spec : Node) : specTargets { f with root := root } spec = specTargets f spec :=
  rfl

theorem declarationTargets_withRoot (policy : Policy) (declaration : Node) :
    declarationTargets policy { f with root := root } declaration = declarationTargets policy f declaration := by
  have reported : reportedTargets policy { f with root := root } = reportedTargets policy f := by
    funext spec
    simp only [reportedTargets, specTargets_withRoot]
  simp only [declarationTargets, reported, text_withRoot, position_withRoot]

end Root

end SliceGrowth.Analysis
