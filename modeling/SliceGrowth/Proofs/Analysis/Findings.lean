import SliceGrowth.Analysis.Slices
import SliceGrowth.Proofs.Analysis.Assigned
import SliceGrowth.Proofs.Analysis.Declared
import SliceGrowth.Proofs.Text.Compact

/-!
What the check for slice fields finds, said of the syntax tree alone: the slice and array fields of
structs without maps that a method of the type grows and no method of the type shrinks.
-/
namespace SliceGrowth.Analysis

open Syntax

/-- The name of a slice or array field, and the declared type it belongs to. -/
structure DeclaredField where
  spec : Node
  name : Node

/-- The slice and array fields of the types declared in a file, in order. -/
def declaredFields (f : SourceFile) : List DeclaredField :=
  (f.root.ofKind "type_declaration").flatMap fun declaration =>
    (declaration.ofKind "type_spec").flatMap fun spec =>
      (sequenceNames spec).map fun name => { spec := spec, name := name }

def DeclaredField.target (f : SourceFile) (d : DeclaredField) : Target := fieldTarget f d.spec d.name

def DeclaredField.finding (f : SourceFile) (d : DeclaredField) : Finding :=
  { target := d.target f, position := f.position d.name }

/-- The text of a node without its blanks. -/
def visibleText (f : SourceFile) (n : Node) : List Char :=
  (f.text n).toList.filter fun c => !Text.isBlank c

def BeginsWithAny (names : List String) (text : List Char) : Prop := ∃ name ∈ names, name.toList <+: text

def Operations.Shrinks (operations : Operations) (callee : List Char) : Prop :=
  BeginsWithAny operations.shrink callee

def Operations.Grows (operations : Operations) (callee : List Char) : Prop :=
  BeginsWithAny operations.grow callee ∧ ¬ BeginsWithAny operations.shrink callee

/-- A method of the type assigns to the field what a call gives whose callee is judged so. -/
def UpdatesField (f : SourceFile) (identity field : String) (judged : List Char → Prop) : Prop :=
  ∃ method ∈ f.root.ofKind "method_declaration", ∃ type name value callee,
    AssignsField f method type field value ∧ NamesReceiver type name ∧ f.text name = identity ∧
      value.kind = "call_expression" ∧ callee ∈ value.child? "function" ∧ judged (visibleText f callee)

/-- A field that has to be reported. -/
structure OnlyGrown (operations : Operations) (f : SourceFile) (d : DeclaredField) : Prop where
  mapFree : IsMapFreeStruct d.spec
  grown : UpdatesField f (specIdentity f d.spec) (f.text d.name) operations.Grows
  notShrunk : ¬ UpdatesField f (specIdentity f d.spec) (f.text d.name) operations.Shrinks

theorem beginsWithAny_iff (names : List String) (callee : String) :
    names.any (Text.beginsWith · callee) = true ↔ BeginsWithAny names callee.toList := by
  simp [BeginsWithAny, Text.beginsWith]

theorem classify_eq_shrink_iff (operations : Operations) (callee : String) :
    operations.classify callee = .shrink ↔ operations.Shrinks callee.toList := by
  rw [Operations.Shrinks, ← beginsWithAny_iff]
  unfold Operations.classify
  split
  · simp [*]
  · split <;> simp [*]

theorem classify_eq_grow_iff (operations : Operations) (callee : String) :
    operations.classify callee = .grow ↔ operations.Grows callee.toList := by
  rw [Operations.Grows, ← beginsWithAny_iff, ← beginsWithAny_iff]
  unfold Operations.classify
  split
  · simp [*]
  · split <;> simp [*]

theorem classifyValue_eq_iff {f : SourceFile} {operations : Operations} {value : Node} {kind : UpdateKind}
    (known : kind ≠ .unknown) : classifyValue f operations value = kind ↔
      ∃ callee, value.kind = "call_expression" ∧ callee ∈ value.child? "function" ∧
        operations.classify (f.compactText callee) = kind := by
  unfold classifyValue
  by_cases call : value.kind = "call_expression"
  · cases value.child? "function" <;> simp [call, known.symm]
  · simp [call, known.symm]

theorem compactText_toList (f : SourceFile) (n : Node) : (f.compactText n).toList = visibleText f n :=
  Text.toList_compact (f.text n)

/-- The updates that the methods of a file make. -/
def madeUpdates (operations : Operations) (f : SourceFile) : List Update :=
  (methods f).flatMap (methodValue operations f)

theorem isUpdated_iff {operations : Operations} {judged : List Char → Prop} (f : SourceFile)
    (d : DeclaredField) (kind : UpdateKind) (known : kind ≠ .unknown)
    (classified : ∀ callee : String, operations.classify callee = kind ↔ judged callee.toList) :
    isUpdated ((madeUpdates operations f).filter (·.kind != .unknown)) (d.target f) kind = true ↔
      UpdatesField f (specIdentity f d.spec) (f.text d.name) judged := by
  have made : isUpdated ((madeUpdates operations f).filter (·.kind != .unknown)) (d.target f) kind = true ↔
      ∃ method ∈ methods f, ∃ u ∈ methodValue operations f method, u.kind = kind ∧
        u.target.identity = specIdentity f d.spec ∧ u.target.field = some (f.text d.name) := by
    simp only [isUpdated, madeUpdates, List.any_eq_true, List.mem_filter, List.mem_flatMap, bne_iff_ne,
      Bool.and_eq_true, beq_iff_eq, Target.sameAs, DeclaredField.target, fieldTarget]
    constructor
    · rintro ⟨u, ⟨⟨method, member, made⟩, -⟩, same⟩
      exact ⟨method, member, u, made, same⟩
    · rintro ⟨method, member, u, made, same⟩
      exact ⟨u, ⟨⟨method, member, made⟩, same.1 ▸ known⟩, same⟩
  rw [made]
  unfold UpdatesField methods
  simp only [exists_update_iff, classifyValue_eq_iff known, classified, compactText_toList,
    exists_and_left]

theorem onlyGrown_iff (operations : Operations) (f : SourceFile) (d : DeclaredField) :
    OnlyGrown operations f d ↔ IsMapFreeStruct d.spec ∧
      onlyGrows ((madeUpdates operations f).filter (·.kind != .unknown)) (d.target f) = true := by
  have grown := isUpdated_iff f d .grow (by decide) (classify_eq_grow_iff operations)
  have shrunk := isUpdated_iff f d .shrink (by decide) (classify_eq_shrink_iff operations)
  rw [onlyGrows, Bool.and_eq_true, Bool.not_eq_true', ← Bool.not_eq_true, grown, shrunk]
  constructor
  · rintro ⟨mapFree, grown, notShrunk⟩
    exact ⟨mapFree, grown, notShrunk⟩
  · rintro ⟨mapFree, grown, notShrunk⟩
    exact ⟨mapFree, grown, notShrunk⟩

instance (operations : Operations) (f : SourceFile) : DecidablePred (OnlyGrown operations f) :=
  fun d => decidable_of_iff' _ (onlyGrown_iff operations f d)

/-- Elements that give nothing can be left out. -/
theorem flatMap_filter_of_nil {α β : Type} {keep : α → Bool} {g : α → List β} {xs : List α}
    (nothing : ∀ x ∈ xs, ¬ keep x → g x = []) : (xs.filter keep).flatMap g = xs.flatMap g := by
  induction xs with
  | nil => rfl
  | cons x xs ih =>
    have rest := ih fun y member => nothing y (by simp [member])
    by_cases kept : keep x
    · rw [List.filter_cons_of_pos kept, List.flatMap_cons, List.flatMap_cons, rest]
    · rw [List.filter_cons_of_neg kept, List.flatMap_cons, nothing x (by simp) kept, rest, List.nil_append]

theorem contents_value (f : SourceFile) (declaration : Node) :
    declaration.contents.flatMap (specValue f) =
      (declaration.ofKind "type_spec").flatMap (specValue f) := by
  have other : ∀ spec : Node, spec.kind ≠ "type_spec" → specValue f spec = [] := by
    intro spec kind
    exact if_neg fun ⟨_, declared, _⟩ => kind declared.1
  have comments : declaration.contents.flatMap (specValue f) =
      declaration.namedChildren.flatMap (specValue f) := by
    apply flatMap_filter_of_nil
    intro spec _ comment
    apply other
    intro kind
    simp [Node.isComment, kind] at comment
  rw [comments]
  symm
  apply flatMap_filter_of_nil
  intro spec _ kind
  exact other spec (by simpa using kind)

theorem declaredTargets_eq (f : SourceFile) :
    f.root.namedChildren.flatMap (declarationValue f) =
      ((declaredFields f).filter (IsMapFreeStruct ·.spec)).map (·.target f) := by
  have types : (f.root.ofKind "type_declaration").flatMap (declarationValue f) =
      f.root.namedChildren.flatMap (declarationValue f) := by
    apply flatMap_filter_of_nil
    intro declaration _ kind
    exact if_neg (by simpa using kind)
  rw [← types]
  simp only [declaredFields, List.filter_flatMap, List.map_flatMap]
  apply List.flatMap_congr
  intro declaration member
  have kind : declaration.kind = "type_declaration" := eq_of_beq (List.mem_filter.mp member).2
  rw [declarationValue, if_pos kind, contents_value]
  apply List.flatMap_congr
  intro spec _
  by_cases mapFree : IsMapFreeStruct spec
  · simp [specValue, mapFree, List.filter_map, Function.comp_def, DeclaredField.target]
  · simp [specValue, mapFree, List.filter_map, Function.comp_def]

theorem traverse_finding_returns (f : SourceFile) (ds : List DeclaredField) :
    (Run.traverse finding (ds.map (·.target f))).Returns (ds.map (·.finding f)) [] := by
  induction ds with
  | nil => exact Run.Returns.pure []
  | cons d ds ih =>
    have first : (finding (d.target f)).Returns (d.finding f) [] := ⟨rfl, rfl⟩
    exact first.bind (ih.bind (Run.Returns.pure _))

/-- Targets are declared somewhere, so those that only grow can all be reported. -/
theorem findings_declared_returns (f : SourceFile) (made : List Update) :
    (findings (f.root.namedChildren.flatMap (declarationValue f)) made).Returns
      ((((declaredFields f).filter (IsMapFreeStruct ·.spec)).filter fun d =>
        onlyGrows made (d.target f)).map (·.finding f)) [] := by
  simp only [findings, declaredTargets_eq, List.filter_map, Function.comp_def]
  exact traverse_finding_returns f _

theorem findings_returns (operations : Operations) (f : SourceFile) :
    (findings (f.root.namedChildren.flatMap (declarationValue f))
      ((madeUpdates operations f).filter (·.kind != .unknown))).Returns
        (((declaredFields f).filter (OnlyGrown operations f ·)).map (·.finding f)) [] := by
  have same : ∀ d : DeclaredField, decide (OnlyGrown operations f d) =
      (onlyGrows ((madeUpdates operations f).filter (·.kind != .unknown)) (d.target f) &&
        decide (IsMapFreeStruct d.spec)) := by
    intro d
    rw [Bool.eq_iff_iff, Bool.and_eq_true, decide_eq_true_iff, decide_eq_true_iff, onlyGrown_iff, and_comm]
  simp only [same, ← List.filter_filter]
  exact findings_declared_returns f _

theorem checkSlices_yields (operations : Operations) (f : SourceFile) :
    (checkSlices .collect operations f).Yields
      (((declaredFields f).filter (OnlyGrown operations f ·)).map (·.finding f))
      (f.root.namedChildren.flatMap (declarationRecorded f) ++ (methods f).flatMap (methodRecorded f)) := by
  have made : (Run.gather (updates .collect operations f) (methods f)).Yields (madeUpdates operations f)
      ((methods f).flatMap (methodRecorded f)) := by
    apply Run.Yields.gather
    intro method member
    exact updates_yields operations f (eq_of_beq (List.mem_filter.mp member).2)
  rw [← List.append_nil ((methods f).flatMap (methodRecorded f))]
  refine (targets_yields f).bind ?_
  exact made.bind (findings_returns operations f).yields

def onLine (kind : String) (start stop : Nat) (children : List Node) : Node :=
  { kind := kind, span := ⟨start, stop, 0, start⟩, children := children }

/-- A method at an offset whose body is one assignment to the field `d` of its receiver `s`. -/
def assigningMethod (start : Nat) (type value : Node) : Node :=
  onLine "method_declaration" start (value.span.stop + 1) [
    (onLine "parameter_list" (start + 5) (type.span.stop + 1) [
      onLine "parameter_declaration" (start + 6) type.span.stop [
        (onLine "identifier" (start + 6) (start + 7) []).inRole "name",
        type.inRole "type"]]).inRole "receiver",
    (onLine "block" (value.span.start - 5) (value.span.stop + 1) [
      onLine "assignment_statement" (value.span.start - 4) value.span.stop [
        (onLine "expression_list" (value.span.start - 4) (value.span.start - 1) [
          onLine "selector_expression" (value.span.start - 4) (value.span.start - 1) [
            (onLine "identifier" (value.span.start - 4) (value.span.start - 3) []).inRole "operand",
            (onLine "field_identifier" (value.span.start - 2) (value.span.start - 1) []).inRole "field"]]).inRole
          "left",
        (onLine "expression_list" value.span.start value.span.stop [value]).inRole "right"]]).inRole "body"]

/-- A struct whose field is only grown, beside a map type, a variable and a method whose receiver cannot
    be judged. -/
def mixedStore : SourceFile where
  path := .ofString "store.go"
  source := ("type S struct\x7bd []int\x7d;type M map[int]int;var x int;" ++
    "func (s *S) f()\x7bs.d=append(s.d)\x7d;func (s **S) g()\x7bs.d=nil\x7d").toUTF8
  root := onLine "source_file" 0 110 [
    onLine "type_declaration" 0 22 [
      onLine "type_spec" 5 22 [
        (onLine "type_identifier" 5 6 []).inRole "name",
        (onLine "struct_type" 7 22 [
          onLine "field_declaration_list" 13 22 [
            onLine "field_declaration" 14 21 [
              (onLine "field_identifier" 14 15 []).inRole "name",
              (onLine "slice_type" 16 21 []).inRole "type"]]]).inRole "type"]],
    onLine "type_declaration" 23 41 [
      onLine "type_spec" 28 41 [
        (onLine "type_identifier" 28 29 []).inRole "name",
        (onLine "map_type" 30 41 []).inRole "type"]],
    onLine "var_declaration" 42 51 [],
    assigningMethod 52 (onLine "pointer_type" 60 62 [onLine "type_identifier" 61 62 []])
      (onLine "call_expression" 72 83 [(onLine "identifier" 72 78 []).inRole "function"]),
    assigningMethod 85
      (onLine "pointer_type" 93 96 [onLine "pointer_type" 94 96 [onLine "type_identifier" 95 96 []]])
      (onLine "nil" 106 109 [])]

def mixedFinding : Finding :=
  let position : Position := ⟨.ofString "store.go", 1, 15⟩
  { target := { identity := "S", field := some "d", position := some position }, position := position }

set_option maxRecDepth 2000 in
theorem mixedStore_outcome : (checkSlices .collect {} mixedStore).outcome = .ok [mixedFinding] := by
  rfl

/-- The findings are the fields that are only grown, each at its name, in order and as often as declared. -/
theorem checkSlices_exact (operations : Operations) (f : SourceFile) (found : List Finding)
    (returned : (checkSlices .collect operations f).outcome = .ok found) :
    found = ((declaredFields f).filter (OnlyGrown operations f ·)).map (·.finding f) :=
  (checkSlices_yields operations f found returned).1

theorem checkSlices_exact_mixedStore :
    (checkSlices .collect {} mixedStore).outcome = .ok [mixedFinding] ∧
      [mixedFinding] =
        ((declaredFields mixedStore).filter (OnlyGrown {} mixedStore ·)).map (·.finding mixedStore) :=
  ⟨mixedStore_outcome, checkSlices_exact {} mixedStore [mixedFinding] mixedStore_outcome⟩

end SliceGrowth.Analysis
