import Mathlib.Data.List.Forall2
import SliceGrowth.Proofs.Analysis.Findings
import SliceGrowth.Proofs.Policy

/-!
Collecting compared with pruning: going on past the constructs that cannot be judged finds what is found
in the file without them, and records one construct for each node that such pruning removes.
-/
namespace SliceGrowth.Analysis

open Syntax

-- Only named nodes count: the others are the words and signs of the grammar.

def IsUnjudgedDeclaration (n : Node) : Prop :=
  n.named ∧ (n.kind = "var_declaration" ∨ IsUnknownDeclaration n)

def IsUnjudgedSpec (n : Node) : Prop := n.named ∧ n.kind ≠ "comment" ∧ ¬ IsMapFreeStruct n

def IsUnjudgedMethod (f : SourceFile) (n : Node) : Prop :=
  n.named ∧ n.kind = "method_declaration" ∧ HasUnnamedReceiver f n

instance : DecidablePred IsUnjudgedDeclaration := fun n =>
  inferInstanceAs (Decidable (n.named ∧ (n.kind = "var_declaration" ∨ IsUnknownDeclaration n)))

instance : DecidablePred IsUnjudgedSpec := fun n =>
  inferInstanceAs (Decidable (n.named ∧ n.kind ≠ "comment" ∧ ¬ IsMapFreeStruct n))

instance (f : SourceFile) : DecidablePred (IsUnjudgedMethod f) := fun n =>
  inferInstanceAs (Decidable (n.named ∧ n.kind = "method_declaration" ∧ HasUnnamedReceiver f n))

def IsTypeDeclaration (n : Node) : Prop := n.named ∧ n.kind = "type_declaration"

instance : DecidablePred IsTypeDeclaration := fun n =>
  inferInstanceAs (Decidable (n.named ∧ n.kind = "type_declaration"))

def pruneSpecs (n : Node) : Node :=
  if IsTypeDeclaration n then { n with children := n.children.filter (¬ IsUnjudgedSpec ·) } else n

/-- The file without the declarations, specs and methods that cannot be judged. -/
def prune (f : SourceFile) : SourceFile :=
  let kept := f.root.children.filter fun n => ¬ (IsUnjudgedDeclaration n ∨ IsUnjudgedMethod f n)
  { f with root := { f.root with children := kept.map pruneSpecs } }

/-- A node that pruning removes, by its place in the file. -/
inductive Pruned where
  | declaration (n : Node)
  | spec (n : Node)
  | method (n : Node)

/-- The construct says what is wrong with the node. -/
inductive Pruned.Reported (f : SourceFile) : Pruned → Unsupported → Prop
  | declaration (n : Node) : Reported f (.declaration n) (declarationReport f n)
  | spec {n : Node} {construct : Unsupported} (report : SpecReport f n construct) :
    Reported f (.spec n) construct
  | method {n type value : Node} {field : String} (assigned : AssignsField f n type field value)
    (unnamed : ∀ name, ¬ NamesReceiver type name) : Reported f (.method n) (receiverReport f type)

/-- What pruning removes at or below a node at the top of a file. -/
def prunedAt (n : Node) : List Pruned :=
  if IsUnjudgedDeclaration n then [.declaration n]
  else if IsTypeDeclaration n then (n.children.filter (IsUnjudgedSpec ·)).map .spec
  else []

def prunedDeclarations (f : SourceFile) : List Pruned := f.root.children.flatMap prunedAt

def prunedMethods (f : SourceFile) : List Pruned :=
  (f.root.children.filter (IsUnjudgedMethod f ·)).map .method

theorem pruneSpecs_named (n : Node) : (pruneSpecs n).named = n.named := by
  unfold pruneSpecs
  split <;> rfl

theorem pruneSpecs_kind (n : Node) : (pruneSpecs n).kind = n.kind := by
  unfold pruneSpecs
  split <;> rfl

theorem prune_namedChildren (f : SourceFile) : (prune f).root.namedChildren =
    (f.root.namedChildren.filter fun n => ¬ (IsUnjudgedDeclaration n ∨ IsUnjudgedMethod f n)).map
      pruneSpecs := by
  simp only [prune, Node.namedChildren, List.filter_map, List.filter_filter, Function.comp_def,
    pruneSpecs_named, Bool.and_comm]

theorem pruneSpecs_contents {n : Node} (type : IsTypeDeclaration n) :
    (pruneSpecs n).contents = n.contents.filter fun spec => IsMapFreeStruct spec := by
  unfold pruneSpecs
  rw [if_pos type]
  simp only [Node.contents, Node.namedChildren, List.filter_filter]
  apply List.filter_congr
  intro spec _
  rw [Bool.eq_iff_iff]
  simp only [IsUnjudgedSpec, Node.isComment, Bool.and_eq_true, decide_eq_true_iff, Bool.not_eq_true',
    beq_eq_false_iff_ne, ne_eq, not_and, not_not]
  tauto

/-- What is left at the top of a pruned file comes from a node of the file that is judged. -/
theorem mem_prune_namedChildren {f : SourceFile} {n : Node} (member : n ∈ (prune f).root.namedChildren) :
    ∃ original, n = pruneSpecs original ∧ original.named ∧
      (original.kind ∈ fieldlessKinds ∨ original.kind = "type_declaration") := by
  rw [prune_namedChildren] at member
  obtain ⟨original, kept, rfl⟩ := List.mem_map.mp member
  obtain ⟨child, judged⟩ := List.mem_filter.mp kept
  have named : original.named := (List.mem_filter.mp child).2
  refine ⟨original, rfl, named, ?_⟩
  by_contra other
  simp only [not_or] at other
  apply of_decide_eq_true judged
  refine .inl ⟨named, ?_⟩
  by_cases var : original.kind = "var_declaration"
  · exact .inl var
  · exact .inr (by simp [IsUnknownDeclaration, var, other])

theorem declarationRecorded_pruneSpecs (f : SourceFile) {n : Node} (type : IsTypeDeclaration n) :
    declarationRecorded f (pruneSpecs n) = [] := by
  rw [declarationRecorded, pruneSpecs_kind, if_pos type.2, pruneSpecs_contents type,
    List.flatMap_eq_nil_iff]
  intro spec member
  exact specRecorded_of_mapFree f (of_decide_eq_true (List.mem_filter.mp member).2)

theorem declarationValue_pruneSpecs (f : SourceFile) (n : Node) (named : n.named) :
    declarationValue f (pruneSpecs n) = declarationValue f n := by
  unfold declarationValue
  rw [pruneSpecs_kind]
  split
  · rename_i kind
    rw [pruneSpecs_contents ⟨named, kind⟩]
    apply flatMap_filter_of_nil
    intro spec _ unjudged
    exact if_neg (by simpa using unjudged)
  · rfl

theorem pruned_declaration_returns {f : SourceFile} {n : Node}
    (member : n ∈ (prune f).root.namedChildren) :
    (declarationTargets .collect (prune f) n).Returns (declarationValue f n) [] := by
  obtain ⟨original, rfl, named, fieldless | type⟩ := mem_prune_namedChildren member
  · have kind : (pruneSpecs original).kind ∈ fieldlessKinds := by rwa [pruneSpecs_kind]
    exact fieldlessDeclaration_returns (prune f) kind
  · have kind : (pruneSpecs original).kind = "type_declaration" := by rwa [pruneSpecs_kind]
    have returns := typeDeclaration_returns (prune f) kind
    rw [declarationRecorded_pruneSpecs (prune f) ⟨named, type⟩] at returns
    exact returns

theorem prune_value (f : SourceFile) : (prune f).root.namedChildren.flatMap (declarationValue f) =
    f.root.namedChildren.flatMap (declarationValue f) := by
  rw [prune_namedChildren, List.flatMap_map]
  have specs : ∀ n ∈ f.root.namedChildren,
      declarationValue f (pruneSpecs n) = declarationValue f n := fun n member =>
    declarationValue_pruneSpecs f n (List.mem_filter.mp member).2
  rw [List.flatMap_congr fun n kept => specs n (List.mem_filter.mp kept).1]
  apply flatMap_filter_of_nil
  intro n _ removed
  have unjudged : IsUnjudgedDeclaration n ∨ IsUnjudgedMethod f n := by
    by_contra judged
    exact removed (decide_eq_true judged)
  apply if_neg
  intro type
  rcases unjudged with ⟨-, var | unknown⟩ | ⟨-, method, -⟩
  · simp [var] at type
  · simp [IsUnknownDeclaration, type] at unknown
  · simp [method] at type

theorem unjudged_method_iff {f : SourceFile} {n : Node} (named : n.named)
    (kind : n.kind = "method_declaration") :
    (IsUnjudgedDeclaration n ∨ IsUnjudgedMethod f n) ↔ HasUnnamedReceiver f n := by
  have known : ¬ IsUnknownDeclaration n := by simp [IsUnknownDeclaration, kind, fieldlessKinds]
  simp [IsUnjudgedDeclaration, IsUnjudgedMethod, named, kind, known]

theorem prune_methods (f : SourceFile) :
    methods (prune f) = (methods f).filter (¬ HasUnnamedReceiver f ·) := by
  have unchanged : ∀ n : Node, n.kind = "method_declaration" → pruneSpecs n = n := by
    intro n kind
    exact if_neg fun type => by simp [type.2] at kind
  have kept : (f.root.namedChildren.filter fun n =>
      ¬ (IsUnjudgedDeclaration n ∨ IsUnjudgedMethod f n)).filter (·.kind == "method_declaration") =
      (methods f).filter (¬ HasUnnamedReceiver f ·) := by
    unfold methods Node.ofKind
    rw [List.filter_filter, List.filter_filter]
    apply List.filter_congr
    intro n member
    have named : n.named := (List.mem_filter.mp member).2
    by_cases kind : n.kind = "method_declaration"
    · simp only [unjudged_method_iff named kind, Bool.and_comm]
    · simp [beq_eq_false_iff_ne.mpr kind]
  change (prune f).root.namedChildren.filter (·.kind == "method_declaration") = _
  rw [prune_namedChildren, List.filter_map, Function.comp_def]
  simp only [pruneSpecs_kind]
  rw [kept]
  apply (List.map_congr_left ?_).trans (List.map_id _)
  intro n member
  exact unchanged n (eq_of_beq (List.mem_filter.mp (List.mem_filter.mp member).1).2)

theorem pruned_updates_return {operations : Operations} {f : SourceFile} {made : List Update}
    (returned : (Run.gather (updates .collect operations f) (methods f)).outcome = .ok made) :
    (Run.gather (updates .collect operations (prune f)) (methods (prune f))).Returns
      (madeUpdates operations f) [] := by
  have values : (methods (prune f)).flatMap (methodValue operations f) = madeUpdates operations f := by
    rw [prune_methods]
    apply flatMap_filter_of_nil
    intro method _ unnamed
    exact methodValue_of_unnamed operations (by simpa using unnamed)
  rw [← values]
  apply Run.Returns.gather_nil
  intro method member
  rw [prune_methods, List.mem_filter, decide_eq_true_iff] at member
  obtain ⟨member, named⟩ := member
  obtain ⟨value, method_returned⟩ := Run.gather_eq_ok returned method member
  have kind : method.kind = "method_declaration" := eq_of_beq (List.mem_filter.mp member).2
  have returns := (updates_yields operations f kind).returns method_returned
  rw [methodRecorded_of_named named] at returns
  rwa [prune, updates_withRoot]

theorem pruned_targets_return (f : SourceFile) :
    (targets .collect (prune f)).Returns (f.root.namedChildren.flatMap (declarationValue f)) [] := by
  rw [← prune_value]
  exact Run.Returns.gather_nil fun n member => pruned_declaration_returns member

theorem checkSlices_prune_returns {operations : Operations} {f : SourceFile} {found : List Finding}
    (returned : (checkSlices .collect operations f).outcome = .ok found) :
    (checkSlices .collect operations (prune f)).Returns found [] := by
  obtain ⟨declared, -, rest⟩ := Run.bind_eq_ok returned
  obtain ⟨made, made_returned, -⟩ := Run.bind_eq_ok rest
  rw [(checkSlices_yields operations f found returned).1]
  refine (pruned_targets_return f).bind ?_
  exact (pruned_updates_return made_returned).bind (findings_returns operations f)

theorem forall₂_flatMap {α β γ : Type} {R : β → γ → Prop} {g : α → List β} {h : α → List γ} {xs : List α}
    (each : ∀ x ∈ xs, List.Forall₂ R (g x) (h x)) : List.Forall₂ R (xs.flatMap g) (xs.flatMap h) := by
  induction xs with
  | nil => exact .nil
  | cons x xs ih =>
    rw [List.flatMap_cons, List.flatMap_cons]
    exact List.rel_append (each x (by simp)) (ih fun y member => each y (by simp [member]))

/-- One entry for each element that is wrong, and none for the others. -/
theorem forall₂_filter_map {α β γ : Type} {R : β → γ → Prop} {wrong : α → Bool} {place : α → β}
    {recorded : α → List γ} {xs : List α}
    (reported : ∀ x ∈ xs, wrong x → ∃ entry, recorded x = [entry] ∧ R (place x) entry)
    (nothing : ∀ x ∈ xs, ¬ wrong x → recorded x = []) :
    List.Forall₂ R ((xs.filter wrong).map place) (xs.flatMap recorded) := by
  induction xs with
  | nil => exact .nil
  | cons x xs ih =>
    have rest := ih (fun y member => reported y (by simp [member]))
      (fun y member => nothing y (by simp [member]))
    by_cases bad : wrong x
    · obtain ⟨entry, single, related⟩ := reported x (by simp) bad
      rw [List.filter_cons_of_pos bad, List.map_cons, List.flatMap_cons, single]
      exact .cons related rest
    · rw [List.filter_cons_of_neg bad, List.flatMap_cons, nothing x (by simp) bad]
      exact rest

theorem prunedSpecs_reported (f : SourceFile) (n : Node) :
    List.Forall₂ (Pruned.Reported f) ((n.children.filter (IsUnjudgedSpec ·)).map .spec)
      (n.contents.flatMap (specRecorded f)) := by
  have same : n.children.filter (IsUnjudgedSpec ·) = n.contents.filter (¬ IsMapFreeStruct ·) := by
    simp only [Node.contents, Node.namedChildren, List.filter_filter]
    apply List.filter_congr
    intro spec _
    rw [Bool.eq_iff_iff, decide_eq_true_iff]
    simp only [IsUnjudgedSpec, Node.isComment, Bool.and_eq_true, decide_eq_true_iff, Bool.not_eq_true',
      beq_eq_false_iff_ne, ne_eq]
    tauto
  rw [same]
  apply forall₂_filter_map
  · intro spec _ other
    obtain ⟨construct, recorded, report⟩ := specRecorded_of_not_mapFree f (of_decide_eq_true other)
    exact ⟨construct, recorded, .spec report⟩
  · intro spec _ mapFree
    exact specRecorded_of_mapFree f (by simpa using mapFree)

theorem prunedAt_reported (f : SourceFile) {n : Node} (named : n.named) :
    List.Forall₂ (Pruned.Reported f) (prunedAt n) (declarationRecorded f n) := by
  unfold prunedAt declarationRecorded
  by_cases type : n.kind = "type_declaration"
  · have judged : ¬ IsUnjudgedDeclaration n := by
      simp [IsUnjudgedDeclaration, IsUnknownDeclaration, type]
    rw [if_neg judged, if_pos ⟨named, type⟩, if_pos type]
    exact prunedSpecs_reported f n
  · rw [if_neg type]
    by_cases unjudged : n.kind = "var_declaration" ∨ IsUnknownDeclaration n
    · rw [if_pos ⟨named, unjudged⟩, if_pos unjudged]
      exact .cons (.declaration n) .nil
    · rw [if_neg fun h => unjudged h.2, if_neg fun h => type h.2, if_neg unjudged]
      exact .nil

theorem prunedDeclarations_reported (f : SourceFile) :
    List.Forall₂ (Pruned.Reported f) (prunedDeclarations f)
      (f.root.namedChildren.flatMap (declarationRecorded f)) := by
  have named : prunedDeclarations f = f.root.namedChildren.flatMap prunedAt := by
    symm
    apply flatMap_filter_of_nil
    intro n _ unnamed
    rw [prunedAt, if_neg fun h => unnamed h.1, if_neg fun h => unnamed h.1]
  rw [named]
  apply forall₂_flatMap
  intro n member
  exact prunedAt_reported f (List.mem_filter.mp member).2

theorem prunedMethods_reported (f : SourceFile) :
    List.Forall₂ (Pruned.Reported f) (prunedMethods f) ((methods f).flatMap (methodRecorded f)) := by
  have same : f.root.children.filter (IsUnjudgedMethod f ·) =
      (methods f).filter (HasUnnamedReceiver f ·) := by
    simp only [methods, Node.ofKind, Node.namedChildren, List.filter_filter]
    apply List.filter_congr
    intro n _
    rw [Bool.eq_iff_iff, decide_eq_true_iff]
    simp only [IsUnjudgedMethod, Bool.and_eq_true, decide_eq_true_iff, beq_iff_eq]
    tauto
  rw [prunedMethods, same]
  apply forall₂_filter_map
  · intro method _ unnamed
    obtain ⟨type, field, value, assigned, unnamed⟩ := of_decide_eq_true unnamed
    exact ⟨_, methodRecorded_of_unnamed assigned unnamed, .method assigned unnamed⟩
  · intro method _ named
    exact methodRecorded_of_named (by simpa using named)

/-- Collecting finds what stopping at the first construct finds in the pruned file, where there is none. -/
theorem checkSlices_collect_eq_prune (operations : Operations) (f : SourceFile) (found : List Finding)
    (returned : (checkSlices .collect operations f).outcome = .ok found) :
    (checkSlices .abort operations (prune f)).outcome = .ok found ∧
      List.Forall₂ (Pruned.Reported f) (prunedDeclarations f ++ prunedMethods f)
        (checkSlices .collect operations f).constructs := by
  have pruned := checkSlices_prune_returns returned
  constructor
  · rw [checkSlices_abort, Run.cut_of_constructs_nil pruned.constructs]
    exact pruned.outcome
  · rw [(checkSlices_yields operations f found returned).2]
    exact List.rel_append (prunedDeclarations_reported f) (prunedMethods_reported f)

theorem checkSlices_collect_eq_prune_mixedStore :
    (checkSlices .collect {} mixedStore).outcome = .ok [mixedFinding] ∧
      (checkSlices .abort {} (prune mixedStore)).outcome = .ok [mixedFinding] ∧
      List.Forall₂ (Pruned.Reported mixedStore) (prunedDeclarations mixedStore ++ prunedMethods mixedStore)
        (checkSlices .collect {} mixedStore).constructs :=
  ⟨mixedStore_outcome, checkSlices_collect_eq_prune {} mixedStore [mixedFinding] mixedStore_outcome⟩

end SliceGrowth.Analysis
