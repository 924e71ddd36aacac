import SliceGrowth.Proofs.Analysis.Findings
import SliceGrowth.Proofs.Analysis.Reconciled

/-!
The methods of a file may stand in any order and anywhere among its other declarations. What a check finds
does not depend on it, and what it records of the methods is the same up to order.
-/
namespace SliceGrowth.Analysis

open Syntax

/-- The files have the same text and the same declarations, up to the order and the places of the methods. -/
structure SameUpToMethodOrder (f g : SourceFile) : Prop where
  path : f.path = g.path
  source : f.source = g.source
  others : f.root.namedChildren.filter (·.kind != "method_declaration") =
    g.root.namedChildren.filter (·.kind != "method_declaration")
  reordered : (methods f).Perm (methods g)

/-- Methods declare no fields, so the targets of a file are those of its other declarations. -/
theorem targets_eq_of_others (policy : Policy) (f : SourceFile) :
    targets policy f = Run.gather (declarationTargets policy f)
      (f.root.namedChildren.filter (·.kind != "method_declaration")) := by
  apply targets_eq_filter
  intro declaration dropped
  have kind : declaration.kind = "method_declaration" := by simpa using dropped
  rw [kind]
  decide

/-- The methods can be read one by one. -/
def MethodsReturn (operations : Operations) (f : SourceFile) : Prop :=
  ∀ method ∈ methods f, ∃ made, (updates .collect operations f method).outcome = .ok made

theorem MethodsReturn.gathered {operations : Operations} {f : SourceFile} (each : MethodsReturn operations f) :
    (Run.gather (updates .collect operations f) (methods f)).Returns (madeUpdates operations f)
      ((methods f).flatMap (methodRecorded f)) := by
  apply Run.Returns.gather
  intro method member
  have kind : method.kind = "method_declaration" := eq_of_beq (List.mem_filter.mp member).2
  obtain ⟨made, returned⟩ := each method member
  exact (updates_yields operations f kind).returns returned

/-- A check that collects returns if the declarations can be read, and the methods one by one. -/
theorem checkSlices_returns {operations : Operations} {f : SourceFile} {declared : List Target}
    (declaring : (targets .collect f).outcome = .ok declared) (each : MethodsReturn operations f) :
    ∃ found, (findings declared ((madeUpdates operations f).filter (·.kind != .unknown))).outcome = .ok found ∧
      (checkSlices .collect operations f).Returns found
        ((targets .collect f).constructs ++ (methods f).flatMap (methodRecorded f)) := by
  have known : declared = f.root.namedChildren.flatMap (declarationValue f) :=
    (targets_yields f declared declaring).1
  have reported := findings_declared_returns f ((madeUpdates operations f).filter (·.kind != .unknown))
  rw [← known] at reported
  refine ⟨_, reported.outcome, Run.Returns.bind ⟨declaring, rfl⟩ ?_⟩
  rw [← List.append_nil ((methods f).flatMap (methodRecorded f))]
  exact each.gathered.bind reported

theorem checkSlices_returned_iff (operations : Operations) (f : SourceFile) :
    (∃ found, (checkSlices .collect operations f).outcome = .ok found) ↔
      (∃ declared, (targets .collect f).outcome = .ok declared) ∧ MethodsReturn operations f := by
  constructor
  · intro returned
    obtain ⟨found, returned⟩ := returned
    obtain ⟨declared, declaring, rest⟩ := Run.bind_eq_ok returned
    obtain ⟨made, gathered, -⟩ := Run.bind_eq_ok rest
    exact ⟨⟨declared, declaring⟩, Run.gather_eq_ok gathered⟩
  · intro parts
    obtain ⟨⟨declared, declaring⟩, each⟩ := parts
    obtain ⟨found, -, returns⟩ := checkSlices_returns declaring each
    exact ⟨found, returns.outcome⟩

namespace SameUpToMethodOrder

variable {f g : SourceFile} (same : SameUpToMethodOrder f g)
include same

/-- Only the tree of the second file is its own. -/
theorem eq_withRoot : g = { f with root := g.root } := by
  obtain ⟨path, source, root⟩ := g
  obtain ⟨samePath, sameSource, -, -⟩ := same
  dsimp only at samePath sameSource
  rw [samePath, sameSource]

theorem symm : SameUpToMethodOrder g f where
  path := same.path.symm
  source := same.source.symm
  others := same.others.symm
  reordered := same.reordered.symm

theorem targets_eq (policy : Policy) : targets policy f = targets policy g := by
  have declared : declarationTargets policy g = declarationTargets policy f := by
    funext declaration
    rw [same.eq_withRoot, declarationTargets_withRoot]
  rw [targets_eq_of_others, targets_eq_of_others, declared, same.others]

theorem updates_eq (operations : Operations) (method : Node) :
    updates .collect operations g method = updates .collect operations f method := by
  rw [same.eq_withRoot, updates_withRoot]

theorem methodsReturn {operations : Operations} (each : MethodsReturn operations f) :
    MethodsReturn operations g := by
  intro method member
  rw [same.updates_eq]
  exact each method (same.reordered.mem_iff.mpr member)

theorem madeUpdates_perm (operations : Operations) :
    (madeUpdates operations f).Perm (madeUpdates operations g) := by
  have value : methodValue operations g = methodValue operations f := by
    rw [same.eq_withRoot]
    rfl
  unfold madeUpdates
  rw [value]
  exact same.reordered.flatMap_right _

theorem recorded_perm :
    ((methods f).flatMap (methodRecorded f)).Perm ((methods g).flatMap (methodRecorded g)) := by
  have recorded : methodRecorded g = methodRecorded f := by
    rw [same.eq_withRoot]
    rfl
  rw [recorded]
  exact same.reordered.flatMap_right _

theorem returned {operations : Operations}
    (returned : ∃ found, (checkSlices .collect operations f).outcome = .ok found) :
    ∃ found, (checkSlices .collect operations g).outcome = .ok found := by
  rw [checkSlices_returned_iff] at returned ⊢
  rw [← same.targets_eq]
  exact ⟨returned.1, same.methodsReturn returned.2⟩

end SameUpToMethodOrder

/-- A check that collects returns for both files or for none. If it returns, it finds the same, and it records
the same of the declarations, followed by the same of the methods in some order. -/
theorem checkSlices_method_order (operations : Operations) (f g : SourceFile)
    (same : SameUpToMethodOrder f g) :
    ((∃ found, (checkSlices .collect operations f).outcome = .ok found) ↔
      ∃ found, (checkSlices .collect operations g).outcome = .ok found) ∧
    ∀ found, (checkSlices .collect operations f).outcome = .ok found →
      (checkSlices .collect operations g).outcome = .ok found ∧
      ∃ ofMethods ofMethods', ofMethods.Perm ofMethods' ∧
        (checkSlices .collect operations f).constructs = (targets .collect f).constructs ++ ofMethods ∧
        (checkSlices .collect operations g).constructs = (targets .collect f).constructs ++ ofMethods' := by
  refine ⟨⟨same.returned, same.symm.returned⟩, ?_⟩
  intro found returned
  obtain ⟨⟨declared, declaring⟩, each⟩ := (checkSlices_returned_iff operations f).mp ⟨found, returned⟩
  have declaring' : (targets .collect g).outcome = .ok declared := by rwa [← same.targets_eq]
  obtain ⟨first, reported, returns⟩ := checkSlices_returns declaring each
  obtain ⟨second, reported', returns'⟩ := checkSlices_returns declaring' (same.methodsReturn each)
  -- The updates of the two files are the same up to order, so the same targets are left grown.
  have made : SameUpdates ((madeUpdates operations f).filter (·.kind != .unknown))
      ((madeUpdates operations g).filter (·.kind != .unknown)) :=
    .of_perm ((same.madeUpdates_perm operations).filter _)
  rw [findings_congr declared made, reported'] at reported
  rw [returns.outcome] at returned
  cases reported
  cases returned
  refine ⟨returns'.outcome, _, _, same.recorded_perm, returns.constructs, ?_⟩
  rw [returns'.constructs, same.targets_eq]

/-- The mixed file with the method that is not judged at the front, and the other before the variable. -/
def mixedStoreReordered : SourceFile :=
  { mixedStore with
    root := { mixedStore.root with children := [4, 0, 1, 3, 2].filterMap (mixedStore.root.children[·]?) } }

theorem checkSlices_method_order_mixedStore :
    SameUpToMethodOrder mixedStore mixedStoreReordered ∧
      (checkSlices .collect {} mixedStore).outcome = .ok [mixedFinding] ∧
      (checkSlices .collect {} mixedStoreReordered).outcome = .ok [mixedFinding] := by
  have same : SameUpToMethodOrder mixedStore mixedStoreReordered := ⟨rfl, rfl, rfl, .swap _ _ _⟩
  exact ⟨same, mixedStore_outcome,
    ((checkSlices_method_order {} _ _ same).2 [mixedFinding] mixedStore_outcome).1⟩

end SliceGrowth.Analysis
