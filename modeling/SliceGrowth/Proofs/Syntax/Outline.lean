import Mathlib.Data.List.Basic
import SliceGrowth.Syntax.SourceFile

/-!
Changes of a tree that keep each node as it is from outside. What is looked up in a node is then found in
the changed node as well, and says the same.
-/
namespace SliceGrowth.Syntax

namespace Node

/-- The node with nothing below it. Whether something below it is wrong is not kept either. -/
def bare (n : Node) : Node := { n with hasError := false, children := [] }

/-- The node with each child changed. -/
def mapChildren (change : Node → Node) (n : Node) : Node :=
  { n with hasError := false, children := n.children.map change }

mutual

/-- The node without what is inside comments, and without what is inside the parts of calls other than the
callee. -/
def outline : Node → Node
  | ⟨kind, span, named, field, missing, _, children⟩ =>
    ⟨kind, span, named, field, missing, false,
      if kind = "comment" then []
      else if kind = "call_expression" then outlineCall children
      else outlineAll children⟩

def outlineAll : List Node → List Node
  | [] => []
  | n :: rest => n.outline :: outlineAll rest

def outlineCall : List Node → List Node
  | [] => []
  | n :: rest => (if n.field = some "function" then n.outline else n.bare) :: outlineCall rest

end

def outlinePart (n : Node) : Node := if n.field = some "function" then n.outline else n.bare

theorem outlineAll_eq (ns : List Node) : outlineAll ns = ns.map outline := by
  induction ns with
  | nil => rfl
  | cons n ns ih => rw [outlineAll, ih, List.map_cons]

theorem outlineCall_eq (ns : List Node) : outlineCall ns = ns.map outlinePart := by
  induction ns with
  | nil => rfl
  | cons n ns ih => rw [outlineCall, ih, List.map_cons, outlinePart]

theorem outline_of_kind {n : Node} {kind : String} (is : n.kind = kind)
    (plain : kind ∉ ["comment", "call_expression"]) : n.outline = n.mapChildren outline := by
  obtain ⟨_, span, named, field, missing, hasError, children⟩ := n
  dsimp only at is
  subst is
  simp only [List.mem_cons, List.not_mem_nil, or_false, not_or] at plain
  simp only [outline, mapChildren, if_neg plain.1, if_neg plain.2, outlineAll_eq]

theorem outline_of_call {n : Node} (call : n.kind = "call_expression") : n.outline = n.mapChildren outlinePart := by
  obtain ⟨_, span, named, field, missing, hasError, children⟩ := n
  dsimp only at call
  subst call
  have notComment : ¬ "call_expression" = "comment" := by decide
  simp only [outline, mapChildren, if_neg notComment, if_true, outlineCall_eq]

/-- The change leaves every node as it is from outside. -/
def KeepsHead (change : Node → Node) : Prop := ∀ n, (change n).bare = n.bare

theorem bare_keepsHead : KeepsHead bare := fun _ => rfl

theorem mapChildren_keepsHead (change : Node → Node) : KeepsHead (mapChildren change) := fun _ => rfl

theorem outline_keepsHead : KeepsHead outline := by
  intro n
  cases n
  rfl

namespace KeepsHead

theorem ite {change other : Node → Node} {p : Node → Prop} [DecidablePred p] (keeps : KeepsHead change)
    (keeps' : KeepsHead other) : KeepsHead fun n => if p n then change n else other n := by
  intro n
  dsimp only
  split
  · exact keeps n
  · exact keeps' n

variable {change : Node → Node} (keeps : KeepsHead change)
include keeps

theorem kind (n : Node) : (change n).kind = n.kind := by
  have same := congrArg Node.kind (keeps n)
  exact same

theorem span (n : Node) : (change n).span = n.span := by
  have same := congrArg Node.span (keeps n)
  exact same

theorem named (n : Node) : (change n).named = n.named := by
  have same := congrArg Node.named (keeps n)
  exact same

theorem field (n : Node) : (change n).field = n.field := by
  have same := congrArg Node.field (keeps n)
  exact same

theorem child? (n : Node) (role : String) : (n.mapChildren change).child? role = (n.child? role).map change := by
  simp only [Node.child?, mapChildren, List.find?_map, Function.comp_def, keeps.field]

theorem childrenIn (n : Node) (role : String) :
    (n.mapChildren change).childrenIn role = (n.childrenIn role).map change := by
  simp only [Node.childrenIn, mapChildren, List.filter_map, Function.comp_def, keeps.field]

theorem namedChildren (n : Node) : (n.mapChildren change).namedChildren = n.namedChildren.map change := by
  simp only [Node.namedChildren, mapChildren, List.filter_map, Function.comp_def, keeps.named]

theorem ofKind (n : Node) (kind : String) : (n.mapChildren change).ofKind kind = (n.ofKind kind).map change := by
  simp only [Node.ofKind, keeps.namedChildren, List.filter_map, Function.comp_def, keeps.kind]

theorem contents (n : Node) : (n.mapChildren change).contents = n.contents.map change := by
  simp only [Node.contents, isComment, keeps.namedChildren, List.filter_map, Function.comp_def, keeps.kind]

theorem text (f : SourceFile) (n : Node) : f.text (change n) = f.text n := by
  simp only [SourceFile.text, keeps.span]

theorem compactText (f : SourceFile) (n : Node) : f.compactText (change n) = f.compactText n := by
  simp only [SourceFile.compactText, keeps.text]

theorem position (f : SourceFile) (n : Node) : f.position (change n) = f.position n := by
  simp only [SourceFile.position, keeps.span]

end KeepsHead

theorem outlinePart_keepsHead : KeepsHead outlinePart := outline_keepsHead.ite bare_keepsHead

/-- Outside comments an outline has all children of a node. -/
theorem outline_eq_mapChildren {n : Node} (notComment : n.kind ≠ "comment") :
    ∃ change, KeepsHead change ∧ n.outline = n.mapChildren change := by
  by_cases call : n.kind = "call_expression"
  · exact ⟨outlinePart, outlinePart_keepsHead, outline_of_call call⟩
  · exact ⟨outline, outline_keepsHead, outline_of_kind rfl (by simp [notComment, call])⟩

theorem field_of_child? {n child : Node} {role : String} (found : n.child? role = some child) :
    child.field = some role := by
  simpa using List.find?_some found

end Node

end SliceGrowth.Syntax
