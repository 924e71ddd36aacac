import Mathlib.Data.List.Basic
import SliceGrowth.Syntax.Node

/-!
Where the nodes of a tree stand in the source. In a tree that follows its source every node holds its children, and
these come one after the other. What is gathered from such a tree level by level comes in the order of the source.
-/
namespace SliceGrowth.Syntax

namespace Span

def Encloses (outer inner : Span) : Prop := outer.start ≤ inner.start ∧ inner.stop ≤ outer.stop

def Precedes (a b : Span) : Prop := a.stop ≤ b.start

/-- The start of the one is at an earlier row, or earlier in the same row. -/
def StartsBefore (a b : Span) : Prop := a.row < b.row ∨ a.row = b.row ∧ a.column < b.column

instance (a b : Span) : Decidable (a.Encloses b) := inferInstanceAs (Decidable (_ ∧ _))

instance (a b : Span) : Decidable (a.Precedes b) := inferInstanceAs (Decidable (_ ≤ _))

instance (a b : Span) : Decidable (a.StartsBefore b) := inferInstanceAs (Decidable (_ ∨ _))

theorem Encloses.trans {a b c : Span} (outer : a.Encloses b) (inner : b.Encloses c) : a.Encloses c :=
  ⟨Nat.le_trans outer.1 inner.1, Nat.le_trans inner.2 outer.2⟩

/-- What lies inside of spans in order is in the same order. -/
theorem Precedes.inside {a b x y : Span} (order : a.Precedes b) (inA : a.Encloses x) (inB : b.Encloses y) :
    x.Precedes y :=
  Nat.le_trans inA.2 (Nat.le_trans order inB.1)

end Span

namespace Node

mutual

/-- The node and all nodes below it. -/
def nodes : Node → List Node
  | ⟨kind, span, named, field, missing, hasError, children⟩ =>
    ⟨kind, span, named, field, missing, hasError, children⟩ :: nodesOf children

def nodesOf : List Node → List Node
  | [] => []
  | n :: rest => n.nodes ++ nodesOf rest

end

theorem nodes_eq (n : Node) : n.nodes = n :: nodesOf n.children := by
  cases n
  rw [nodes]

theorem mem_nodes_self (n : Node) : n ∈ n.nodes := by
  rw [nodes_eq]
  exact List.mem_cons_self

theorem nodesOf_eq (ns : List Node) : nodesOf ns = ns.flatMap nodes := by
  induction ns with
  | nil => rfl
  | cons n ns ih => rw [nodesOf, ih, List.flatMap_cons]

theorem mem_nodes_trans {root n m : Node} : n ∈ root.nodes → m ∈ n.nodes → m ∈ root.nodes := by
  refine nodes.induct (fun root => n ∈ root.nodes → m ∈ n.nodes → m ∈ root.nodes)
    (fun ns => n ∈ nodesOf ns → m ∈ n.nodes → m ∈ nodesOf ns) ?node ?nil ?cons root
  case node =>
    intro kind span named field missing hasError children ih member below
    rw [nodes_eq] at member ⊢
    rcases List.mem_cons.mp member with rfl | member
    · rwa [nodes_eq] at below
    · exact List.mem_cons_of_mem _ (ih member below)
  case nil =>
    intro member below
    exact absurd member List.not_mem_nil
  case cons =>
    intro first rest ihFirst ihRest member below
    rw [nodesOf] at member ⊢
    rcases List.mem_append.mp member with member | member
    · exact List.mem_append_left _ (ihFirst member below)
    · exact List.mem_append_right _ (ihRest member below)

theorem mem_nodes_of_child {n child : Node} (member : child ∈ n.children) : child ∈ n.nodes := by
  rw [nodes_eq, nodesOf_eq]
  exact List.mem_cons_of_mem _ (List.mem_flatMap.mpr ⟨child, member, child.mem_nodes_self⟩)

end Node

/-- A tree whose nodes stand in the source as they stand in the tree. -/
structure FollowsSource (root : Node) : Prop where
  nested : ∀ n ∈ root.nodes, ∀ child ∈ n.children, n.span.Encloses child.span
  apart : ∀ n ∈ root.nodes, n.children.Pairwise (·.span.Precedes ·.span)
  rising : ∀ m ∈ root.nodes, ∀ n ∈ root.nodes, m.span.start < n.span.start → m.span.StartsBefore n.span
  spelled : ∀ n ∈ root.nodes, n.field = some "name" → n.span.start < n.span.stop

theorem followsSource_iff {root : Node} : FollowsSource root ↔
    (∀ n ∈ root.nodes, ∀ child ∈ n.children, n.span.Encloses child.span) ∧
    (∀ n ∈ root.nodes, n.children.Pairwise (·.span.Precedes ·.span)) ∧
    (∀ m ∈ root.nodes, ∀ n ∈ root.nodes, m.span.start < n.span.start → m.span.StartsBefore n.span) ∧
    ∀ n ∈ root.nodes, n.field = some "name" → n.span.start < n.span.stop := by
  constructor
  · rintro ⟨nested, apart, rising, spelled⟩
    exact ⟨nested, apart, rising, spelled⟩
  · rintro ⟨nested, apart, rising, spelled⟩
    exact ⟨nested, apart, rising, spelled⟩

instance : DecidablePred FollowsSource := fun _ => decidable_of_iff' _ followsSource_iff

namespace FollowsSource

variable {root : Node}

theorem of_mem {n : Node} (follows : FollowsSource root) (member : n ∈ root.nodes) : FollowsSource n where
  nested m below := follows.nested m (Node.mem_nodes_trans member below)
  apart m below := follows.apart m (Node.mem_nodes_trans member below)
  rising m below m' below' :=
    follows.rising m (Node.mem_nodes_trans member below) m' (Node.mem_nodes_trans member below')
  spelled m below := follows.spelled m (Node.mem_nodes_trans member below)

end FollowsSource

/-- Nodes from inside a node, one after the other. -/
structure LaidOut (outer : Node) (ns : List Node) : Prop where
  below : ∀ n ∈ ns, n ∈ outer.nodes
  inside : ∀ n ∈ ns, outer.span.Encloses n.span
  apart : ns.Pairwise (·.span.Precedes ·.span)

namespace LaidOut

variable {outer : Node} {ns : List Node}

theorem sublist {ms : List Node} (laid : LaidOut outer ns) (part : ms.Sublist ns) : LaidOut outer ms where
  below n member := laid.below n (part.subset member)
  inside n member := laid.inside n (part.subset member)
  apart := laid.apart.sublist part

theorem flatMap {g : Node → List Node} (follows : FollowsSource outer) (laid : LaidOut outer ns)
    (each : ∀ n, FollowsSource n → LaidOut n (g n)) : LaidOut outer (ns.flatMap g) := by
  have own : ∀ n ∈ ns, LaidOut n (g n) := fun n member => each n (follows.of_mem (laid.below n member))
  refine ⟨?_, ?_, List.pairwise_flatMap.mpr ⟨fun n member => (own n member).apart, ?_⟩⟩
  · intro m member
    obtain ⟨n, source, found⟩ := List.mem_flatMap.mp member
    exact Node.mem_nodes_trans (laid.below n source) ((own n source).below m found)
  · intro m member
    obtain ⟨n, source, found⟩ := List.mem_flatMap.mp member
    exact (laid.inside n source).trans ((own n source).inside m found)
  · -- Nodes gathered from two nodes are apart because the two are.
    refine laid.apart.imp_of_mem fun {a b} inA inB order x fromA y fromB => ?_
    exact order.inside ((own a inA).inside x fromA) ((own b inB).inside y fromB)

end LaidOut

namespace FollowsSource

variable {n : Node} (follows : FollowsSource n)
include follows

theorem children : LaidOut n n.children where
  below _ := Node.mem_nodes_of_child
  inside := follows.nested n n.mem_nodes_self
  apart := follows.apart n n.mem_nodes_self

theorem childrenIn (role : String) : LaidOut n (n.childrenIn role) :=
  follows.children.sublist List.filter_sublist

theorem ofKind (kind : String) : LaidOut n (n.ofKind kind) :=
  follows.children.sublist (List.filter_sublist.trans List.filter_sublist)

theorem child? (role : String) : LaidOut n (n.child? role).toList := by
  refine follows.children.sublist ?_
  cases found : n.child? role with
  | none => exact List.nil_sublist _
  | some child => exact List.singleton_sublist.mpr (List.mem_of_find?_eq_some found)

end FollowsSource

end SliceGrowth.Syntax
