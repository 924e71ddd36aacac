import Mathlib.Data.List.Forall2
import SliceGrowth.Proofs.Syntax.Outline

/-!
Comments put into a tree. What is looked up by role, by a kind other than comments, or among the children
that are no comments is found in the tree with the comment as well, and looks like what it was.
-/
namespace SliceGrowth.Syntax

namespace Node

/-- The child is one of the two sides of an assignment. -/
def HasSide (n child : Node) : Prop :=
  n.kind = "assignment_statement" ∧ (child.field = some "left" ∨ child.field = some "right")

/-- A comment without a role in its parent. -/
structure IsFreeComment (n : Node) : Prop where
  kind : n.kind = "comment"
  named : n.named = true
  field : n.field = none

theorem IsFreeComment.notIn {comment : Node} (free : comment.IsFreeComment) (role : String) :
    (comment.field == some role) = false := by
  rw [free.field]
  rfl

theorem child?_eq_head? (n : Node) (role : String) : n.child? role = (n.childrenIn role).head? := by
  rw [childrenIn, List.head?_filter, child?]

end Node

/-- A comment is put among the children of a node, or of some node below it. The sides of assignments take
none; the first argument says whether the node is a side itself. -/
inductive Commented : Prop → Node → Node → Prop
  | here {side : Prop} {n comment : Node} {front back : List Node} (other : ¬ side)
    (free : comment.IsFreeComment) (children : n.children = front ++ back) :
    Commented side n { n with children := front ++ comment :: back }
  | inside {side : Prop} {n child child' : Node} {front back : List Node}
    (children : n.children = front ++ child :: back) (inner : Commented (n.HasSide child) child child') :
    Commented side n { n with children := front ++ child' :: back }

/-- The second node is the first, or the first with a comment put in. -/
def LooksLike (n n' : Node) : Prop := n = n' ∨ Commented False n n'

/-- The same of two children in the place of each other, where a side of an assignment takes no comment. -/
def LooksLikeIn (parent n n' : Node) : Prop := n = n' ∨ Commented (parent.HasSide n) n n'

theorem LooksLike.refl (n : Node) : LooksLike n n := .inl rfl

/-- A list of related elements begins with related elements. -/
theorem head?_of_forall₂ {α β : Type} {R : α → β → Prop} {xs : List α} {ys : List β}
    (related : List.Forall₂ R xs ys) : Option.Rel R xs.head? ys.head? := by
  cases related with
  | nil => exact .none
  | cons first rest => exact .some first

theorem cases_of_rel {α β : Type} {R : α → β → Prop} {x : Option α} {y : Option β} (related : Option.Rel R x y) :
    (x = none ∧ y = none) ∨ ∃ a b, x = some a ∧ y = some b ∧ R a b := by
  cases related with
  | none => exact .inl ⟨rfl, rfl⟩
  | some related => exact .inr ⟨_, _, rfl, rfl, related⟩

namespace Commented

variable {side : Prop} {n n' : Node}

theorem looksLike (h : Commented side n n') : LooksLike n n' := by
  cases h with
  | here other free children => exact .inr (.here not_false free children)
  | inside children inner => exact .inr (.inside children inner)

theorem bare (h : Commented side n n') : n'.bare = n.bare := by
  cases h <;> rfl

/-- Children that are kept by what they are from outside, without the comment that is put in. -/
theorem filter {keep : Node → Bool} (h : Commented side n n')
    (outside : ∀ child : Node, keep child = keep child.bare)
    (dropped : ¬ side → ∀ comment : Node, comment.IsFreeComment → keep comment = false) :
    List.Forall₂ (LooksLikeIn n) (n.children.filter keep) (n'.children.filter keep) := by
  have same : ∀ ns, List.Forall₂ (LooksLikeIn n) ns ns :=
    fun ns => List.forall₂_same.mpr fun _ _ => .inl rfl
  cases h with
  | @here _ _ comment front back other free children =>
    have gone : ¬ keep comment = true := by simp [dropped other comment free]
    rw [children, List.filter_append, List.filter_append, List.filter_cons_of_neg gone]
    exact List.rel_append (same _) (same _)
  | @inside _ _ child child' front back children inner =>
    have kept : keep child' = keep child := by rw [outside child', outside child, inner.bare]
    rw [children, List.filter_append, List.filter_append, List.filter_cons, List.filter_cons, kept]
    apply List.rel_append (same _)
    split
    · exact .cons (.inr inner) (same _)
    · exact same _

theorem child? (h : Commented side n n') (role : String) :
    Option.Rel (LooksLikeIn n) (n.child? role) (n'.child? role) := by
  have related : List.Forall₂ (LooksLikeIn n) (n.childrenIn role) (n'.childrenIn role) :=
    h.filter (fun _ => rfl) fun _ comment free => free.notIn role
  rw [Node.child?_eq_head?, Node.child?_eq_head?]
  exact head?_of_forall₂ related

end Commented

theorem LooksLikeIn.looksLike {parent n n' : Node} (alike : LooksLikeIn parent n n') : LooksLike n n' := by
  rcases alike with same | commented
  · exact .inl same
  · exact commented.looksLike

namespace LooksLike

variable {n n' : Node} (alike : LooksLike n n')
include alike

theorem bare : n'.bare = n.bare := by
  rcases alike with same | commented
  · rw [same]
  · exact commented.bare

theorem kind : n'.kind = n.kind := by
  have same := congrArg Node.kind alike.bare
  exact same

theorem span : n'.span = n.span := by
  have same := congrArg Node.span alike.bare
  exact same

theorem text (f : SourceFile) : f.text n' = f.text n := by
  simp only [SourceFile.text, alike.span]

theorem compactText (f : SourceFile) : f.compactText n' = f.compactText n := by
  simp only [SourceFile.compactText, alike.text]

theorem position (f : SourceFile) : f.position n' = f.position n := by
  simp only [SourceFile.position, alike.span]

theorem filter {keep : Node → Bool} (outside : ∀ child : Node, keep child = keep child.bare)
    (dropped : ∀ comment : Node, comment.IsFreeComment → keep comment = false) :
    List.Forall₂ LooksLike (n.children.filter keep) (n'.children.filter keep) := by
  rcases alike with same | commented
  · rw [same]
    exact List.forall₂_same.mpr fun child _ => .refl child
  · have related := commented.filter outside fun _ => dropped
    exact related.imp fun _ _ alike => alike.looksLike

theorem childrenIn (role : String) : List.Forall₂ LooksLike (n.childrenIn role) (n'.childrenIn role) :=
  alike.filter (fun _ => rfl) fun _ free => free.notIn role

theorem child? (role : String) : Option.Rel LooksLike (n.child? role) (n'.child? role) := by
  rw [Node.child?_eq_head?, Node.child?_eq_head?]
  exact head?_of_forall₂ (alike.childrenIn role)

theorem namedFilter {keep : Node → Bool} (outside : ∀ child : Node, keep child = keep child.bare)
    (dropped : ∀ comment : Node, comment.IsFreeComment → keep comment = false) :
    List.Forall₂ LooksLike (n.namedChildren.filter keep) (n'.namedChildren.filter keep) := by
  simp only [Node.namedChildren, List.filter_filter]
  apply alike.filter
  · intro child
    rw [outside child]
    rfl
  · intro comment free
    rw [dropped comment free, Bool.false_and]

theorem ofKind {kind : String} (other : kind ≠ "comment") :
    List.Forall₂ LooksLike (n.ofKind kind) (n'.ofKind kind) := by
  apply alike.namedFilter (fun _ => rfl)
  intro comment free
  rw [free.kind]
  exact beq_false_of_ne other.symm

theorem contents : List.Forall₂ LooksLike n.contents n'.contents := by
  apply alike.namedFilter (fun _ => rfl)
  intro comment free
  simp [Node.isComment, free.kind]

theorem statements : List.Forall₂ LooksLike n.statements n'.statements := by
  refine List.rel_flatMap alike.contents ?_
  intro a b related
  dsimp only
  rw [related.kind]
  split
  · exact related.contents
  · exact .cons related .nil

/-- A side of an assignment takes no comment, so it has as many named children as before. -/
theorem side (assigns : n.kind = "assignment_statement") {role : String} (isSide : role = "left" ∨ role = "right") :
    Option.Rel (fun a b => List.Forall₂ LooksLike a.namedChildren b.namedChildren) (n.child? role)
      (n'.child? role) := by
  have same : ∀ side : Node, List.Forall₂ LooksLike side.namedChildren side.namedChildren :=
    fun side => List.forall₂_same.mpr fun child _ => .refl child
  rcases alike with rfl | commented
  · cases n.child? role with
    | none => exact .none
    | some side => exact .some (same side)
  · rcases cases_of_rel (commented.child? role) with ⟨absent, absent'⟩ | ⟨side, side', found, found', related⟩
    · rw [absent, absent']
      exact .none
    · rw [found, found']
      apply Option.Rel.some
      rcases related with rfl | inner
      · exact same side
      · have field : side.field = some role := Node.field_of_child? found
        have isSide : n.HasSide side := by
          rw [Node.HasSide, field, Option.some.injEq, Option.some.injEq]
          exact ⟨assigns, isSide⟩
        have children : List.Forall₂ (LooksLikeIn side) side.namedChildren side'.namedChildren :=
          inner.filter (fun _ => rfl) fun other => absurd isSide other
        exact children.imp fun _ _ alike => alike.looksLike

end LooksLike

end SliceGrowth.Syntax
