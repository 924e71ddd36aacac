import SliceGrowth.Proofs.Analysis.Visibility
import SliceGrowth.Proofs.Syntax.Placement

/-!
Two shapes of a method body. The statements of a block stand right below it, or below statement lists that
stand there. A check does the same with a file whichever of the two its methods have.
-/
namespace SliceGrowth

namespace Syntax.Node

/-- What a block has in place of a child: a statement list gives way to its own children. -/
def spliced (n : Node) : List Node :=
  if n.named = true ∧ n.kind = "statement_list" then n.children else [n]

def unwrapped (block : Node) : Node := { block with children := block.children.flatMap spliced }

def changeFirst (role : String) (change : Node → Node) : List Node → List Node
  | [] => []
  | n :: rest => if n.field = some role then change n :: rest else n :: changeFirst role change rest

/-- The method with the statements of its body right below the body. -/
def unwrapBody (method : Node) : Node :=
  { method with children := changeFirst "body" unwrapped method.children }

def unwrapDeclaration (declaration : Node) : Node :=
  if declaration.kind = "method_declaration" then declaration.unwrapBody else declaration

/-- The tree with the bodies of all its methods unwrapped. -/
def unwrapMethods (root : Node) : Node := { root with children := root.children.map unwrapDeclaration }

/-- No statement list stands right below another. -/
def ListsApart (root : Node) : Prop :=
  ∀ list ∈ root.nodes, list.kind = "statement_list" → ∀ child ∈ list.children, child.kind ≠ "statement_list"

instance : DecidablePred ListsApart := fun _ => inferInstanceAs (Decidable (∀ _ ∈ _, _))

theorem ListsApart.of_mem {root n : Node} (apart : root.ListsApart) (member : n ∈ root.nodes) : n.ListsApart :=
  fun list below => apart list (mem_nodes_trans member below)

theorem mem_nodes_of_child? {n child : Node} {role : String} (found : n.child? role = some child) :
    child ∈ n.nodes :=
  mem_nodes_of_child (List.mem_of_find?_eq_some found)

section Statements

/-- The statements that a child of a block stands for. -/
def statementsAt (n : Node) : List Node :=
  if n.named && !n.isComment then (if n.kind == "statement_list" then n.contents else [n]) else []

theorem contents_eq_flatMap (n : Node) :
    n.contents = n.children.flatMap fun child => if child.named && !child.isComment then [child] else [] := by
  rw [contents, namedChildren, List.filter_filter]
  induction n.children with
  | nil => rfl
  | cons child rest ih =>
    rw [List.flatMap_cons, ← ih, List.filter_cons, Bool.and_comm]
    split <;> rfl

theorem statements_eq_flatMap (block : Node) : block.statements = block.children.flatMap statementsAt := by
  rw [statements, contents_eq_flatMap, List.flatMap_assoc]
  apply List.flatMap_congr
  intro child _
  rw [statementsAt]
  split
  · exact List.flatMap_singleton _ child
  · rfl

theorem statementsAt_spliced {n : Node} (apart : n.ListsApart) : n.spliced.flatMap statementsAt = statementsAt n := by
  by_cases list : n.named = true ∧ n.kind = "statement_list"
  · have inside : statementsAt n = n.contents := by simp [statementsAt, isComment, list.1, list.2]
    rw [spliced, if_pos list, inside, contents_eq_flatMap]
    apply List.flatMap_congr
    intro child member
    -- The children of a list are no lists themselves, so each of them stands for itself.
    have plain : child.kind ≠ "statement_list" := apart n n.mem_nodes_self list.2 child member
    rw [statementsAt, beq_false_of_ne plain]
    rfl
  · rw [spliced, if_neg list]
    exact List.flatMap_singleton _ n

theorem statements_unwrapped {block : Node} (apart : block.ListsApart) :
    block.unwrapped.statements = block.statements := by
  rw [statements_eq_flatMap, statements_eq_flatMap, unwrapped, List.flatMap_assoc]
  apply List.flatMap_congr
  intro child member
  exact statementsAt_spliced (apart.of_mem (mem_nodes_of_child member))

end Statements

section Roles

variable {role : String} {change : Node → Node}

theorem unwrapped_keepsHead : KeepsHead unwrapped := fun _ => rfl

theorem unwrapBody_keepsHead : KeepsHead unwrapBody := fun _ => rfl

theorem unwrapDeclaration_keepsHead : KeepsHead unwrapDeclaration := unwrapBody_keepsHead.ite fun _ => rfl

theorem find?_changeFirst (keeps : KeepsHead change) (children : List Node) :
    (changeFirst role change children).find? (·.field == some role) =
      (children.find? (·.field == some role)).map change := by
  induction children with
  | nil => rfl
  | cons n rest ih =>
    by_cases here : n.field = some role
    · simp [changeFirst, here, keeps.field]
    · simp [changeFirst, here, ih]

theorem find?_changeFirst_other (keeps : KeepsHead change) {other : String} (apart : other ≠ role)
    (children : List Node) : (changeFirst role change children).find? (·.field == some other) =
      children.find? (·.field == some other) := by
  induction children with
  | nil => rfl
  | cons n rest ih =>
    by_cases here : n.field = some role
    · simp [changeFirst, here, keeps.field, apart.symm]
    · simp [changeFirst, here, List.find?_cons, ih]

theorem body_unwrapBody (method : Node) : method.unwrapBody.child? "body" = (method.child? "body").map unwrapped :=
  find?_changeFirst unwrapped_keepsHead method.children

theorem child?_unwrapBody (method : Node) (apart : role ≠ "body") :
    method.unwrapBody.child? role = method.child? role :=
  find?_changeFirst_other unwrapped_keepsHead apart method.children

end Roles

end Syntax.Node

namespace Analysis

open Syntax Node

theorem receiver_unwrapBody (f : SourceFile) (method : Node) : receiver f method.unwrapBody = receiver f method := by
  unfold receiver
  rw [child?_unwrapBody method (by decide)]
  rfl

theorem bodyUpdates_unwrapped (policy : Policy) (operations : Operations) (f : SourceFile) (receiver : Receiver)
    {body : Node} (apart : body.ListsApart) :
    bodyUpdates policy operations f receiver body.unwrapped = bodyUpdates policy operations f receiver body := by
  unfold bodyUpdates assignments
  rw [statements_unwrapped apart]

theorem updates_unwrapDeclaration (policy : Policy) (operations : Operations) (f : SourceFile) {method : Node}
    (apart : method.ListsApart) :
    updates policy operations f method.unwrapDeclaration = updates policy operations f method := by
  by_cases kind : method.kind = "method_declaration"
  · have changed : method.unwrapDeclaration = method.unwrapBody := if_pos kind
    unfold updates
    rw [changed, unwrapBody_keepsHead.kind, body_unwrapBody, receiver_unwrapBody]
    cases found : method.child? "body" with
    | none => rfl
    | some body =>
      have bodyApart : body.ListsApart := apart.of_mem (mem_nodes_of_child? found)
      simp only [Option.map_some, bodyUpdates_unwrapped policy operations f _ bodyApart]
  · have same : method.unwrapDeclaration = method := if_neg kind
    rw [same]

theorem declarationTargets_unwrapDeclaration (policy : Policy) (f : SourceFile) (declaration : Node) :
    declarationTargets policy f declaration.unwrapDeclaration = declarationTargets policy f declaration := by
  by_cases kind : declaration.kind = "method_declaration"
  · have fieldless : declaration.kind ∈ fieldlessKinds := by
      rw [kind]
      decide
    have fieldless' : declaration.unwrapDeclaration.kind ∈ fieldlessKinds := by
      rwa [unwrapDeclaration_keepsHead.kind]
    rw [declarationTargets_of_fieldless policy f fieldless, declarationTargets_of_fieldless policy f fieldless']
  · have same : declaration.unwrapDeclaration = declaration := if_neg kind
    rw [same]

/-- A file whose methods have their statements in lists is judged like the file without these lists: a check
returns, logs, records and fails with the same. -/
theorem checkSlices_of_unwrapped (policy : Policy) (operations : Operations) (f : SourceFile)
    (apart : f.root.ListsApart) :
    checkSlices policy operations { f with root := f.root.unwrapMethods } = checkSlices policy operations f := by
  apply checkSlices_of_changed policy operations f unwrapDeclaration_keepsHead rfl
    (declarationTargets_unwrapDeclaration policy f)
  intro method member
  have below : method ∈ f.root.nodes :=
    mem_nodes_of_child (List.mem_of_mem_filter (List.mem_of_mem_filter member))
  exact updates_unwrapDeclaration policy operations f (apart.of_mem below)

/-- A block with a comment, a list of statements, a statement and another list. -/
def listedBody : Node :=
  onLine "block" 38 55 [
    onLine "comment" 39 39 [],
    onLine "statement_list" 39 54 [onLine "comment" 39 39 [], growthOf []],
    onLine "if_statement" 54 54 [onLine "statement_list" 54 54 [growthOf []]],
    onLine "statement_list" 54 54 [onLine "return_statement" 54 54 []]]

theorem checkSlices_of_unwrapped_listed :
    (storeWith listedBody).root.ListsApart ∧
      checkSlices .abort {} { storeWith listedBody with root := (storeWith listedBody).root.unwrapMethods } =
        checkSlices .abort {} (storeWith listedBody) ∧
      (checkSlices .abort {} (storeWith listedBody)).outcome = .ok [mixedFinding] := by
  have apart : (storeWith listedBody).root.ListsApart := by decide
  exact ⟨apart, checkSlices_of_unwrapped .abort {} (storeWith listedBody) apart, rfl⟩

end Analysis

end SliceGrowth
