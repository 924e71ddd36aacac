import SliceGrowth.Proofs.Syntax.Placement
import SliceGrowth.Syntax.Acceptance

/-!
The first wrong node of a tree. The search for it looks only below nodes that are flagged; where the flags are
true it finds the first wrong node of the whole tree, and a file is refused at this node or not at all.
-/
namespace SliceGrowth.Syntax

namespace Node

/-- The node is an error, or was expected and is not there. -/
def IsWrong (n : Node) : Prop := n.kind = "ERROR" ∨ n.missing = true

instance : DecidablePred IsWrong := fun _ => inferInstanceAs (Decidable (_ ∨ _))

/-- A node is flagged exactly if it is wrong or a node below it is. -/
def FlaggedTruly (root : Node) : Prop :=
  ∀ n ∈ root.nodes, n.hasError = true ↔ ∃ m ∈ n.nodes, m.IsWrong

instance : DecidablePred FlaggedTruly := fun _ => inferInstanceAs (Decidable (∀ _ ∈ _, _ ↔ _))

/-- The first of the wrong nodes, where every node comes before the nodes below it. -/
def IsFirstWrong (root n : Node) : Prop :=
  n.IsWrong ∧ ∃ before after, root.nodes = before ++ n :: after ∧ ∀ m ∈ before, ¬ m.IsWrong

theorem isFault_iff {n : Node} : n.isFault = true ↔ n.IsWrong := by
  simp [isFault, IsWrong]

theorem firstError?_eq (n : Node) :
    n.firstError? = if n.isFault then some n else if !n.hasError then none
      else some ((firstErrorIn? n.children).getD n) := by
  cases n
  rw [firstError?]

theorem firstError?_eq_none_iff {n : Node} : n.firstError? = none ↔ ¬ n.IsWrong ∧ n.hasError = false := by
  rw [firstError?_eq, ← isFault_iff]
  cases n.isFault <;> cases n.hasError <;> simp

theorem find?_fault_eq_none_iff {ns : List Node} : ns.find? isFault = none ↔ ∀ n ∈ ns, ¬ n.IsWrong := by
  simp only [List.find?_eq_none, isFault_iff]

theorem isFirstWrong_iff {root n : Node} : root.IsFirstWrong n ↔ root.nodes.find? isFault = some n := by
  simp only [List.find?_eq_some_iff_append, isFault_iff, IsFirstWrong, Bool.not_eq_true', ← Bool.not_eq_true]

/-- A flagged node that is not wrong has a wrong node below it, so the search never falls back on the node. -/
theorem firstError?_of_children {n : Node} (flag : n.hasError = true ↔ ∃ m ∈ n.nodes, m.IsWrong)
    (below : firstErrorIn? n.children = (nodesOf n.children).find? isFault) :
    n.firstError? = n.nodes.find? isFault := by
  rw [firstError?_eq, nodes_eq, List.find?_cons, below]
  cases wrong : n.isFault with
  | true => rfl
  | false =>
    have notWrong : ¬ n.IsWrong := by rw [← isFault_iff, wrong]; simp
    simp only [nodes_eq, List.mem_cons, exists_eq_or_imp, notWrong, false_or] at flag
    cases found : (nodesOf n.children).find? isFault with
    | none =>
      have unflagged : n.hasError = false := by
        rw [← Bool.not_eq_true, flag]
        rintro ⟨m, member, wrongBelow⟩
        exact find?_fault_eq_none_iff.mp found m member wrongBelow
      simp [unflagged]
    | some m =>
      have flagged : n.hasError = true :=
        flag.mpr ⟨m, List.mem_of_find?_eq_some found, isFault_iff.mp (List.find?_some found)⟩
      simp [flagged]

theorem FlaggedTruly.firstError?_eq_find? {root : Node} :
    root.FlaggedTruly → root.firstError? = root.nodes.find? isFault := by
  refine nodes.induct (fun root => root.FlaggedTruly → root.firstError? = root.nodes.find? isFault)
    (fun ns => (∀ n ∈ nodesOf ns, n.hasError = true ↔ ∃ m ∈ n.nodes, m.IsWrong) →
      firstErrorIn? ns = (nodesOf ns).find? isFault) ?node ?nil ?cons root
  case node =>
    intro kind span named field missing hasError children ih truly
    apply firstError?_of_children (truly _ (mem_nodes_self _))
    apply ih
    intro n member
    exact truly n (by rw [nodes_eq]; exact List.mem_cons_of_mem _ member)
  case nil =>
    intro truly
    rfl
  case cons =>
    intro first rest ihFirst ihRest truly
    have ofFirst := ihFirst fun n member => truly n (by rw [nodesOf]; exact List.mem_append_left _ member)
    have ofRest := ihRest fun n member => truly n (by rw [nodesOf]; exact List.mem_append_right _ member)
    rw [firstErrorIn?, ofFirst, ofRest, nodesOf, List.find?_append]

theorem errorDetail_eq_iff (n : Node) : n.errorDetail = "missing " ++ n.kind ↔ n.missing = true := by
  unfold errorDetail
  split
  · rename_i missing
    exact iff_of_true rfl missing
  · rename_i present
    refine iff_of_false (fun same => ?_) present
    -- The two texts differ in their first letter.
    have letters := congrArg (fun s => s.toList.head?) same
    rw [String.toList_append] at letters
    cases letters

end Node

namespace SourceFile

variable {root n : Node} (path : SlashPath) (source : ByteArray)

theorem accept_of_none (found : root.firstError? = none) :
    accept path source root = pure { path := path, source := source, root := root } := by
  rw [accept, found]

theorem accept_of_some (found : root.firstError? = some n) :
    accept path source root = Run.fail (.parse (n.span.position path) n.errorDetail) := by
  rw [accept, found]

theorem accept_fails_iff :
    (∃ position detail, (accept path source root).outcome = .error (.parse position detail)) ↔
      root.firstError? ≠ none := by
  cases found : root.firstError? with
  | none =>
    rw [accept_of_none path source found]
    refine iff_of_false ?_ (by simp)
    rintro ⟨position, detail, failed⟩
    cases failed
  | some n =>
    rw [accept_of_some path source found]
    exact iff_of_true ⟨_, _, rfl⟩ (by simp)

/-- The search finds nothing exactly if the root is neither wrong nor flagged. Where every flag is true it finds
the first wrong node, and a file is refused exactly if there is one, at its place and as missing if it is. -/
theorem accept_refuses_at_first_wrong (root : Node) :
    (root.firstError? = none ↔ root.kind ≠ "ERROR" ∧ root.missing = false ∧ root.hasError = false) ∧
    (root.FlaggedTruly →
      (root.firstError? = none ↔ ∀ n ∈ root.nodes, ¬ n.IsWrong) ∧
      (∀ n, root.firstError? = some n ↔ root.IsFirstWrong n) ∧
      ∀ path source,
        ((∃ position detail, (accept path source root).outcome = .error (.parse position detail)) ↔
          ∃ n ∈ root.nodes, n.IsWrong) ∧
        ((∀ n ∈ root.nodes, ¬ n.IsWrong) → accept path source root = pure ⟨path, source, root⟩) ∧
        ∀ n, root.IsFirstWrong n →
          ∃ detail, accept path source root = Run.fail (.parse (n.span.position path) detail) ∧
            (detail = "missing " ++ n.kind ↔ n.missing = true)) := by
  constructor
  · rw [Node.firstError?_eq_none_iff, Node.IsWrong, not_or, Bool.not_eq_true, and_assoc]
  intro truly
  have searched : root.firstError? = root.nodes.find? Node.isFault := truly.firstError?_eq_find?
  have nothing : root.firstError? = none ↔ ∀ n ∈ root.nodes, ¬ n.IsWrong := by
    rw [searched, Node.find?_fault_eq_none_iff]
  have first : ∀ n, root.firstError? = some n ↔ root.IsFirstWrong n := by
    intro n
    rw [searched, Node.isFirstWrong_iff]
  refine ⟨nothing, first, fun path source => ⟨?_, ?_, ?_⟩⟩
  · rw [accept_fails_iff, Ne, nothing]
    simp only [not_forall, not_not, exists_prop]
  · intro right
    exact accept_of_none path source (nothing.mpr right)
  · intro n isFirst
    exact ⟨n.errorDetail, accept_of_some path source ((first n).mpr isFirst), n.errorDetail_eq_iff⟩

def missingName : Node where
  kind := "identifier"
  span := ⟨9, 9, 1, 4⟩
  missing := true
  hasError := true

/-- A function without its name, before an error. -/
def namelessFunction : Node where
  kind := "source_file"
  span := ⟨0, 12, 0, 0⟩
  hasError := true
  children := [
    { kind := "comment", span := ⟨0, 4, 0, 0⟩ },
    { kind := "function_declaration", span := ⟨5, 11, 1, 0⟩, hasError := true, children := [
      { kind := "func", span := ⟨5, 9, 1, 0⟩, named := false },
      missingName,
      { kind := "parameter_list", span := ⟨9, 11, 1, 4⟩ }] },
    { kind := "ERROR", span := ⟨11, 12, 1, 6⟩, hasError := true }]

theorem accept_refuses_at_first_wrong_nameless :
    namelessFunction.FlaggedTruly ∧ namelessFunction.IsFirstWrong missingName ∧
      accept (.ofString "f.go") .empty namelessFunction =
        Run.fail (.parse ⟨.ofString "f.go", 2, 5⟩ "missing identifier") := by
  have truly : namelessFunction.FlaggedTruly := by decide
  obtain ⟨-, first, refused⟩ := (accept_refuses_at_first_wrong namelessFunction).2 truly
  have isFirst : namelessFunction.IsFirstWrong missingName := (first missingName).mp rfl
  obtain ⟨detail, failed, isMissing⟩ := (refused (.ofString "f.go") .empty).2.2 missingName isFirst
  have same : detail = "missing identifier" := isMissing.mpr rfl
  exact ⟨truly, isFirst, by rw [failed, same]; rfl⟩

end SourceFile

end SliceGrowth.Syntax
