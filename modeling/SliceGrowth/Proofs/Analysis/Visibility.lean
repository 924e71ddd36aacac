import SliceGrowth.Proofs.Analysis.Findings
import SliceGrowth.Proofs.Syntax.Outline

/-!
What the check for slice fields looks at. Of functions, imports, constants, and of the statements of a
method other than assignments, it sees no more than that they are there; of an assigned value it sees the
callee. Two files that look the same in this view are judged the same.
-/
namespace SliceGrowth.Analysis

open Syntax Node

/-- A value that is no call is only seen from outside. -/
def viewValue (value : Node) : Node := if value.kind = "call_expression" then value.outline else value.bare

-- The two sides of an assignment, and below the receiver and the body of a method, are found by their role
-- and not by their kind, so they are seen whatever they are.

def viewSide (side : Node) : Node :=
  if side.field = some "right" then side.mapChildren viewValue
  else if side.field = some "left" then side.mapChildren outline
  else side.outline

/-- A statement that is no assignment is only seen from outside. -/
def viewStatement (statement : Node) : Node :=
  if statement.kind = "assignment_statement" then statement.mapChildren viewSide else statement.bare

def viewInBody (n : Node) : Node :=
  if n.kind = "statement_list" then n.mapChildren viewStatement else viewStatement n

def viewPart (part : Node) : Node :=
  if part.field = some "body" then part.mapChildren viewInBody
  else if part.field = some "receiver" then part.mapChildren outline
  else part.outline

/-- Declarations that are only seen from outside. -/
def closedKinds : List String := ["function_declaration", "import_declaration", "const_declaration"]

def viewDeclaration (declaration : Node) : Node :=
  if declaration.kind ∈ closedKinds then declaration.bare
  else if declaration.kind = "method_declaration" then declaration.mapChildren viewPart
  else declaration.outline

/-- What of a tree the check looks at. -/
def view (root : Node) : Node := root.mapChildren viewDeclaration

theorem viewValue_keepsHead : KeepsHead viewValue := outline_keepsHead.ite bare_keepsHead

theorem viewSide_keepsHead : KeepsHead viewSide :=
  (mapChildren_keepsHead viewValue).ite ((mapChildren_keepsHead outline).ite outline_keepsHead)

theorem viewStatement_keepsHead : KeepsHead viewStatement := (mapChildren_keepsHead viewSide).ite bare_keepsHead

theorem viewInBody_keepsHead : KeepsHead viewInBody :=
  (mapChildren_keepsHead viewStatement).ite viewStatement_keepsHead

theorem viewPart_keepsHead : KeepsHead viewPart :=
  (mapChildren_keepsHead viewInBody).ite ((mapChildren_keepsHead outline).ite outline_keepsHead)

theorem viewDeclaration_keepsHead : KeepsHead viewDeclaration :=
  bare_keepsHead.ite ((mapChildren_keepsHead viewPart).ite outline_keepsHead)

theorem fieldTargets_outline (f : SourceFile) (identity : String) {line : Node}
    (kind : line.kind = "field_declaration") :
    fieldTargets f identity line.outline = fieldTargets f identity line := by
  rw [outline_of_kind kind (by decide)]
  unfold fieldTargets
  rw [outline_keepsHead.child?]
  cases line.child? "type" with
  | none => rfl
  | some type =>
    simp only [Option.map_some, outline_keepsHead.kind, outline_keepsHead.childrenIn, List.map_map,
      Function.comp_def, outline_keepsHead.text, outline_keepsHead.position]
    rfl

theorem fieldDeclarations_outline {struct : Node} (kind : struct.kind = "struct_type") :
    fieldDeclarations struct.outline = (fieldDeclarations struct).map outline := by
  rw [outline_of_kind kind (by decide)]
  simp only [fieldDeclarations, outline_keepsHead.ofKind, List.flatMap_map, List.map_flatMap]
  apply List.flatMap_congr
  intro list member
  have kind : list.kind = "field_declaration_list" := eq_of_beq (List.mem_filter.mp member).2
  rw [outline_of_kind kind (by decide), outline_keepsHead.ofKind]

theorem mem_fieldDeclarations_kind {struct line : Node} (member : line ∈ fieldDeclarations struct) :
    line.kind = "field_declaration" := by
  obtain ⟨list, -, member⟩ := List.mem_flatMap.mp member
  exact eq_of_beq (List.mem_filter.mp member).2

theorem specIdentity_outline (f : SourceFile) {spec : Node} (notComment : spec.kind ≠ "comment") :
    specIdentity f spec.outline = specIdentity f spec := by
  obtain ⟨change, keeps, same⟩ := outline_eq_mapChildren notComment
  rw [same]
  unfold specIdentity
  rw [keeps.child?]
  cases spec.child? "name" with
  | none => rfl
  | some name => exact keeps.text f name

theorem specStruct?_outline (spec : Node) : specStruct? spec.outline = (specStruct? spec).map outline := by
  unfold specStruct?
  rw [outline_keepsHead.kind]
  split
  · rename_i kind
    have kind : spec.kind = "type_spec" := eq_of_beq kind
    rw [outline_of_kind kind (by decide), outline_keepsHead.child?, Option.filter_map]
    simp only [Function.comp_def, outline_keepsHead.kind]
  · rfl

theorem mapM_map_of_same {ε α β : Type} {g : α → Except ε β} {change : α → α} {xs : List α}
    (same : ∀ x ∈ xs, g (change x) = g x) : (xs.map change).mapM g = xs.mapM g := by
  induction xs with
  | nil => rfl
  | cons x xs ih =>
    rw [List.map_cons, List.mapM_cons, List.mapM_cons, same x (by simp),
      ih fun y member => same y (by simp [member])]

theorem specTargets_outline (f : SourceFile) {spec : Node} (notComment : spec.kind ≠ "comment") :
    specTargets f spec.outline = specTargets f spec := by
  simp only [specTargets, specIdentity_outline f notComment, specStruct?_outline,
    outline_keepsHead.position]
  cases found : specStruct? spec with
  | none => rfl
  | some struct =>
    have declared := specStruct?_eq_some_iff.mp found
    simp only [Option.map_some, fieldDeclarations_outline declared.2.2]
    rw [mapM_map_of_same]
    intro line member
    exact fieldTargets_outline f _ (mem_fieldDeclarations_kind member)

theorem declarationTargets_view (policy : Policy) (f : SourceFile) (declaration : Node) :
    declarationTargets policy f (viewDeclaration declaration) = declarationTargets policy f declaration := by
  have keeps := viewDeclaration_keepsHead
  simp only [declarationTargets, keeps.kind, keeps.text, keeps.position]
  by_cases type : declaration.kind = "type_declaration"
  · have viewed : viewDeclaration declaration = declaration.mapChildren outline := by
      simp [viewDeclaration, closedKinds, type, outline_of_kind type (by decide)]
    have specs : Run.gather (reportedTargets policy f) (viewDeclaration declaration).contents =
        Run.gather (reportedTargets policy f) declaration.contents := by
      rw [viewed, outline_keepsHead.contents, Run.gather_map]
      apply Run.gather_congr
      intro spec member
      have notComment : spec.kind ≠ "comment" := by
        simpa [isComment] using (List.mem_filter.mp member).2
      simp only [reportedTargets, specTargets_outline f notComment]
    rw [specs]
  · simp [type]

theorem receiverCore?_outline (type : Node) :
    receiverCore? type.outline = (receiverCore? type).map outline := by
  have applied : ∀ pointee : Node,
      (if pointee.outline.kind == "generic_type" then pointee.outline.child? "type" else some pointee.outline) =
        (if pointee.kind == "generic_type" then pointee.child? "type" else some pointee).map outline := by
    intro pointee
    rw [outline_keepsHead.kind]
    split
    · rename_i kind
      have kind : pointee.kind = "generic_type" := eq_of_beq kind
      rw [outline_of_kind kind (by decide), outline_keepsHead.child?]
    · rfl
  unfold receiverCore?
  rw [outline_keepsHead.kind]
  by_cases pointer : type.kind = "pointer_type"
  · rw [outline_of_kind pointer (by decide), outline_keepsHead.contents]
    cases type.contents with
    | nil => simp [pointer]
    | cons pointee rest => simpa [pointer] using applied pointee
  · simpa [pointer] using applied type

theorem receiverType_outline (f : SourceFile) (type : Node) :
    receiverType f type.outline = receiverType f type := by
  have keeps := outline_keepsHead
  simp only [receiverType, receiverCore?_outline, Option.filter_map, Function.comp_def, keeps.kind,
    keeps.position, keeps.compactText]
  cases (receiverCore? type).filter (·.kind == "type_identifier") with
  | none => rfl
  | some name => simp only [Option.map_some, keeps.text]

def Receiver.outline (r : Receiver) : Receiver := { r with type := r.type.outline }

theorem receiverParameters_view (method : Node) :
    receiverParameters (method.mapChildren viewPart) = (receiverParameters method).map Node.outline := by
  unfold receiverParameters
  rw [viewPart_keepsHead.child?]
  cases found : method.child? "receiver" with
  | none => rfl
  | some list =>
    have viewed : viewPart list = list.mapChildren Node.outline := by simp [viewPart, field_of_child? found]
    simp only [Option.map_some, Option.getD_some, viewed, outline_keepsHead.ofKind]

theorem receiver_view (f : SourceFile) (method : Node) :
    receiver f (method.mapChildren viewPart) = Receiver.outline <$> receiver f method := by
  have keeps := outline_keepsHead
  unfold receiver
  rw [← receiverParameters, ← receiverParameters, receiverParameters_view]
  cases first : receiverParameters method with
  | nil => rfl
  | cons parameter others =>
    have kind : parameter.kind = "parameter_declaration" :=
      kind_of_mem_receiverParameters (by rw [first]; simp)
    rw [List.map_cons, outline_of_kind kind (by decide)]
    simp only [keeps.child?]
    cases parameter.child? "type" with
    | none => rfl
    | some type =>
      cases parameter.child? "name" with
      | none => rfl
      | some name =>
        simp only [Option.map_some, keeps.text]
        rfl

theorem statements_view (body : Node) :
    (body.mapChildren viewInBody).statements = body.statements.map viewStatement := by
  simp only [statements, viewInBody_keepsHead.contents, List.flatMap_map, List.map_flatMap,
    viewInBody_keepsHead.kind]
  apply List.flatMap_congr
  intro n _
  by_cases list : n.kind = "statement_list"
  · simp [list, viewInBody, viewStatement_keepsHead.contents]
  · simp [list, viewInBody]

def Assignment.view (a : Assignment) : Assignment :=
  { a with statement := viewStatement a.statement, value := viewValue a.value }

/-- A selector names the same field of the receiver when it is outlined. -/
theorem selector_outline {γ : Type} (f : SourceFile) (name : String) (selector : Node)
    (next : String → Option γ) :
    (do
      guard (selector.outline.kind == "selector_expression")
      let operand ← selector.outline.child? "operand"
      let field ← selector.outline.child? "field"
      guard (operand.kind == "identifier" && f.text operand == name)
      next (f.text field)) =
    (do
      guard (selector.kind == "selector_expression")
      let operand ← selector.child? "operand"
      let field ← selector.child? "field"
      guard (operand.kind == "identifier" && f.text operand == name)
      next (f.text field)) := by
  have keeps := outline_keepsHead
  rw [keeps.kind]
  by_cases selects : selector.kind = "selector_expression"
  · rw [outline_of_kind selects (by decide), keeps.child?, keeps.child?]
    cases selector.child? "operand" with
    | none => rfl
    | some operand =>
      cases selector.child? "field" with
      | none => rfl
      | some field => simp only [Option.map_some, keeps.kind, keeps.text, Option.bind_eq_bind,
          Option.bind_some]
  · simp [selects]

theorem assignment?_view (f : SourceFile) (receiverName : Option String) (statement : Node) :
    assignment? f receiverName (viewStatement statement) =
      (assignment? f receiverName statement).map Assignment.view := by
  unfold assignment?
  rw [viewStatement_keepsHead.kind]
  cases receiverName with
  | none => rfl
  | some name =>
    by_cases kind : statement.kind = "assignment_statement"
    · have viewed : viewStatement statement = statement.mapChildren viewSide := by simp [viewStatement, kind]
      rw [viewed, viewSide_keepsHead.child?, viewSide_keepsHead.child?]
      cases hleft : statement.child? "left" with
      | none => simp [kind]
      | some left =>
        cases hright : statement.child? "right" with
        | none => simp [kind]
        | some right =>
          have leftViewed : viewSide left = left.mapChildren outline := by
            simp [viewSide, field_of_child? hleft]
          have rightViewed : viewSide right = right.mapChildren viewValue := by
            simp [viewSide, field_of_child? hright]
          simp only [kind, Option.map_some, leftViewed, rightViewed, Option.bind_eq_bind, Option.bind_some,
            beq_self_eq_true, guard_true, Option.pure_def, outline_keepsHead.namedChildren,
            viewValue_keepsHead.namedChildren]
          rcases left.namedChildren with - | ⟨selector, - | ⟨second, others⟩⟩
          · rfl
          · rcases right.namedChildren with - | ⟨value, - | ⟨second, others⟩⟩
            · rfl
            · refine (selector_outline f name selector fun field =>
                some (Assignment.mk (statement.mapChildren viewSide) field (viewValue value))).trans ?_
              simp [Option.map_bind, Assignment.view, viewed]
            · rfl
          · rfl
    · simp [kind]

theorem assignments_view (f : SourceFile) (receiverName : Option String) (body : Node) :
    assignments f receiverName (body.mapChildren viewInBody) =
      (assignments f receiverName body).map Assignment.view := by
  simp only [assignments, statements_view, List.filterMap_map, List.map_filterMap, Function.comp_def,
    assignment?_view]

theorem classifyValue_view (f : SourceFile) (operations : Operations) (value : Node) :
    classifyValue f operations (viewValue value) = classifyValue f operations value := by
  unfold classifyValue
  rw [viewValue_keepsHead.kind]
  by_cases call : value.kind = "call_expression"
  · have viewed : viewValue value = value.mapChildren outlinePart := by
      rw [viewValue, if_pos call, outline_of_call call]
    rw [viewed, outlinePart_keepsHead.child?]
    cases value.child? "function" with
    | none => rfl
    | some function => simp only [Option.map_some, outlinePart_keepsHead.compactText]
  · simp [call]

theorem update_view (f : SourceFile) (operations : Operations) (identity : String) {a : Assignment}
    (kind : a.statement.kind = "assignment_statement") :
    a.view.update f operations identity = a.update f operations identity := by
  have keeps := viewSide_keepsHead
  have position : f.position ((a.view.statement.child? "operator").getD a.view.statement) =
      f.position ((a.statement.child? "operator").getD a.statement) := by
    have viewed : a.view.statement = a.statement.mapChildren viewSide := by
      simp [Assignment.view, viewStatement, kind]
    rw [viewed, keeps.child?]
    cases a.statement.child? "operator" with
    | none => rfl
    | some operator => exact keeps.position f operator
  unfold Assignment.update
  rw [position]
  simp only [Assignment.view, classifyValue_view]

theorem bodyUpdates_view (policy : Policy) (operations : Operations) (f : SourceFile) (r : Receiver)
    (body : Node) : bodyUpdates policy operations f r.outline (body.mapChildren viewInBody) =
      bodyUpdates policy operations f r body := by
  have updates : ∀ identity, ((assignments f r.name body).map Assignment.view).map
      (·.update f operations identity) = (assignments f r.name body).map (·.update f operations identity) := by
    intro identity
    rw [List.map_map]
    apply List.map_congr_left
    intro a member
    obtain ⟨-, name, -, assigned⟩ := mem_assignments_iff.mp member
    exact update_view f operations identity assigned.kind
  unfold bodyUpdates
  rw [Receiver.outline, assignments_view, receiverType_outline]
  cases found : assignments f r.name body with
  | nil => rfl
  | cons first others =>
    rw [found] at updates
    cases receiverType f r.type with
    | error construct => rfl
    | ok identity => exact congrArg (fun made => do Run.forEach logUpdate made; return made) (updates identity)

theorem updates_view (policy : Policy) (operations : Operations) (f : SourceFile) (method : Node)
    (kind : method.kind = "method_declaration") :
    updates policy operations f (viewDeclaration method) = updates policy operations f method := by
  have viewed : viewDeclaration method = method.mapChildren viewPart := by
    simp [viewDeclaration, closedKinds, kind]
  unfold updates
  rw [viewDeclaration_keepsHead.kind, viewed, viewPart_keepsHead.child?, receiver_view]
  cases hbody : method.child? "body" with
  | none => rfl
  | some body =>
    have bodyViewed : viewPart body = body.mapChildren viewInBody := by simp [viewPart, field_of_child? hbody]
    simp only [Option.map_some, bodyViewed, bind_map_left, bodyUpdates_view]

/-- A file is judged the same if its declarations are changed into ones that give the same targets and updates. -/
theorem checkSlices_of_changed (policy : Policy) (operations : Operations) (f : SourceFile) {root : Node}
    {change : Node → Node} (keeps : KeepsHead change) (children : root.children = f.root.children.map change)
    (declares : ∀ declaration,
      declarationTargets policy f (change declaration) = declarationTargets policy f declaration)
    (makes : ∀ method ∈ methods f, updates policy operations f (change method) = updates policy operations f method) :
    checkSlices policy operations { f with root := root } = checkSlices policy operations f := by
  have named : root.namedChildren = f.root.namedChildren.map change := by
    rw [namedChildren, children]
    exact keeps.namedChildren f.root
  have ofMethods : root.ofKind "method_declaration" = (methods f).map change := by
    rw [ofKind, namedChildren, children]
    exact keeps.ofKind f.root "method_declaration"
  have declared : targets policy { f with root := root } = targets policy f := by
    unfold targets
    rw [named, Run.gather_map]
    apply Run.gather_congr
    intro declaration _
    rw [declarationTargets_withRoot, declares]
  have made : Run.gather (updates policy operations { f with root := root }) (methods { f with root := root }) =
      Run.gather (updates policy operations f) (methods f) := by
    rw [methods, ofMethods, Run.gather_map]
    apply Run.gather_congr
    intro method member
    rw [updates_withRoot, makes method member]
  unfold checkSlices
  rw [declared, made]

theorem checkSlices_view (policy : Policy) (operations : Operations) (f : SourceFile) :
    checkSlices policy operations { f with root := view f.root } = checkSlices policy operations f := by
  apply checkSlices_of_changed policy operations f viewDeclaration_keepsHead rfl (declarationTargets_view policy f)
  intro method member
  exact updates_view policy operations f method (eq_of_beq (List.mem_filter.mp member).2)

/-- A type with the field `d`, and a method of it with this body. -/
def storeWith (body : Node) : SourceFile where
  path := .ofString "store.go"
  source := "type S struct\x7bd []int\x7d;func (s *S) f()\x7bs.d=append(s.d)\x7d".toUTF8
  root := onLine "source_file" 0 55 [
    onLine "type_declaration" 0 22 [
      onLine "type_spec" 5 22 [
        (onLine "type_identifier" 5 6 []).inRole "name",
        (onLine "struct_type" 7 22 [
          onLine "field_declaration_list" 13 22 [
            onLine "field_declaration" 14 21 [
              (onLine "field_identifier" 14 15 []).inRole "name",
              (onLine "slice_type" 16 21 []).inRole "type"]]]).inRole "type"]],
    onLine "method_declaration" 23 55 [
      (onLine "parameter_list" 28 34 [
        onLine "parameter_declaration" 29 33 [
          (onLine "identifier" 29 30 []).inRole "name",
          (onLine "pointer_type" 31 33 [onLine "type_identifier" 32 33 []]).inRole "type"]]).inRole "receiver",
      body.inRole "body"]]

/-- The statement that grows the field, with these arguments of the call. -/
def growthOf (arguments : List Node) : Node :=
  onLine "assignment_statement" 39 54 [
    (onLine "expression_list" 39 42 [
      onLine "selector_expression" 39 42 [
        (onLine "identifier" 39 40 []).inRole "operand",
        (onLine "field_identifier" 41 42 []).inRole "field"]]).inRole "left",
    (onLine "expression_list" 43 54 [
      onLine "call_expression" 43 54 [
        (onLine "identifier" 43 49 []).inRole "function",
        (onLine "argument_list" 49 54 arguments).inRole "arguments"]]).inRole "right"]

/-- The field is grown, and some code is nested in the call and in a statement after it. -/
def nestedBody (nested : List Node) : Node :=
  onLine "block" 38 55 [growthOf nested, onLine "if_statement" 54 54 nested]

/-- Two files that look the same are judged the same: what a check returns, logs and records does not depend
on what is nested in declarations, statements and values that are only seen from outside. -/
theorem checkSlices_of_same_view (policy : Policy) (operations : Operations) (f g : SourceFile)
    (path : f.path = g.path) (source : f.source = g.source) (same : view f.root = view g.root) :
    checkSlices policy operations f = checkSlices policy operations g := by
  rw [← checkSlices_view policy operations f, ← checkSlices_view policy operations g, path, source, same]

theorem checkSlices_of_same_view_nested :
    view (storeWith (nestedBody [])).root = view (storeWith (nestedBody [growthOf []])).root ∧
      checkSlices .collect {} (storeWith (nestedBody [])) =
        checkSlices .collect {} (storeWith (nestedBody [growthOf []])) :=
  ⟨rfl, checkSlices_of_same_view .collect {} _ _ rfl rfl rfl⟩

/-- A body is found by its role, so a comment or a call in the place of a body is looked into. The files of
each pair differ in nothing but what is inside a comment, or inside a part of a call that is not the callee. -/
theorem body_is_seen_by_role :
    (checkSlices .collect {} (storeWith (onLine "comment" 38 55 [growthOf []]))).outcome ≠
      (checkSlices .collect {} (storeWith (onLine "comment" 38 55 []))).outcome ∧
    (checkSlices .collect {} (storeWith (onLine "call_expression" 38 55 [growthOf []]))).outcome ≠
      (checkSlices .collect {} (storeWith (onLine "call_expression" 38 55 [(growthOf []).bare]))).outcome := by
  have inComment : (checkSlices .collect {} (storeWith (onLine "comment" 38 55 [growthOf []]))).outcome =
      .ok [mixedFinding] := rfl
  have inCall : (checkSlices .collect {} (storeWith (onLine "call_expression" 38 55 [growthOf []]))).outcome =
      .ok [mixedFinding] := rfl
  have emptied : (checkSlices .collect {} (storeWith (onLine "comment" 38 55 []))).outcome = .ok [] := rfl
  have bared : (checkSlices .collect {}
      (storeWith (onLine "call_expression" 38 55 [(growthOf []).bare]))).outcome = .ok [] := rfl
  rw [inComment, inCall, emptied, bared]
  constructor <;> intro same <;> cases same

end SliceGrowth.Analysis
