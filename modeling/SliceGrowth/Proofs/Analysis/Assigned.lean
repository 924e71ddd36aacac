import Mathlib.Data.List.Basic
import Mathlib.Data.Option.Basic
import SliceGrowth.Analysis.Updates
import SliceGrowth.Proofs.Run.Laws

/-!
The fields that a method assigns. A statement of the body counts if it assigns one value to one field of
the receiver; the updates of a method are its assignments, provided that the type of its receiver is
written as a name, a pointer to it, or either with type arguments.
-/
namespace SliceGrowth.Analysis

open Syntax

/-- `T` or `T[..]`, where `name` is the node of `T`. -/
def AppliesName (type name : Node) : Prop :=
  name.kind = "type_identifier" ∧ (type = name ∨ type.kind = "generic_type" ∧ name ∈ type.child? "type")

/-- `T`, `*T`, `T[..]` or `*T[..]`, where `name` is the node of `T`. -/
def NamesReceiver (type name : Node) : Prop :=
  AppliesName type name ∨
    type.kind = "pointer_type" ∧ ∃ pointee ∈ type.contents.head?, AppliesName pointee name

/-- `receiver.field = value`, with one expression on each side. -/
structure AssignsTo (f : SourceFile) (receiver : String) (statement : Node) (field : String)
    (value : Node) : Prop where
  kind : statement.kind = "assignment_statement"
  left : ∃ left ∈ statement.child? "left", ∃ selector, left.namedChildren = [selector] ∧
    selector.kind = "selector_expression" ∧
    (∃ operand ∈ selector.child? "operand", operand.kind = "identifier" ∧ f.text operand = receiver) ∧
    ∃ name ∈ selector.child? "field", f.text name = field
  right : ∃ right ∈ statement.child? "right", right.namedChildren = [value]

/-- A statement of the block itself, or of a list of statements right below it. -/
def HasStatement (block statement : Node) : Prop :=
  statement ∈ block.namedChildren ∨ ∃ list ∈ block.ofKind "statement_list", statement ∈ list.namedChildren

/-- The first parameter of a method's receiver list. -/
def receiverParameter? (method : Node) : Option Node :=
  (method.child? "receiver").bind fun list => (list.ofKind "parameter_declaration").head?

/-- The body of the method assigns `value` to a field of the receiver, whose type is written `type`. -/
def AssignsField (f : SourceFile) (method type : Node) (field : String) (value : Node) : Prop :=
  ∃ body ∈ method.child? "body", ∃ parameter ∈ receiverParameter? method,
    type ∈ parameter.child? "type" ∧ ∃ name ∈ parameter.child? "name", ∃ statement,
      HasStatement body statement ∧ AssignsTo f (f.text name) statement field value

theorem appliesName_iff {type name : Node} (kind : name.kind = "type_identifier") :
    (if type.kind == "generic_type" then type.child? "type" else some type) = some name ↔
      AppliesName type name := by
  unfold AppliesName
  by_cases generic : type.kind = "generic_type"
  · have other : type ≠ name := by
      rintro rfl
      rw [kind] at generic
      revert generic
      decide
    simp [generic, kind, other]
  · simp [generic, kind]

theorem receiverCore?_eq_some_iff {type name : Node} (kind : name.kind = "type_identifier") :
    receiverCore? type = some name ↔ NamesReceiver type name := by
  unfold receiverCore? NamesReceiver
  by_cases pointer : type.kind = "pointer_type"
  · have notApplied : ¬ AppliesName type name := by
      rintro ⟨-, rfl | ⟨generic, -⟩⟩
      · rw [kind] at pointer
        revert pointer
        decide
      · rw [generic] at pointer
        revert pointer
        decide
    simp [pointer, notApplied, ← appliesName_iff kind, Option.bind_eq_some_iff]
  · simp [pointer, ← appliesName_iff kind]

theorem assignment?_eq_some_iff {f : SourceFile} {receiver : Option String} {statement : Node}
    {a : Assignment} : assignment? f receiver statement = some a ↔
      a.statement = statement ∧ ∃ name ∈ receiver, AssignsTo f name statement a.field a.value := by
  constructor
  · intro found
    simp only [assignment?, Option.bind_eq_bind, Option.bind_eq_some_iff, Option.guard_eq_some',
      beq_iff_eq] at found
    obtain ⟨name, known, -, kind, left, hleft, right, hright, found⟩ := found
    split at found
    · rename_i selector value hselector hvalue
      simp only [Option.bind_eq_some_iff, Option.guard_eq_some', beq_iff_eq, Bool.and_eq_true] at found
      obtain ⟨-, selectorKind, operand, hoperand, field, hfield, -, ⟨operandKind, same⟩, result⟩ := found
      cases result
      exact ⟨rfl, name, known, kind, ⟨left, hleft, selector, hselector, selectorKind,
        ⟨operand, hoperand, operandKind, same⟩, field, hfield, rfl⟩, right, hright, hvalue⟩
    · cases found
  · rintro ⟨same, name, known, assigned⟩
    obtain ⟨left, hleft, selector, hselector, selectorKind, ⟨operand, hoperand, operandKind, text⟩,
      field, hfield, fieldText⟩ := assigned.left
    obtain ⟨right, hright, hvalue⟩ := assigned.right
    rw [Option.mem_def] at known hleft hright hoperand hfield
    obtain ⟨statement', field', value⟩ := a
    dsimp only at same fieldText hvalue
    subst same fieldText
    simp [assignment?, known, assigned.kind, hleft, hright, hselector, hvalue, selectorKind, hoperand,
      hfield, operandKind, text]

theorem mem_statements_iff {block statement : Node} (kind : statement.kind = "assignment_statement") :
    statement ∈ block.statements ↔ HasStatement block statement := by
  have notComment : statement.isComment = false := by simp [Node.isComment, kind]
  have mem_contents : ∀ n : Node, statement ∈ n.contents ↔ statement ∈ n.namedChildren := by
    simp [Node.contents, notComment]
  unfold Node.statements HasStatement
  rw [List.mem_flatMap]
  constructor
  · rintro ⟨child, member, found⟩
    have named : child ∈ block.namedChildren := (List.mem_filter.mp member).1
    split at found
    · rename_i list
      exact .inr ⟨child, List.mem_filter.mpr ⟨named, list⟩, (mem_contents child).mp found⟩
    · rw [List.mem_singleton.mp found]
      exact .inl named
  · rintro (named | ⟨list, member, named⟩)
    · exact ⟨statement, (mem_contents block).mpr named, by simp [kind]⟩
    · obtain ⟨listNamed, listKind⟩ := List.mem_filter.mp member
      have content : list ∈ block.contents := by
        refine List.mem_filter.mpr ⟨listNamed, ?_⟩
        simp [Node.isComment, eq_of_beq listKind]
      refine ⟨list, content, ?_⟩
      rw [if_pos listKind]
      exact (mem_contents list).mpr named

/-- What is reported of a receiver whose type is written in another way. -/
def receiverReport (f : SourceFile) (type : Node) : Unsupported where
  kind := .receiverShape
  position := f.position type
  detail := f.compactText type

theorem NamesReceiver.kind {type name : Node} (named : NamesReceiver type name) :
    name.kind = "type_identifier" := by
  rcases named with applied | ⟨-, pointee, -, applied⟩
  · exact applied.1
  · exact applied.1

theorem receiverType_of_named (f : SourceFile) {type name : Node} (named : NamesReceiver type name) :
    receiverType f type = .ok (f.text name) := by
  have found : (receiverCore? type).filter (·.kind == "type_identifier") = some name := by
    rw [(receiverCore?_eq_some_iff named.kind).mpr named]
    exact Option.filter_some_pos (by simp [named.kind])
  simp only [receiverType, found]

theorem receiverType_of_unnamed (f : SourceFile) {type : Node}
    (unnamed : ∀ name, ¬ NamesReceiver type name) :
    receiverType f type = .error (receiverReport f type) := by
  unfold receiverType
  cases found : (receiverCore? type).filter (·.kind == "type_identifier") with
  | none => rfl
  | some name =>
    obtain ⟨core, kind⟩ := Option.filter_eq_some_iff.mp found
    exact absurd ((receiverCore?_eq_some_iff (eq_of_beq kind)).mp core) (unnamed name)

/-- The parameters in a method's receiver list. -/
def receiverParameters (method : Node) : List Node :=
  ((method.child? "receiver").map (·.ofKind "parameter_declaration")).getD []

theorem kind_of_mem_receiverParameters {method parameter : Node}
    (member : parameter ∈ receiverParameters method) : parameter.kind = "parameter_declaration" := by
  unfold receiverParameters at member
  cases found : method.child? "receiver" with
  | none => simp [found] at member
  | some list =>
    rw [found] at member
    exact eq_of_beq (List.mem_filter.mp member).2

theorem receiverParameter?_eq_head? (method : Node) :
    receiverParameter? method = (receiverParameters method).head? := by
  unfold receiverParameter? receiverParameters
  cases method.child? "receiver" <;> rfl

theorem receiver_eq_ok_iff {f : SourceFile} {method : Node} {r : Receiver} :
    (receiver f method).outcome = .ok r ↔ ∃ parameter ∈ receiverParameter? method,
      r.type ∈ parameter.child? "type" ∧ r.name = (parameter.child? "name").map f.text := by
  rw [receiverParameter?_eq_head?]
  unfold receiver
  rw [← receiverParameters]
  cases receiverParameters method with
  | nil => simp [breakAt, Run.fail]
  | cons parameter rest =>
    simp only [List.head?_cons, Option.mem_def, Option.some.injEq, exists_eq_left']
    cases parameter.child? "type" with
    | none => simp [breakAt, Run.fail]
    | some type =>
      obtain ⟨name, type'⟩ := r
      simp [pure, eq_comm, and_comm]

theorem receiver_emits (kind : Event → Prop) (f : SourceFile) (method : Node) :
    (receiver f method).Emits kind := by
  unfold receiver
  split
  · exact .fail _
  · split
    · exact .fail _
    · exact .pure _

theorem mem_assignments_iff {f : SourceFile} {receiver : Option String} {body : Node} {a : Assignment} :
    a ∈ assignments f receiver body ↔
      HasStatement body a.statement ∧ ∃ name ∈ receiver, AssignsTo f name a.statement a.field a.value := by
  simp only [assignments, List.mem_filterMap, assignment?_eq_some_iff]
  constructor
  · rintro ⟨statement, member, same, name, known, assigned⟩
    subst same
    exact ⟨(mem_statements_iff assigned.kind).mp member, name, known, assigned⟩
  · rintro ⟨has, name, known, assigned⟩
    exact ⟨a.statement, (mem_statements_iff assigned.kind).mpr has, rfl, name, known, assigned⟩

theorem assignsField_iff {f : SourceFile} {method body type : Node} {r : Receiver} {field : String}
    {value : Node} (hbody : method.child? "body" = some body)
    (returned : (receiver f method).outcome = .ok r) :
    AssignsField f method type field value ↔
      type = r.type ∧ ∃ a ∈ assignments f r.name body, a.field = field ∧ a.value = value := by
  obtain ⟨parameter, first, hasType, hasName⟩ := receiver_eq_ok_iff.mp returned
  rw [Option.mem_def] at first hasType
  simp only [AssignsField, hbody, first, hasType, hasName, mem_assignments_iff, Option.mem_def,
    Option.some.injEq, exists_eq_left', Option.map_eq_some_iff]
  constructor
  · rintro ⟨rfl, name, known, statement, has, assigned⟩
    exact ⟨rfl, ⟨statement, field, value⟩, ⟨has, _, ⟨name, known, rfl⟩, assigned⟩, rfl, rfl⟩
  · rintro ⟨rfl, a, ⟨has, _, ⟨name, known, rfl⟩, assigned⟩, rfl, rfl⟩
    exact ⟨rfl, name, known, a.statement, has, assigned⟩

theorem logged_updates_return (made : List Update) :
    (do Run.forEach logUpdate made; return made : Run (List Update)).Returns made [] :=
  (Run.Returns.forEach fun _ _ => ⟨rfl, rfl⟩).bind (Run.Returns.pure made)

/-- The updates of a body, if the type of the receiver has a name. -/
def bodyValue (operations : Operations) (f : SourceFile) (receiver : Receiver) (body : Node) :
    List Update :=
  match receiverType f receiver.type with
  | .ok identity => (assignments f receiver.name body).map (·.update f operations identity)
  | .error _ => []

/-- What is recorded of a body that assigns fields of a receiver whose type has no name. -/
def bodyRecorded (f : SourceFile) (receiver : Receiver) (body : Node) : List Unsupported :=
  match assignments f receiver.name body, receiverType f receiver.type with
  | _ :: _, .error construct => [construct]
  | _, _ => []

theorem bodyUpdates_returns (operations : Operations) (f : SourceFile) (receiver : Receiver)
    (body : Node) : (bodyUpdates .collect operations f receiver body).Returns
      (bodyValue operations f receiver body) (bodyRecorded f receiver body) := by
  unfold bodyUpdates bodyValue bodyRecorded
  cases assignments f receiver.name body with
  | nil => cases receiverType f receiver.type <;> exact Run.Returns.pure []
  | cons first others =>
    cases receiverType f receiver.type with
    | error construct => exact (Run.Returns.report_collect construct).bind (Run.Returns.pure [])
    | ok identity => exact logged_updates_return _

def methodValue (operations : Operations) (f : SourceFile) (method : Node) : List Update :=
  match method.child? "body", (receiver f method).outcome with
  | some body, .ok receiver => bodyValue operations f receiver body
  | _, _ => []

def methodRecorded (f : SourceFile) (method : Node) : List Unsupported :=
  match method.child? "body", (receiver f method).outcome with
  | some body, .ok receiver => bodyRecorded f receiver body
  | _, _ => []

theorem updates_yields (operations : Operations) (f : SourceFile) {method : Node}
    (kind : method.kind = "method_declaration") :
    (updates .collect operations f method).Yields (methodValue operations f method)
      (methodRecorded f method) := by
  simp only [updates, kind, methodValue, methodRecorded, beq_self_eq_true, ↓reduceIte]
  cases method.child? "body" with
  | none => exact (Run.Returns.pure []).yields
  | some body =>
    cases found : (receiver f method).outcome with
    | error failure =>
      intro made returned
      obtain ⟨r, found', -⟩ := Run.bind_eq_ok returned
      rw [found] at found'
      cases found'
    | ok r =>
      have first : (receiver f method).Returns r [] :=
        ⟨found, Run.constructs_eq_nil_iff.mpr (receiver_emits _ f method)⟩
      exact (first.bind (bodyUpdates_returns operations f r body)).yields

theorem AssignsField.receiver_returned {f : SourceFile} {method type : Node} {field : String}
    {value : Node} (assigned : AssignsField f method type field value) :
    ∃ body ∈ method.child? "body", ∃ r : Receiver, (receiver f method).outcome = .ok r ∧ r.type = type := by
  obtain ⟨body, hbody, parameter, first, hasType, -⟩ := assigned
  let r : Receiver := ⟨(parameter.child? "name").map f.text, type⟩
  exact ⟨body, hbody, r, receiver_eq_ok_iff.mpr ⟨parameter, first, hasType, rfl⟩, rfl⟩

/-- The updates of a method are its assignments, under the name of the receiver's type. -/
theorem exists_update_iff {operations : Operations} {f : SourceFile} {method : Node}
    {kind : UpdateKind} {identity field : String} :
    (∃ u ∈ methodValue operations f method,
      u.kind = kind ∧ u.target.identity = identity ∧ u.target.field = some field) ↔
    ∃ type name value, AssignsField f method type field value ∧ NamesReceiver type name ∧
      f.text name = identity ∧ classifyValue f operations value = kind := by
  constructor
  · rintro ⟨u, member, rfl, rfl, hasField⟩
    unfold methodValue at member
    split at member
    · rename_i body r hbody returned
      by_cases named : ∃ name, NamesReceiver r.type name
      · obtain ⟨name, named⟩ := named
        simp only [bodyValue, receiverType_of_named f named, List.mem_map] at member
        obtain ⟨a, member, rfl⟩ := member
        have same : a.field = field := Option.some.inj hasField
        have assigned : AssignsField f method r.type field a.value :=
          (assignsField_iff hbody returned).mpr ⟨rfl, a, member, same, rfl⟩
        exact ⟨r.type, name, a.value, assigned, named, rfl, rfl⟩
      · simp [bodyValue, receiverType_of_unnamed f (not_exists.mp named)] at member
    · simp at member
  · rintro ⟨type, name, value, assigned, named, rfl, rfl⟩
    obtain ⟨body, hbody, r, returned, rfl⟩ := assigned.receiver_returned
    rw [Option.mem_def] at hbody
    obtain ⟨-, a, member, rfl, rfl⟩ := (assignsField_iff hbody returned).mp assigned
    refine ⟨a.update f operations (f.text name), ?_, rfl, rfl, rfl⟩
    simp only [methodValue, hbody, returned, bodyValue, receiverType_of_named f named]
    exact List.mem_map_of_mem member

/-- The method assigns a field of a receiver whose type is written in a way that gives it no name. -/
def HasUnnamedReceiver (f : SourceFile) (method : Node) : Prop :=
  ∃ type field value, AssignsField f method type field value ∧ ∀ name, ¬ NamesReceiver type name

theorem methodRecorded_of_unnamed {f : SourceFile} {method type value : Node} {field : String}
    (assigned : AssignsField f method type field value) (unnamed : ∀ name, ¬ NamesReceiver type name) :
    methodRecorded f method = [receiverReport f type] := by
  obtain ⟨body, hbody, r, returned, rfl⟩ := assigned.receiver_returned
  rw [Option.mem_def] at hbody
  obtain ⟨-, a, member, -⟩ := (assignsField_iff hbody returned).mp assigned
  obtain ⟨first, others, found⟩ := List.exists_cons_of_ne_nil (List.ne_nil_of_mem member)
  simp only [methodRecorded, hbody, returned, bodyRecorded, found, receiverType_of_unnamed f unnamed]

theorem methodRecorded_of_named {f : SourceFile} {method : Node}
    (named : ¬ HasUnnamedReceiver f method) : methodRecorded f method = [] := by
  unfold methodRecorded
  split
  · rename_i body r hbody returned
    unfold bodyRecorded
    split
    · rename_i first others construct found failed
      refine absurd ⟨r.type, first.field, first.value, ?_, fun name has => ?_⟩ named
      · exact (assignsField_iff hbody returned).mpr ⟨rfl, first, by simp [found], rfl, rfl⟩
      · rw [receiverType_of_named f has] at failed
        cases failed
    · rfl
  · rfl

theorem methodValue_of_unnamed (operations : Operations) {f : SourceFile} {method : Node}
    (unnamed : HasUnnamedReceiver f method) : methodValue operations f method = [] := by
  obtain ⟨type, field, value, assigned, unnamed⟩ := unnamed
  obtain ⟨body, hbody, r, returned, rfl⟩ := assigned.receiver_returned
  rw [Option.mem_def] at hbody
  simp only [methodValue, hbody, returned, bodyValue, receiverType_of_unnamed f unnamed]

instance (f : SourceFile) : DecidablePred (HasUnnamedReceiver f) := fun method =>
  decidable_of_iff (methodRecorded f method ≠ []) (by
    constructor
    · intro recorded
      by_contra named
      exact recorded (methodRecorded_of_named named)
    · rintro ⟨type, field, value, assigned, unnamed⟩
      simp [methodRecorded_of_unnamed assigned unnamed])

section Root

-- What a method does is read off the source and the path of its file, and not off the rest of the tree.
variable (f : SourceFile) (root : Node)

theorem receiver_withRoot (method : Node) : receiver { f with root := root } method = receiver f method :=
  rfl

theorem assignments_withRoot (name : Option String) (body : Node) :
    assignments { f with root := root } name body = assignments f name body := rfl

theorem receiverType_withRoot (type : Node) :
    receiverType { f with root := root } type = receiverType f type := rfl

theorem update_withRoot (a : Assignment) (operations : Operations) (identity : String) :
    a.update { f with root := root } operations identity = a.update f operations identity := rfl

theorem updates_withRoot (policy : Policy) (operations : Operations) (method : Node) :
    updates policy operations { f with root := root } method = updates policy operations f method := by
  simp only [updates, bodyUpdates, receiver_withRoot, assignments_withRoot, receiverType_withRoot,
    update_withRoot]

end Root

end SliceGrowth.Analysis
