import SliceGrowth.Analysis.Operations
import SliceGrowth.Run
import SliceGrowth.Syntax.SourceFile

/-!
The updates that a method makes to the fields of its receiver. Only the statements of the body itself
count. The type of the receiver matters only once a field is assigned, so a method that assigns none is
accepted whatever its receiver is.
-/
namespace SliceGrowth.Analysis

open Syntax

/-- The type node behind a pointer and type arguments. -/
def receiverCore? (type : Node) : Option Node := do
  let pointee ← if type.kind == "pointer_type" then type.contents.head? else some type
  if pointee.kind == "generic_type" then pointee.child? "type" else some pointee

/-- The name of a receiver's type: a name, a pointer to it, or either with type arguments. -/
def receiverType (f : SourceFile) (type : Node) : Except Unsupported String :=
  match (receiverCore? type).filter (·.kind == "type_identifier") with
  | some name => .ok (f.text name)
  | none => .error {
      kind := .receiverShape
      position := f.position type
      detail := f.compactText type }

structure Receiver where
  name : Option String
  type : Node

def breakAt (f : SourceFile) (assumption : String) (n : Node) : Run Receiver :=
  Run.fail (.defect (.broken assumption
    [("path", .text f.path.text), ("line", .number (n.span.row + 1))]))

/-- The first parameter of a method's receiver list. -/
def receiver (f : SourceFile) (method : Node) : Run Receiver :=
  match ((method.child? "receiver").map (·.ofKind "parameter_declaration")).getD [] with
  | [] => breakAt f "method declaration without receiver" method
  | parameter :: _ =>
    match parameter.child? "type" with
    | none => breakAt f "receiver without type" parameter
    | some type => return { name := (parameter.child? "name").map f.text, type := type }

/-- An assignment to a field of the receiver. -/
structure Assignment where
  statement : Node
  field : String
  value : Node

/-- The assignment that a statement makes to a field of the receiver, with one side to each side. -/
def assignment? (f : SourceFile) (receiverName : Option String) (statement : Node) :
    Option Assignment := do
  let name ← receiverName
  guard (statement.kind == "assignment_statement")
  let left ← statement.child? "left"
  let right ← statement.child? "right"
  match left.namedChildren, right.namedChildren with
  | [selector], [value] =>
    guard (selector.kind == "selector_expression")
    let operand ← selector.child? "operand"
    let field ← selector.child? "field"
    guard (operand.kind == "identifier" && f.text operand == name)
    return { statement := statement, field := f.text field, value := value }
  | _, _ => none

/-- What an assigned value does: a call is judged by its callee, and nothing else is. -/
def classifyValue (f : SourceFile) (operations : Operations) (value : Node) : UpdateKind :=
  if value.kind == "call_expression" then
    match value.child? "function" with
    | some function => operations.classify (f.compactText function)
    | none => .unknown
  else .unknown

def Assignment.update (a : Assignment) (f : SourceFile) (operations : Operations)
    (identity : String) : Update :=
  { target := { identity := identity, field := some a.field }
    kind := classifyValue f operations a.value
    position := f.position ((a.statement.child? "operator").getD a.statement) }

def logUpdate (u : Update) : Run Unit :=
  Run.emit (.debug .updates (u.position.text ++ ": " ++ u.kind.text ++ " update of " ++ u.target.text))

/-- The assignments of a body to the fields of its receiver. -/
def assignments (f : SourceFile) (receiverName : Option String) (body : Node) : List Assignment :=
  body.statements.filterMap (assignment? f receiverName)

def bodyUpdates (policy : Policy) (operations : Operations) (f : SourceFile) (receiver : Receiver)
    (body : Node) : Run (List Update) :=
  match assignments f receiver.name body with
  | [] => return []
  | found =>
    match receiverType f receiver.type with
    | .error construct => do
      Run.report policy construct
      return []
    | .ok identity => do
      let updates := found.map (·.update f operations identity)
      Run.forEach logUpdate updates
      return updates

/-- The updates of one method; anything else makes none. -/
def updates (policy : Policy) (operations : Operations) (f : SourceFile) (method : Node) :
    Run (List Update) :=
  if method.kind == "method_declaration" then
    match method.child? "body" with
    | none => return []
    | some body => do
      let receiver ← receiver f method
      bodyUpdates policy operations f receiver body
  else return []

end SliceGrowth.Analysis
