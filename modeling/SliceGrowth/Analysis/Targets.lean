import SliceGrowth.Analysis.Target
import SliceGrowth.Run
import SliceGrowth.Syntax.SourceFile
import SliceGrowth.Text.Lines

/-!
The fields of a file that can grow, in the order of their declarations. A declaration that cannot be
judged is reported as a whole and gives no targets.
-/
namespace SliceGrowth.Analysis

open Syntax

/-- Declarations that declare no field. -/
def fieldlessKinds : List String :=
  ["package_clause", "import_declaration", "const_declaration", "function_declaration",
    "method_declaration", "comment"]

def isSequence (kind : String) : Bool := kind == "slice_type" || kind == "array_type"

/-- The targets of one line of fields; a field without a type of its own gives none. -/
def fieldTargets (f : SourceFile) (identity : String) (declaration : Node) :
    Except Unsupported (List Target) :=
  match declaration.child? "type" with
  | none => .ok []
  | some type =>
    if type.kind == "map_type" then
      .error {
        kind := .mapField
        position := f.position declaration
        detail := identity ++ ": " ++ Text.spaced (f.text declaration) }
    else if isSequence type.kind then
      .ok ((declaration.childrenIn "name").map fun name =>
        { identity := identity, field := some (f.text name), position := some (f.position name) })
    else .ok []

/-- The lines of fields of a struct. -/
def fieldDeclarations (struct : Node) : List Node :=
  (struct.ofKind "field_declaration_list").flatMap (·.ofKind "field_declaration")

def specIdentity (f : SourceFile) (spec : Node) : String :=
  match spec.child? "name" with
  | some name => f.text name
  | none => "?"

/-- The struct that a type is declared to be. -/
def specStruct? (spec : Node) : Option Node :=
  if spec.kind == "type_spec" then (spec.child? "type").filter (·.kind == "struct_type") else none

/-- The targets of one declared type. -/
def specTargets (f : SourceFile) (spec : Node) : Except Unsupported (List Target) :=
  let identity := specIdentity f spec
  match specStruct? spec with
  | none => .error { kind := .nonStructType, position := f.position spec, detail := identity }
  | some struct => (·.flatten) <$> (fieldDeclarations struct).mapM (fieldTargets f identity)

def logTarget (target : Target) : Run Unit :=
  match target.position with
  | some position => Run.emit (.debug .targets (position.text ++ ": growable target " ++ target.text))
  | none => return ()

def reportedTargets (policy : Policy) (f : SourceFile) (spec : Node) : Run (List Target) :=
  match specTargets f spec with
  | .ok targets => do
    Run.forEach logTarget targets
    return targets
  | .error construct => do
    Run.report policy construct
    return []

/-- The targets of one declaration at the top of a file. -/
def declarationTargets (policy : Policy) (f : SourceFile) (declaration : Node) : Run (List Target) :=
  if fieldlessKinds.contains declaration.kind then return []
  else if declaration.kind == "type_declaration" then
    Run.gather (reportedTargets policy f) declaration.contents
  else if declaration.kind == "var_declaration" then
    match Text.firstLine? (f.text declaration) with
    | none => Run.fail (.defect .emptyDeclaration)
    | some line => do
      Run.report policy {
        kind := .packageVariable
        position := f.position declaration
        detail := Text.trim line }
      return []
  else do
    Run.report policy {
      kind := .unknownDeclaration
      position := f.position declaration
      detail := declaration.kind }
    return []

def targets (policy : Policy) (f : SourceFile) : Run (List Target) :=
  Run.gather (declarationTargets policy f) f.root.namedChildren

end SliceGrowth.Analysis
