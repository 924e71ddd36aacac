/-!
Syntax trees. A node has a kind, a span of the source, its place in the parent and its children; what
it says is looked up by kind and by field.
-/
namespace SliceGrowth.Syntax

/-- A range of bytes, and the row and column of its start, all counted from zero. -/
structure Span where
  start : Nat
  stop : Nat
  row : Nat
  column : Nat

structure Node where
  kind : String
  span : Span
  /-- Anonymous nodes are the words and signs that the grammar itself spells out. -/
  named : Bool := true
  /-- The role of the node in its parent. -/
  field : Option String := none
  /-- The node was expected and is not in the source. -/
  missing : Bool := false
  /-- The node or a node below it is an error. -/
  hasError : Bool := false
  children : List Node := []

namespace Node

def inRole (n : Node) (field : String) : Node := { n with field := some field }

def namedChildren (n : Node) : List Node := n.children.filter (·.named)

/-- The first child in a role. -/
def child? (n : Node) (field : String) : Option Node := n.children.find? (·.field == some field)

/-- All children in a role. -/
def childrenIn (n : Node) (field : String) : List Node := n.children.filter (·.field == some field)

/-- The named children of a kind. -/
def ofKind (n : Node) (kind : String) : List Node := n.namedChildren.filter (·.kind == kind)

def isComment (n : Node) : Bool := n.kind == "comment"

/-- The named children that are not comments. -/
def contents (n : Node) : List Node := n.namedChildren.filter (!·.isComment)

/-- The statements of a block, wherever its statement lists put them. Nothing below them counts. -/
def statements (block : Node) : List Node :=
  block.contents.flatMap fun n => if n.kind == "statement_list" then n.contents else [n]

/-- The node itself is wrong, whatever stands below it. -/
def isFault (n : Node) : Bool := n.kind == "ERROR" || n.missing

mutual

/-- The first wrong node, looked for only where the flags say that there is one. -/
def firstError? : Node → Option Node
  | ⟨kind, span, named, field, missing, hasError, children⟩ =>
    let n : Node := ⟨kind, span, named, field, missing, hasError, children⟩
    if n.isFault then some n
    else if !hasError then none
    else some ((firstErrorIn? children).getD n)

def firstErrorIn? : List Node → Option Node
  | [] => none
  | n :: rest => n.firstError?.or (firstErrorIn? rest)

end

end Node

end SliceGrowth.Syntax
