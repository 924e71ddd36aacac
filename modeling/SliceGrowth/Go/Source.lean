import SliceGrowth.Go.Grammar

/-!
Go source as a syntax tree. There is always a tree: what cannot be read becomes one node of kind `ERROR`
after the items before it, so the head of a broken file can still be read.
-/
namespace SliceGrowth.Go

open Syntax

def languageName : String := "go"

def fileEndings : List String := [".go"]

/-- Whether a node holds a range of bytes. -/
def holds (n : Node) (span : Span) : Bool := n.span.start ≤ span.start && span.stop ≤ n.span.stop

mutual

/-- The node with a comment at its place below it. -/
def placeIn (comment : Node) : Node → Node
  | ⟨kind, span, named, field, missing, hasError, children⟩ =>
    ⟨kind, span, named, field, missing, hasError, placeAmong comment children⟩

/-- The nodes with a comment in the one that holds it, or else between them. -/
def placeAmong (comment : Node) : List Node → List Node
  | [] => [comment]
  | n :: rest =>
    if holds n comment.span then placeIn comment n :: rest
    else if comment.span.start < n.span.start then comment :: n :: rest
    else n :: placeAmong comment rest

end

/-- The items from a token on, as far as they can be read, and the token where reading stopped. -/
def readItems (tokens : Array Token) : (steps : Nat) → (pos : Nat) → StateM Memory (List Node × Nat)
  | 0, pos => return ([], pos)
  | n + 1, pos => do
    if pos ≥ tokens.size then return ([], pos)
    match ← read grammar tokens (400 * (tokens.size + 1)) (.rule .item) .body pos with
    | none => return ([], pos)
    | some (nodes, next) =>
      match ← read grammar tokens 1 .ending .body next with
      | none => return (nodes, next)
      | some (_, next) =>
        let (more, last) ← readItems tokens n next
        return (nodes ++ more, last)

/-- What could not be read, from where reading stopped to the end of the source. -/
def unread (tokens : Array Token) (pos : Nat) (size : Nat) : List Node :=
  match tokens[pos]? with
  | some t => [{ kind := "ERROR", span := { t.span with stop := size }, hasError := true }]
  | none => []

/-- The syntax tree of a source. -/
def parse (source : ByteArray) : Node :=
  let all := tokens source
  let significant := (all.filter (·.kind != .comment)).toArray
  let comments := (all.filter (·.kind == .comment)).map (tokenNode "comment" true)
  let ((items, stop), _) := (readItems significant (significant.size + 1) 0).run ∅
  let errors := unread significant stop source.size
  { kind := "source_file"
    span := { start := 0, stop := source.size, row := 0, column := 0 }
    hasError := !errors.isEmpty
    children := comments.foldl (fun nodes comment => placeAmong comment nodes) (items ++ errors) }

end SliceGrowth.Go
