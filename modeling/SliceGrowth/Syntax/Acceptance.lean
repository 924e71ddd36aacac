import SliceGrowth.Run
import SliceGrowth.Syntax.SourceFile

/-!
A tree is accepted as the tree of a file when nothing in it is wrong.
-/
namespace SliceGrowth.Syntax

def Node.errorDetail (n : Node) : String := if n.missing then "missing " ++ n.kind else "syntax error"

/-- The file with its tree, or the failure at the first wrong node. -/
def SourceFile.accept (path : SlashPath) (source : ByteArray) (root : Node) : Run SourceFile :=
  match root.firstError? with
  | some n => Run.fail (.parse (n.span.position path) n.errorDetail)
  | none => return { path := path, source := source, root := root }

end SliceGrowth.Syntax
