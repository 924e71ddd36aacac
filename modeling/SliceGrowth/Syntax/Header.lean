import SliceGrowth.Syntax.SourceFile

/-!
What the head of a file says: the build line among its leading comments, and the package clause right
after them. Anything later does not count, so a file that is broken further down still has a header.
-/
namespace SliceGrowth.Syntax

structure Header where
  packageName : Option String
  constraint : Option String

def buildDirective : String := "//go:build"

/-- The constraint that a comment carries. -/
def constraintOf? (comment : String) : Option String :=
  match Text.firstWord? comment with
  | some (word, rest) => if word == buildDirective then some rest else none
  | none => none

def packageNameOf? (source : ByteArray) (clause : Node) : Option String :=
  (clause.namedChildren.find? fun n => n.kind == "package_identifier" || n.kind == "identifier").map
    fun n => spanText source n.span

def header (source : ByteArray) (root : Node) : Header :=
  let comments := root.namedChildren.takeWhile (·.isComment)
  let next? := (root.namedChildren.dropWhile (·.isComment)).head?
  { packageName := (next?.filter (·.kind == "package_clause")).bind (packageNameOf? source)
    constraint := comments.findSome? fun n => constraintOf? (spanText source n.span) }

end SliceGrowth.Syntax
