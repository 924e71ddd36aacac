import SliceGrowth.Position
import SliceGrowth.Syntax.Node
import SliceGrowth.Text.Blank
import SliceGrowth.Text.Utf8

/-!
A source file with its syntax tree, and what its nodes say.
-/
namespace SliceGrowth.Syntax

structure SourceFile where
  path : SlashPath
  source : ByteArray
  root : Node

/-- The text of a span; what lies beyond the source is left out. -/
def spanText (source : ByteArray) (span : Span) : String :=
  Text.decodeLossy (source.extract span.start span.stop)

def Span.position (span : Span) (path : SlashPath) : Position :=
  { path := path, line := span.row + 1, column := span.column + 1 }

namespace SourceFile

def text (f : SourceFile) (n : Node) : String := spanText f.source n.span

/-- The text without blanks, so that layout does not count. -/
def compactText (f : SourceFile) (n : Node) : String := Text.compact (f.text n)

def position (f : SourceFile) (n : Node) : Position := n.span.position f.path

end SourceFile

end SliceGrowth.Syntax
