import SliceGrowth.SlashPath

/-!
Places in source files.
-/
namespace SliceGrowth

/-- A place in a file; lines and columns count from one, and columns count bytes. -/
structure Position where
  path : SlashPath
  line : Nat
  column : Nat
deriving DecidableEq

def Position.text (p : Position) : String :=
  p.path.text ++ ":" ++ Nat.repr p.line ++ ":" ++ Nat.repr p.column

end SliceGrowth
