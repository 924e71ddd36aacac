import SliceGrowth.Analysis.Target
import SliceGrowth.Text.Ending

/-!
The calls that grow or shrink what they are given.
-/
namespace SliceGrowth.Analysis

/-- Names of calls; a name stands for every callee that begins with it. -/
structure Operations where
  shrink : List String :=
    ["slices.Clip", "slices.Compact", "slices.CompactFunc", "slices.Delete", "slices.DeleteFunc"]
  grow : List String :=
    ["append", "slices.AppendSeq", "slices.Grow", "slices.Insert", "slices.Repeat"]

/-- A callee that both lists name shrinks. -/
def Operations.classify (operations : Operations) (callee : String) : UpdateKind :=
  if operations.shrink.any (Text.beginsWith · callee) then .shrink
  else if operations.grow.any (Text.beginsWith · callee) then .grow
  else .unknown

end SliceGrowth.Analysis
