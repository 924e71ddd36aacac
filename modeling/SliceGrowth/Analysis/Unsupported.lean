import SliceGrowth.Position

/-!
Constructs that the analysis recognises and cannot judge.
-/
namespace SliceGrowth.Analysis

inductive UnsupportedKind where
  | nonStructType
  | mapField
  | packageVariable
  | unknownDeclaration
  | receiverShape
deriving DecidableEq

def UnsupportedKind.text : UnsupportedKind → String
  | nonStructType => "non-struct types"
  | mapField => "maps"
  | packageVariable => "growable vars"
  | unknownDeclaration => "unknown declarations"
  | receiverShape => "receiver types of this shape"

structure Unsupported where
  kind : UnsupportedKind
  position : Position
  detail : String

def Unsupported.message (u : Unsupported) : String :=
  let head := u.position.text ++ ": " ++ u.kind.text ++ " not yet supported"
  if u.detail.isEmpty then head else head ++ " (" ++ u.detail ++ ")"

/-- What to do at a construct that cannot be judged: stop there, or record it and go on. -/
inductive Policy where
  | abort
  | collect
deriving DecidableEq

end SliceGrowth.Analysis
