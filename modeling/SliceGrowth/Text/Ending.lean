/-!
Beginnings and endings of texts.
-/
namespace SliceGrowth.Text

def beginsWith (beginning s : String) : Bool := beginning.toList.isPrefixOf s.toList

def endsWith (ending s : String) : Bool := ending.toList.isSuffixOf s.toList

/-- The text without `ending`, or the text itself if it ends otherwise. -/
def dropEnding (ending s : String) : String :=
  if endsWith ending s then String.ofList (s.toList.take (s.toList.length - ending.toList.length)) else s

end SliceGrowth.Text
