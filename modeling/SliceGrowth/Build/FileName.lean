import SliceGrowth.Build.Context
import SliceGrowth.Text.Blank

/-!
Constraints that the name of a source file carries: a system, an architecture, or both at its end.
-/
namespace SliceGrowth.Build

/-- The parts of a file's name after its first underscore, without the ending and a test's mark. -/
def nameTags (name : String) : List String :=
  (Text.splitAt '_' (Text.dropEnding "_test" (Text.dropEnding ".go" name))).tail

def Context.matchesTags (context : Context) (reversedTags : List String) : Bool :=
  match reversedTags with
  | [] => true
  | last :: before =>
    let system := before.head?.getD ""
    if knownSystems.contains system && knownArchitectures.contains last then
      context.satisfies system && context.architecture == last
    else if knownSystems.contains last then context.satisfies last
    else if knownArchitectures.contains last then context.architecture == last
    else true

/-- Whether a file of this name belongs to the build. -/
def Context.matchesFileName (context : Context) (name : String) : Bool :=
  context.matchesTags (nameTags name).reverse

end SliceGrowth.Build
