import SliceGrowth.Text.Blank
import SliceGrowth.Text.Lowercase

/-!
The checks by name.
-/
namespace SliceGrowth.Analysis

inductive CheckId where
  | goroutines
  | slices
deriving DecidableEq

namespace CheckId

/-- All checks, in the order of their names. -/
def all : List CheckId := [goroutines, slices]

def text : CheckId → String
  | goroutines => "goroutines"
  | slices => "slices"

/-- Whether there is anything to run for the check. -/
def isImplemented : CheckId → Bool
  | goroutines => false
  | slices => true

def implemented : List CheckId := all.filter isImplemented

def ofText? (text : String) : Option CheckId := all.find? (·.text == text)

/-- The check that a user means; case and surrounding blanks do not count. -/
def ofName? (name : String) : Option CheckId := ofText? (Text.lower (Text.trim name))

end CheckId

end SliceGrowth.Analysis
