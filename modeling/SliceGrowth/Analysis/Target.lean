import SliceGrowth.Position

/-!
What the analysis speaks of: fields that can grow, updates of them, and findings.
-/
namespace SliceGrowth.Analysis

/-- A field of a type, or a name alone. The position is where the field is declared, and is no part of
what the target is. -/
structure Target where
  identity : String
  field : Option String := none
  position : Option Position := none

namespace Target

/-- Both targets name the same field of the same type. -/
def sameAs (a b : Target) : Bool := a.identity == b.identity && a.field == b.field

def text (t : Target) : String :=
  match t.field with
  | none => t.identity
  | some field => t.identity ++ "." ++ field

end Target

inductive UpdateKind where
  | unknown
  | grow
  | shrink
deriving DecidableEq

def UpdateKind.text : UpdateKind → String
  | unknown => "unknown"
  | grow => "grow"
  | shrink => "shrink"

structure Update where
  target : Target
  kind : UpdateKind
  position : Position

/-- A target that is grown and never shrunk, at its declaration. -/
structure Finding where
  target : Target
  position : Position

def Finding.text (f : Finding) : String :=
  f.position.text ++ ": slice field " ++ f.target.text ++ " is grown but never shrunk"

end SliceGrowth.Analysis
