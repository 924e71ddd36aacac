import SliceGrowth.Analysis.Targets
import SliceGrowth.Analysis.Updates

/-!
The check for slice fields that are grown and never shrunk within their file.
-/
namespace SliceGrowth.Analysis

open Syntax

def isUpdated (updates : List Update) (target : Target) (kind : UpdateKind) : Bool :=
  updates.any fun u => u.kind == kind && u.target.sameAs target

/-- A target that is grown at least once and never shrunk. -/
def onlyGrows (updates : List Update) (target : Target) : Bool :=
  isUpdated updates target .grow && !isUpdated updates target .shrink

def finding (target : Target) : Run Finding :=
  match target.position with
  | some position => return { target := target, position := position }
  | none => Run.fail (.defect (.broken "reported target has no declaration position"
      [("target", .text target.text)]))

/-- The targets that only grow, in their own order. -/
def findings (targets : List Target) (updates : List Update) : Run (List Finding) :=
  Run.traverse finding (targets.filter (onlyGrows updates))

def methods (f : SourceFile) : List Node := f.root.ofKind "method_declaration"

/-- The findings of one file. -/
def checkSlices (policy : Policy) (operations : Operations) (f : SourceFile) : Run (List Finding) := do
  let declared ← targets policy f
  let made ← Run.gather (updates policy operations f) (methods f)
  findings declared (made.filter (·.kind != .unknown))

end SliceGrowth.Analysis
