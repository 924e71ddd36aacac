import SliceGrowth.Failure

/-!
Runs: what happened, in order, and how it ended. The events of a run that fails are kept, so that what
was said before the failure can be told.
-/
namespace SliceGrowth

/-- The part of the program that a log record comes from. -/
inductive Channel where
  | checker
  | config
  | targets
  | updates
  | sources
  | packages
deriving DecidableEq

def Channel.text : Channel → String
  | checker => "caulker"
  | config => "caulker.config"
  | targets => "caulker.analysis.targets"
  | updates => "caulker.analysis.mutations"
  | sources => "caulker.ingest.go_adapter"
  | packages => "caulker.ingest.go_packages"

inductive Event where
  | debug (channel : Channel) (message : String)
  | warning (channel : Channel) (message : String)
  /-- A construct that was recorded and not judged. -/
  | recorded (construct : Analysis.Unsupported)
  /-- A line for the user. -/
  | echo (line : String)

def Event.construct? : Event → Option Analysis.Unsupported
  | recorded construct => some construct
  | _ => none

structure Run (α : Type) where
  events : List Event
  outcome : Except Failure α

namespace Run

variable {α β : Type}

def bind (run : Run α) (next : α → Run β) : Run β :=
  match run.outcome with
  | .ok a =>
    let rest := next a
    ⟨run.events ++ rest.events, rest.outcome⟩
  | .error failure => ⟨run.events, .error failure⟩

instance : Monad Run where
  pure a := ⟨[], .ok a⟩
  bind := Run.bind

def fail (failure : Failure) : Run α := ⟨[], .error failure⟩

def emit (event : Event) : Run Unit := ⟨[event], .ok ()⟩

def ofExcept : Except Failure α → Run α := Run.mk []

/-- The constructs recorded so far, in order. -/
def constructs (run : Run α) : List Analysis.Unsupported := run.events.filterMap Event.construct?

/-- The run with the constructs it recorded beside its result. -/
def withConstructs (run : Run α) : Run (α × List Analysis.Unsupported) :=
  ⟨run.events, run.outcome.map (·, run.constructs)⟩

/-- Runs one after the other, with their results strung together. -/
def gather (f : α → Run (List β)) : List α → Run (List β)
  | [] => pure []
  | a :: rest => do
    let first ← f a
    let others ← gather f rest
    return first ++ others

/-- Runs one after the other, with the result of each. -/
def traverse (f : α → Run β) : List α → Run (List β)
  | [] => pure []
  | a :: rest => do
    let first ← f a
    let others ← traverse f rest
    return first :: others

def forEach (f : α → Run Unit) : List α → Run Unit
  | [] => pure ()
  | a :: rest => do
    f a
    forEach f rest

/-- Reports a construct that cannot be judged, as the policy has it. -/
def report (policy : Analysis.Policy) (construct : Analysis.Unsupported) : Run Unit :=
  match policy with
  | .abort => fail (.unsupported construct)
  | .collect => emit (.recorded construct)

end Run

end SliceGrowth
