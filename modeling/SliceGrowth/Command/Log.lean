import SliceGrowth.Run

/-!
What of a run is shown. Lines for the user always are; log records are from a level on.
-/
namespace SliceGrowth.Command

inductive LogLevel where
  | debug
  | info
  | error
deriving DecidableEq

/-- Silence wins over talk. -/
def LogLevel.choose (verbose silent : Bool) : LogLevel :=
  if silent then .error else if verbose then .debug else .info

def LogLevel.number : LogLevel → Nat
  | debug => 10
  | info => 20
  | error => 40

def showsDebug (level : LogLevel) : Bool := level == .debug

def showsWarnings (level : LogLevel) : Bool := level != .error

/-- What an event shows, if anything. -/
def shown? (level : LogLevel) : Event → Option String
  | .debug channel message =>
    if showsDebug level then some ("DEBUG " ++ channel.text ++ ": " ++ message) else none
  | .warning channel message =>
    if showsWarnings level then some ("WARNING " ++ channel.text ++ ": " ++ message) else none
  | .recorded construct =>
    if showsWarnings level then some ("WARNING " ++ Channel.checker.text ++ ": " ++ construct.message)
    else none
  | .echo line => some line

/-- The text that the events of a run print, each on a line of its own. -/
def output (level : LogLevel) (events : List Event) : String :=
  String.join ((events.filterMap (shown? level)).map (· ++ "\n"))

end SliceGrowth.Command
