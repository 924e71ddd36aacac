import SliceGrowth.Checker
import SliceGrowth.Command.Invocation
import SliceGrowth.Command.Log
import SliceGrowth.Package.Pattern
import SliceGrowth.Settings

/-!
The command: settings, then packages, then findings. Failures are told on a line and end the work;
defects are not told and stay the outcome of the run.
-/
namespace SliceGrowth.Command

open Analysis

def checkId (name : String) : Run CheckId :=
  match CheckId.ofName? name with
  | some id => return id
  | none => Run.fail (.unknownCheck name)

def checkIds (names : List String) : Run (List CheckId) := Run.traverse checkId names

/-- The options that settings and arguments make together. -/
def options (table : Toml.Table) (i : Invocation) : Run Options := do
  let disabled ← checkIds
    (Settings.disabledNames (Settings.sectionOf "checks" table) ++ splitEntries i.disable)
  let keepGoing := i.keepGoing.getD (Settings.keepsGoing (Settings.sectionOf "analysis" table))
  return {
    enabled := CheckId.all.filter (!disabled.contains ·)
    operations := Settings.operations (Settings.sectionOf "slices" table)
      (splitEntries i.shrink) (splitEntries i.grow)
    policy := if keepGoing then .collect else .abort }

def context (host : Build.Host) (table : Toml.Table) (i : Invocation) : Build.Context :=
  host.context (Settings.tags (Settings.sectionOf "build" table) ++ splitEntries i.tags)

def disableHelp : String :=
  let list := fun (ids : List CheckId) => ", ".intercalate (ids.map CheckId.text)
  "Disable a specific check (known: " ++ list CheckId.all ++ "; implemented: " ++
    list CheckId.implemented ++ ")."

def usage : String := "Usage: caulker [OPTIONS] [PATH]..."

/-- A failure while a package is checked, told as such. -/
def duringCheck {α : Type} (run : Run α) : Run α :=
  match run.outcome with
  | .error failure => ⟨run.events, .error (if failure.isDefect then failure else .whileChecking failure)⟩
  | .ok _ => run

def checkPackage (options : Options) (fs : FileSystem) (package : Package) : Run Unit := do
  let report ← duringCheck (options.check fs package)
  Run.forEach (fun finding => Run.emit (.echo finding.text)) report.findings

/-- The findings of all packages of a pattern. -/
def checkPattern (fs : FileSystem) (pattern : String) (options : Options) (context : Build.Context) :
    Run Unit := do
  let packages ← Package.load fs pattern Package.defaultExcluded context
  Run.forEach (checkPackage options fs) packages

/-- The run with its failure told, if it has one that is no defect. -/
def tellFailure (run : Run Unit) : Run Unit :=
  match run.outcome with
  | .error failure =>
    if failure.isDefect then run else ⟨run.events ++ [.echo ("Error: " ++ failure.message)], .ok ()⟩
  | .ok _ => run

def work (host : Build.Host) (fs : FileSystem) (pattern : String) (i : Invocation) : Run Unit := do
  let table ← Settings.load fs none (i.config.map .ofString)
  let options ← options table i
  checkPattern fs pattern options (context host table i)

def run (host : Build.Host) (fs : FileSystem) (i : Invocation) : Run Unit :=
  match i.paths with
  | [] => tellFailure (work host fs "." i)
  | [pattern] => tellFailure (work host fs pattern i)
  | paths => do
    Run.emit (.echo ("Error: unexpected arguments: [" ++ " ".intercalate paths ++ "]"))
    Run.emit (.echo usage)

def Invocation.level (i : Invocation) : LogLevel := .choose i.verbose i.silent

end SliceGrowth.Command
