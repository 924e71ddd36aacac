import SliceGrowth.Analysis.Slices
import SliceGrowth.Go.Source
import SliceGrowth.Package.Package
import SliceGrowth.Syntax.Acceptance

/-!
Checking a package: every enabled check over each file, one file at a time.
-/
namespace SliceGrowth

open Analysis Syntax

structure Options where
  enabled : List CheckId := CheckId.all
  operations : Operations := {}
  policy : Policy := .abort

structure Report where
  findings : List Finding := []
  unsupported : List Unsupported := []

/-- A file of a package that is yet to be read. -/
structure Input where
  path : SlashPath
  file : Run SourceFile

/-- A file as it is read from a file system. -/
def FileSystem.input (fs : FileSystem) (path : SlashPath) : Input where
  path := path
  file := do
    Run.emit (.debug .sources ("parsing " ++ path.text))
    match fs.read path with
    | .error cause => Run.fail (.load [.unreadable path cause])
    | .ok source => SourceFile.accept path source (Go.parse source)

/-- The check of exactly this name. -/
def registeredCheck (text : String) : Run CheckId :=
  match CheckId.ofText? text with
  | some id => return id
  | none => Run.fail (.defect (.broken "check id has no registry entry" [("check_id", .text text)]))

namespace Options

/-- The checks to run; one that is not implemented is passed over with a note. -/
def runnable (options : Options) : Run (List CheckId) :=
  Run.gather (fun id => do
    if !options.enabled.contains id then return []
    else if id.isImplemented then return [id]
    else
      Run.emit (.debug .checker ("check " ++ id.text ++ " is not implemented yet; skipping"))
      return []) CheckId.all

def runCheck (options : Options) (f : SourceFile) : CheckId → Run (List Finding)
  | .slices => checkSlices options.policy options.operations f
  | .goroutines => return []

def checkFile (options : Options) (checks : List CheckId) (input : Input) : Run (List Finding) := do
  let f ← input.file
  Run.gather (fun id => do
    let found ← options.runCheck f id
    Run.emit (.debug .checker (input.path.text ++ ": " ++ id.text ++ " check found " ++
      Nat.repr found.length ++ " result(s)"))
    return found) checks

/-- The findings of the files of a package, in order. -/
def checkFiles (options : Options) (name : String) (inputs : List Input) : Run (List Finding) := do
  let checks ← options.runnable
  Run.emit (.debug .checker ("checking package " ++ name ++ " (" ++ Nat.repr inputs.length ++ " files)"))
  Run.gather (options.checkFile checks) inputs

/-- The report on a package, unless there are problems with it already. -/
def checkInputs (options : Options) (name : String) (problems : List Problem) (inputs : List Input) :
    Run Report := do
  if !problems.isEmpty then Run.fail (.load problems)
  let (findings, unsupported) ← (options.checkFiles name inputs).withConstructs
  return { findings := findings, unsupported := unsupported }

def check (options : Options) (fs : FileSystem) (package : Package) : Run Report :=
  options.checkInputs package.name package.problems (package.files.map fs.input)

end Options

end SliceGrowth
