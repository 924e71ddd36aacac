import SliceGrowth.Build.FileName
import SliceGrowth.Go.Source
import SliceGrowth.Package.Problem
import SliceGrowth.Run
import SliceGrowth.Syntax.Header

/-!
Packages: the files of a directory that a build takes, with what is wrong about them.
-/
namespace SliceGrowth

structure Package where
  name : String
  directory : SlashPath
  files : List SlashPath
  problems : List Problem := []
  ignored : List SlashPath := []

namespace Package

/-- What becomes of one file. -/
inductive Verdict where
  | otherName
  | excluded (expression : String)
  | broken (problem : Problem)
  | selected (packageName : Option String)

/-- A file belongs to the package if its name and then its build line say so. -/
def judge (context : Build.Context) (path : SlashPath) (content : Except ReadError ByteArray) : Verdict :=
  if !context.matchesFileName path.name then .otherName
  else match content with
    | .error cause => .broken (.unreadable path cause)
    | .ok source =>
      let header := Syntax.header source (Go.parse source)
      match header.constraint with
      | none => .selected header.packageName
      | some expression =>
        match Build.evaluate expression context with
        | .error e => .broken (.badConstraint path e)
        | .ok false => .excluded expression
        | .ok true => .selected header.packageName

namespace Verdict

def isSelected : Verdict → Bool
  | selected _ => true
  | _ => false

def isIgnored : Verdict → Bool
  | otherName => true
  | excluded _ => true
  | _ => false

def problem? (path : SlashPath) : Verdict → Option Problem
  | broken problem => some problem
  | selected none => some (.noPackageClause path)
  | _ => none

def packageName? : Verdict → Option String
  | selected name => name
  | _ => none

end Verdict

/-- Each name once, with the file that has it first. -/
def firstFiles : List (String × SlashPath) → List (String × SlashPath)
  | [] => []
  | (name, path) :: rest => (name, path) :: (firstFiles rest).filter (·.1 ≠ name)

def ofVerdicts (directory : SlashPath) (verdicts : List (SlashPath × Verdict)) : Package :=
  let named := firstFiles (verdicts.filterMap fun (path, v) => v.packageName?.map (·, path))
  let mixed := if named.length > 1 then [Problem.mixedPackages named directory] else []
  { name := (named.head?.map Prod.fst).getD directory.name
    directory := directory
    files := (verdicts.filter (·.2.isSelected)).map Prod.fst
    problems := verdicts.filterMap (fun (path, v) => v.problem? path) ++ mixed
    ignored := (verdicts.filter (·.2.isIgnored)).map Prod.fst }

def logExclusion : SlashPath × Verdict → Run Unit
  | (path, .excluded expression) =>
    Run.emit (.debug .packages (path.text ++ ": excluded by //go:build " ++ expression))
  | _ => return ()

/-- The package of some files of a directory. -/
def ofFiles (directory : SlashPath) (files : List (SlashPath × Except ReadError ByteArray))
    (context : Build.Context) : Run Package := do
  let verdicts := files.map fun (path, content) => (path, judge context path content)
  Run.forEach logExclusion verdicts
  return ofVerdicts directory verdicts

/-- Every file was left out, and nothing is wrong. -/
def isExcluded (p : Package) : Bool := !p.ignored.isEmpty && p.files.isEmpty && p.problems.isEmpty

/-- A package asked for by name must have files. -/
def requireFiles (p : Package) : Package :=
  if p.isExcluded then { p with problems := [.allExcluded p.directory] } else p

/-- Names of source files that belong to no test and are not hidden. -/
def isSourceName (name : String) : Bool :=
  !Text.beginsWith "." name && !Text.beginsWith "_" name && Text.endsWith ".go" name &&
    !Text.endsWith "_test.go" name

def sourceOf? : String × FileTree → Option (String × ByteArray)
  | (name, .file content) => if isSourceName name then some (name, content) else none
  | (_, .folder _) => none

/-- The source files of a folder, by name. -/
def sources (entries : List (String × FileTree)) : List (String × ByteArray) :=
  (entries.filterMap sourceOf?).mergeSort fun a b => a.1 ≤ b.1

def ofFolder (directory : SlashPath) (entries : List (String × FileTree)) (context : Build.Context) :
    Run Package :=
  match sources entries with
  | [] => return {
      name := directory.name, directory := directory, files := [], problems := [.noFiles directory] }
  | files => ofFiles directory (files.map fun (name, content) => (directory.child name, .ok content)) context

end Package

end SliceGrowth
