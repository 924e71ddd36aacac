import SliceGrowth.Package.Package

/-!
Patterns: a source file, a directory, or every directory below one. Resolving a pattern records what is
wrong; loading it fails instead.
-/
namespace SliceGrowth.Package

/-- Directories that a walk leaves out by name. -/
def defaultExcluded : List String := ["vendor", "testdata"]

def isHidden (excluded : List String) (name : String) : Bool :=
  excluded.contains name || Text.beginsWith "." name || Text.beginsWith "_" name

/-- The package of a folder met on a walk: none if it has no source file or the build takes none. -/
def atFolder (context : Build.Context) (label : String) (directory : SlashPath)
    (entries : List (String × FileTree)) : Run (List Package) := do
  if (sources entries).isEmpty then return []
  let package ← ofFolder directory entries context
  if package.isExcluded then
    Run.emit (.debug .packages ("skipping " ++ label ++ ": build constraints exclude all Go files"))
    return []
  return [package]

mutual

/-- The packages of a folder and of the folders below it. The label is how the walk came there. -/
def walk (excluded : List String) (context : Build.Context) (label : String) (directory : SlashPath) :
    FileTree → Run (List Package)
  | .file _ => return []
  | .folder entries => do
    let first ← atFolder context label directory entries
    let below := (walkEntries excluded context label directory entries).mergeSort fun a b => a.1 ≤ b.1
    let others ← Run.gather Prod.snd below
    return first ++ others

/-- The walks of the folders among some entries, each with its name. -/
def walkEntries (excluded : List String) (context : Build.Context) (label : String)
    (directory : SlashPath) : List (String × FileTree) → List (String × Run (List Package))
  | [] => []
  | (name, tree) :: rest =>
    let others := walkEntries excluded context label directory rest
    if tree.isFolder && !isHidden excluded name then
      (name, walk excluded context (label ++ "/" ++ name) (directory.child name) tree) :: others
    else others

end

/-- The directory that a pattern for a walk names, or the working directory. -/
def walkBase? (pattern : String) : Option SlashPath :=
  if pattern == "..." || Text.endsWith "/..." pattern then
    let base := (Text.dropEnding "..." pattern).toList.reverse.dropWhile (· == '/')
    some (.ofString (String.ofList base.reverse))
  else none

def failed (name : String) (directory : SlashPath) (problem : Problem) : Package :=
  { name := name, directory := directory, files := [], problems := [problem] }

def resolvePath (fs : FileSystem) (path : SlashPath) (context : Build.Context) : Run Package :=
  match fs.get path with
  | .ok (.folder entries) => requireFiles <$> ofFolder path entries context
  | .error _ => return failed path.stem path.parent (.noSuchPath path)
  | .ok (.file content) =>
    if path.suffix == ".go" then requireFiles <$> ofFiles path.parent [(path, .ok content)] context
    else return failed path.stem path.parent (.notSource path)

/-- The packages that a pattern stands for. -/
def resolve (fs : FileSystem) (pattern : String) (excluded : List String) (context : Build.Context) :
    Run (List Package) :=
  match walkBase? pattern with
  | some base =>
    match fs.get base with
    | .ok (.folder entries) => walk excluded context base.text base (.folder entries)
    | _ => return [failed base.name base (.noDirectory base)]
  | none => (fun package => [package]) <$> resolvePath fs (.ofString pattern) context

def logLoaded (p : Package) : Run Unit :=
  Run.emit (.debug .packages ("loaded package " ++ p.name ++ " from " ++ p.directory.text ++ " (" ++
    Nat.repr p.files.length ++ " files, " ++ Nat.repr p.ignored.length ++ " excluded)"))

/-- The packages that a pattern stands for, all of them in order. -/
def load (fs : FileSystem) (pattern : String) (excluded : List String) (context : Build.Context) :
    Run (List Package) := do
  let packages ← resolve fs pattern excluded context
  if packages.isEmpty then Run.fail (.load [.noMatch pattern])
  match packages.flatMap (·.problems) with
  | [] =>
    Run.forEach logLoaded packages
    return packages
  | problems => Run.fail (.load problems)

end SliceGrowth.Package
