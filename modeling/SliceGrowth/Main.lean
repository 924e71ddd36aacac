import SliceGrowth.Command.Command

/-!
The command line. What the command may look at is taken from disk first; the command then runs on that,
and what it shows is printed.
-/
namespace SliceGrowth

open Command

/-- What is at a place on disk: a file, or a folder with what the command looks at in it. A walk takes the
folders below too. -/
partial def takeTree (walks : Bool) (path : String) : IO FileTree := do
  let place := (← IO.currentDir) / path
  if ← place.isDir then
    let entries ← (← place.readDir).toList.filterMapM fun entry => do
      let inner := path ++ "/" ++ entry.fileName
      if ← entry.path.isDir then
        if walks && !Package.isHidden Package.defaultExcluded entry.fileName then
          return some (entry.fileName, ← takeTree walks inner)
        else return none
      else if Package.isSourceName entry.fileName then
        return some (entry.fileName, ← takeTree walks inner)
      else return none
    return .folder entries
  else return .file (← IO.FS.readBinFile place)

/-- The file system with a path taken over from disk, if there is anything at it. -/
def FileSystem.take (fs : FileSystem) (walks : Bool) (path : SlashPath) : IO FileSystem := do
  if ← ((← IO.currentDir) / path.text).pathExists then
    let tree ← takeTree walks path.text
    return { fs with root := fs.root.insert (fs.names path) tree }
  else return fs

/-- The part of the disk that an invocation can look at. -/
def FileSystem.ofDisk (i : Invocation) : IO FileSystem := do
  let here := SlashPath.ofString (← IO.currentDir).toString
  let pattern := i.paths.head?.getD "."
  let taken ← match Package.walkBase? pattern with
    | some base => (FileSystem.empty here.parts).take true base
    | none => (FileSystem.empty here.parts).take false (.ofString pattern)
  taken.take false (.ofString (i.config.getD Settings.configName))

/-- The machine that the command runs on, as far as it is told. -/
def currentHost : IO Build.Host := do
  try return { machine := (← IO.FS.readFile "/proc/sys/kernel/arch").trimAscii.toString }
  catch _ => return {}

def runInvocation (i : Invocation) : IO UInt32 := do
  let run := Command.run (← currentHost) (← FileSystem.ofDisk i) i
  IO.print (output i.level run.events)
  match run.outcome with
  | .ok _ => return 0
  | .error failure =>
    IO.eprintln failure.message
    return 1

end SliceGrowth

def main (arguments : List String) : IO UInt32 :=
  match SliceGrowth.Command.Invocation.ofArguments arguments with
  | .ok i => SliceGrowth.runInvocation i
  | .error e => do
    IO.eprintln (SliceGrowth.Command.usage ++ "\n" ++ e.message)
    return 2
