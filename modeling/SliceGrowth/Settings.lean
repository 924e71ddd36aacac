import SliceGrowth.Analysis.Operations
import SliceGrowth.Run
import SliceGrowth.Text.Lines
import SliceGrowth.Text.Lowercase
import SliceGrowth.Text.Utf8
import SliceGrowth.Toml.Document

/-!
What a configuration file says. A setting of the wrong kind counts as not given.
-/
namespace SliceGrowth.Settings

open Toml

def configName : String := "caulker.toml"

/-- A text of which reading failed. -/
def malformedDetail : String := "invalid TOML"

def readTable (fs : FileSystem) (path : SlashPath) : Run Table :=
  match fs.read path with
  | .error cause => Run.fail (.config path (.unreadable cause))
  | .ok content =>
    match Text.decode? content with
    | none => Run.fail (.defect .notUtf8)
    | some cs =>
      match parse? (Text.unifyLineEnds cs) with
      | some table => return table
      | none => Run.fail (.config path (.malformed malformedDetail))

/-- A file that nobody asked for by name: it may be missing, and is passed over if it cannot be read. -/
def readImplicit (fs : FileSystem) (path : SlashPath) : Run Table :=
  if fs.exists? path then
    let run := readTable fs path
    match run.outcome with
    | .error (.config path cause) => do
      Run.emit (.warning .config ("ignoring " ++ (Failure.config path cause).message))
      return []
    | _ => run
  else return []

/-- The settings of a named file, or else of the file with the usual name in a directory. -/
def load (fs : FileSystem) (root : Option SlashPath) (config : Option SlashPath) : Run Table :=
  match config with
  | some path => readTable fs path
  | none => readImplicit fs ((root.getD fs.workingPath).child configName)

/-- The table of a section. -/
def sectionOf (name : String) (table : Table) : Table :=
  match table.lookup name with
  | some (.table entries) => entries
  | _ => []

/-- Names from texts, with commas between them. -/
def namesIn (s : String) : List String :=
  ((Text.splitAt ',' s).map Text.trim).filter (!·.isEmpty)

def itemNames : Value → List String
  | .text s => namesIn s
  | _ => []

def names : Value → List String
  | .text s => namesIn s
  | .array items => items.flatMap itemNames
  | _ => []

/-- Whether a value means yes. -/
def isYes : Value → Bool
  | .text s => ["1", "true", "yes", "on"].contains (Text.lower (Text.trim s))
  | .boolean b => b
  | .integer n => n != 0
  | _ => false

def get (key : String) (entries : Table) : Value := (entries.lookup key).getD .nothing

def disabledNames (checks : Table) : List String := names (get "disable" checks)

def keepsGoing (analysis : Table) : Bool := isYes (get "keep_going" analysis)

def tags (build : Table) : List String := names (get "tags" build)

/-- A list of operations: the one given in place of the usual one, and the extra names of the section and
of the caller after it. -/
def operationList (usual : List String) (key extraKey : String) (slices : Table) (extra : List String) :
    List String :=
  let base := match slices.lookup key with
    | some value => names value
    | none => usual
  base ++ names (get extraKey slices) ++ extra

def operations (slices : Table) (extraShrink extraGrow : List String) : Analysis.Operations :=
  let usual : Analysis.Operations := {}
  { shrink := operationList usual.shrink "shrink" "extra_shrink" slices extraShrink
    grow := operationList usual.grow "grow" "extra_grow" slices extraGrow }

end SliceGrowth.Settings
