import SliceGrowth.SlashPath
import SliceGrowth.Text.Blank

/-!
The arguments of the command. Options and paths may be mixed; an option takes the argument after it
whatever that looks like, or the text after its equals sign.
-/
namespace SliceGrowth.Command

structure Invocation where
  paths : List String := []
  disable : List String := []
  grow : List String := []
  shrink : List String := []
  tags : List String := []
  config : Option String := none
  keepGoing : Option Bool := none
  verbose : Bool := false
  silent : Bool := false

inductive UsageError where
  | unknownOption (name : String)
  | missingValue (name : String)
  | unexpectedValue (name : String)

def UsageError.message : UsageError → String
  | unknownOption name => "No such option: " ++ name
  | missingValue name => "Option '" ++ name ++ "' requires an argument."
  | unexpectedValue name => "Option '" ++ name ++ "' does not take a value."

/-- What an option does: set something, or take a value. -/
inductive OptionAction where
  | flag (set : Invocation → Invocation)
  | value (set : String → Invocation → Invocation)

def optionAction? : String → Option OptionAction
  | "--disable" => some (.value fun v i => { i with disable := i.disable ++ [v] })
  | "--grow" => some (.value fun v i => { i with grow := i.grow ++ [v] })
  | "--shrink" => some (.value fun v i => { i with shrink := i.shrink ++ [v] })
  | "--tags" => some (.value fun v i => { i with tags := i.tags ++ [v] })
  | "--config" => some (.value fun v i => { i with config := some v })
  | "--verbose" => some (.flag fun i => { i with verbose := true })
  | "--silent" => some (.flag fun i => { i with silent := true })
  | "--keep-going" => some (.flag fun i => { i with keepGoing := some true })
  | "--no-keep-going" => some (.flag fun i => { i with keepGoing := some false })
  | _ => none

/-- An argument cut at its first equals sign. -/
def cutValue (argument : String) : String × Option String :=
  let cs := argument.toList
  let name := String.ofList (cs.takeWhile (· ≠ '='))
  match cs.dropWhile (· ≠ '=') with
  | _ :: value => (name, some (String.ofList value))
  | [] => (name, none)

def looksLikeOption (argument : String) : Bool :=
  match argument.toList with
  | '-' :: _ :: _ => true
  | _ => false

def Invocation.addPaths (i : Invocation) (paths : List String) : Invocation :=
  { i with paths := i.paths ++ paths }

def readArguments (i : Invocation) : List String → Except UsageError Invocation
  | [] => .ok i
  | "--" :: rest => .ok (i.addPaths rest)
  | argument :: rest =>
    if looksLikeOption argument then
      let (name, value?) := cutValue argument
      match optionAction? name with
      | none => .error (.unknownOption name)
      | some (.flag set) =>
        match value? with
        | none => readArguments (set i) rest
        | some _ => .error (.unexpectedValue name)
      | some (.value set) =>
        match value? with
        | some value => readArguments (set value i) rest
        | none =>
          match rest with
          | value :: others => readArguments (set value i) others
          | [] => .error (.missingValue name)
    else readArguments (i.addPaths [argument]) rest

/-- The invocation that the arguments spell out. -/
def Invocation.ofArguments (arguments : List String) : Except UsageError Invocation :=
  readArguments {} arguments

/-- The entries of a repeated option, which commas and blanks divide. -/
def splitEntries (entries : List String) : List String :=
  entries.flatMap fun entry =>
    Text.words (String.ofList (entry.toList.map fun c => if c == ',' then ' ' else c))

end SliceGrowth.Command
