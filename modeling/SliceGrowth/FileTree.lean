import SliceGrowth.SlashPath

/-!
File trees, and the paths that lead through them. A tree is a value, so reading it twice gives the
same answer, and no order of the entries of a folder is promised.
-/
namespace SliceGrowth

inductive FileTree where
  | file (content : ByteArray)
  | folder (entries : List (String × FileTree))

/-- Why there is nothing to read at a path. -/
inductive ReadError where
  | notFound
  | isFolder
  | notFolder
deriving DecidableEq

def ReadError.message : ReadError → String
  | notFound => "No such file or directory"
  | isFolder => "Is a directory"
  | notFolder => "Not a directory"

namespace FileTree

def isFolder : FileTree → Bool
  | folder _ => true
  | file _ => false

def named? (entries : List (String × FileTree)) (name : String) : Option FileTree :=
  entries.lookup name

/-- The entries with `name` bound to `tree`, in place of what the name was bound to. -/
def bind (name : String) (tree : FileTree) : List (String × FileTree) → List (String × FileTree)
  | [] => [(name, tree)]
  | (other, t) :: rest => if other == name then (name, tree) :: rest else (other, t) :: bind name tree rest

/-- The tree with `leaf` at a path of names; folders on the way are made. -/
def insert : FileTree → List String → FileTree → FileTree
  | _, [], leaf => leaf
  | folder entries, name :: names, leaf =>
    folder (bind name (insert ((named? entries name).getD (folder [])) names leaf) entries)
  | file _, name :: names, leaf => folder [(name, insert (folder []) names leaf)]

/-- The tree with a folder at a path of names, and what it holds left alone. -/
def insertFolder : FileTree → List String → FileTree
  | tree, [] => tree
  | folder entries, name :: names =>
    folder (bind name (insertFolder ((named? entries name).getD (folder [])) names) entries)
  | file content, _ :: _ => file content

/-- The tree without what a path of names leads to. -/
def erase : FileTree → List String → FileTree
  | folder entries, [name] => folder (entries.filter (·.1 ≠ name))
  | folder entries, name :: names =>
    match named? entries name with
    | some tree => folder (bind name (erase tree names) entries)
    | none => folder entries
  | tree, _ => tree

end FileTree

/-- A tree with a working directory, given by the names that lead to it from the root. -/
structure FileSystem where
  root : FileTree := .folder []
  workingDirectory : List String := []

namespace FileSystem

open FileTree

/-- One step from a tree whose enclosing folders are known, the nearest first. -/
def step (trail : List FileTree) (tree : FileTree) (part : String) :
    Except ReadError (List FileTree × FileTree) :=
  match tree with
  | file _ => .error .notFolder
  | folder entries =>
    if part == ".." then
      match trail with
      | [] => .ok ([], tree)
      | outer :: trail => .ok (trail, outer)
    else match named? entries part with
      | some inner => .ok (tree :: trail, inner)
      | none => .error .notFound

def follow : List FileTree → FileTree → List String → Except ReadError FileTree
  | _, tree, [] => .ok tree
  | trail, tree, part :: parts =>
    match step trail tree part with
    | .ok (trail, tree) => follow trail tree parts
    | .error e => .error e

/-- What a path leads to. -/
def get (fs : FileSystem) (path : SlashPath) : Except ReadError FileTree :=
  match path.anchor with
  | .relative => follow [] fs.root (fs.workingDirectory ++ path.parts)
  | _ => follow [] fs.root path.parts

def read (fs : FileSystem) (path : SlashPath) : Except ReadError ByteArray :=
  match fs.get path with
  | .ok (.file content) => .ok content
  | .ok (.folder _) => .error .isFolder
  | .error e => .error e

def entriesAt? (fs : FileSystem) (path : SlashPath) : Option (List (String × FileTree)) :=
  match fs.get path with
  | .ok (.folder entries) => some entries
  | _ => none

def exists? (fs : FileSystem) (path : SlashPath) : Bool := (fs.get path).toOption.isSome

/-- The working directory as a path from the root. -/
def workingPath (fs : FileSystem) : SlashPath := ⟨.root, fs.workingDirectory⟩

/-- The names that lead to a path from the root, with every `..` undone. -/
def names (fs : FileSystem) (path : SlashPath) : List String :=
  let base := match path.anchor with
    | .relative => fs.workingDirectory
    | _ => []
  path.parts.foldl (fun names part => if part == ".." then names.dropLast else names ++ [part]) base

def write (fs : FileSystem) (path : SlashPath) (content : ByteArray) : FileSystem :=
  { fs with root := fs.root.insert (fs.names path) (.file content) }

def makeFolder (fs : FileSystem) (path : SlashPath) : FileSystem :=
  { fs with root := fs.root.insertFolder (fs.names path) }

def remove (fs : FileSystem) (path : SlashPath) : FileSystem :=
  { fs with root := fs.root.erase (fs.names path) }

/-- A file system that holds nothing but the folders on the way to its working directory. -/
def empty (workingDirectory : List String) : FileSystem :=
  { root := FileTree.insertFolder (.folder []) workingDirectory
    workingDirectory := workingDirectory }

end FileSystem

end SliceGrowth
