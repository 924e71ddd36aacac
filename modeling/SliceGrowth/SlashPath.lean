import SliceGrowth.Text.Blank

/-!
Paths whose parts stand between slashes. A path is kept without empty parts and without `.`, so that
two spellings of one path are the same value; `..` stays, since only the file tree can resolve it.
-/
namespace SliceGrowth

/-- What stands before the first part. Two slashes are told apart from one; more than two are one. -/
inductive Anchor where
  | relative
  | root
  | doubleRoot
deriving DecidableEq

structure SlashPath where
  anchor : Anchor
  parts : List String
deriving DecidableEq

namespace Anchor

def text : Anchor → String
  | relative => ""
  | root => "/"
  | doubleRoot => "//"

def ofSlashes : Nat → Anchor
  | 0 => relative
  | 2 => doubleRoot
  | _ => root

end Anchor

namespace SlashPath

/-- The working directory. -/
def here : SlashPath := ⟨.relative, []⟩

def ofString (s : String) : SlashPath :=
  { anchor := .ofSlashes (s.toList.takeWhile (· == '/')).length
    parts := (Text.splitAt '/' s).filter fun part => part ≠ "" ∧ part ≠ "." }

def text (p : SlashPath) : String :=
  match p.anchor, p.parts with
  | .relative, [] => "."
  | anchor, parts => anchor.text ++ "/".intercalate parts

/-- The last part, or the empty text. -/
def name (p : SlashPath) : String := p.parts.getLast?.getD ""

def parent (p : SlashPath) : SlashPath := { p with parts := p.parts.dropLast }

def child (p : SlashPath) (name : String) : SlashPath := { p with parts := p.parts ++ [name] }

/-- A name cut before its last dot, which counts only inside the name. -/
def cutSuffix (name : String) : String × String :=
  let reversed := name.toList.reverse
  let suffix := reversed.takeWhile (· ≠ '.')
  match reversed.dropWhile (· ≠ '.') with
  | _ :: stem =>
    if suffix.isEmpty || stem.isEmpty then (name, "")
    else (String.ofList stem.reverse, String.ofList ('.' :: suffix.reverse))
  | [] => (name, "")

def stem (p : SlashPath) : String := (cutSuffix p.name).1

/-- The last part from its last inner dot on. -/
def suffix (p : SlashPath) : String := (cutSuffix p.name).2

end SlashPath

end SliceGrowth
