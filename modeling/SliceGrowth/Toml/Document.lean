import SliceGrowth.Toml.Scalar

/-!
Whole configuration files: keys bound to values, line by line, under the headers of tables. A table may
be opened by one header only, and what is written in braces or brackets is complete as it stands.
-/
namespace SliceGrowth.Toml

def isBareKeyChar (c : Char) : Bool := c.isAlphanum || c == '-' || c == '_'

def readKeyPart (cs : List Char) : Option (String × List Char) :=
  match cs with
  | c :: rest =>
    if isBareKeyChar c then
      some (String.ofList (cs.takeWhile isBareKeyChar), cs.dropWhile isBareKeyChar)
    else if c == '\'' then (readLiteral rest).map fun (cs, rest) => (String.ofList cs, rest)
    else if c == '"' then
      (readQuoted (rest.length + 1) rest).map fun (cs, rest) => (String.ofList cs, rest)
    else none
  | [] => none

/-- Key parts with dots between them, and the blanks after them. -/
def readKey : (steps : Nat) → Reader (List String)
  | 0, _ => none
  | n + 1, cs => do
    let (part, rest) ← readKeyPart cs
    match rest.dropWhile isSpace with
    | '.' :: more =>
      let (parts, rest) ← readKey n (more.dropWhile isSpace)
      return (part :: parts, rest)
    | rest => return ([part], rest)

/-- The text after a comment, or the text itself. -/
def pastComment? (cs : List Char) : Option (List Char) :=
  match cs with
  | '#' :: rest =>
    if (rest.takeWhile (· ≠ '\n')).any isControl then none else some (rest.dropWhile (· ≠ '\n'))
  | _ => some cs

/-- The text after blanks, line breaks and comments. -/
def pastFiller? : (steps : Nat) → List Char → Option (List Char)
  | 0, cs => some cs
  | n + 1, cs => do
    let rest := cs.dropWhile isSpaceOrBreak
    match rest with
    | '#' :: _ => pastFiller? n (← pastComment? rest)
    | _ => return rest

/-- Keys that lead into something complete as it stands. -/
def isSealed (sealedKeys : List (List String)) (key : List String) : Bool :=
  sealedKeys.any (·.isPrefixOf key)

mutual

/-- A value of any kind. The steps bound how deep values nest and how many follow one another. -/
def readValue : (steps : Nat) → Reader Value
  | 0, _ => none
  | n + 1, cs =>
    match cs with
    | '"' :: _ => (readText cs).map fun (s, rest) => (.text s, rest)
    | '\'' :: _ => (readText cs).map fun (s, rest) => (.text s, rest)
    | 't' :: 'r' :: 'u' :: 'e' :: rest => some (.boolean true, rest)
    | 'f' :: 'a' :: 'l' :: 's' :: 'e' :: rest => some (.boolean false, rest)
    | '[' :: rest => (readItems n rest).map fun (items, rest) => (.array items, rest)
    | '\x7b' :: rest =>
      match rest.dropWhile isSpace with
      | '\x7d' :: rest => some (.table [], rest)
      | rest => (readPairs n [] [] rest).map fun (table, rest) => (.table table, rest)
    | _ => readNumberOrMoment cs

/-- The items of an array up to its closing bracket. -/
def readItems : (steps : Nat) → Reader (List Value)
  | 0, _ => none
  | n + 1, cs => do
    match ← pastFiller? cs.length cs with
    | ']' :: rest => return ([], rest)
    | start =>
      let (item, rest) ← readValue n start
      match ← pastFiller? rest.length rest with
      | ']' :: rest => return ([item], rest)
      | ',' :: rest =>
        let (items, rest) ← readItems n rest
        return (item :: items, rest)
      | _ => none

/-- The pairs of a table in braces up to its closing brace. -/
def readPairs : (steps : Nat) → (table : Table) → (sealedKeys : List (List String)) → Reader Table
  | 0, _, _, _ => none
  | n + 1, table, sealedKeys, cs => do
    let (key, rest) ← readKey (cs.length + 1) cs
    let rest ← readMark '=' rest
    let (value, rest) ← readValue n (rest.dropWhile isSpace)
    guard (!isSealed sealedKeys key)
    let table ← Table.change? false key.dropLast (Table.add? (key.getLast?.getD "") value) table
    match rest.dropWhile isSpace with
    | '\x7d' :: rest => return (table, rest)
    | ',' :: rest =>
      let sealedKeys := if value.isContainer then key :: sealedKeys else sealedKeys
      readPairs n table sealedKeys (rest.dropWhile isSpace)
    | _ => none

end

/-- A file read so far. -/
structure Document where
  table : Table := []
  /-- The table that the last header opened. -/
  header : List String := []
  /-- Tables that no header may open again. -/
  opened : List (List String) := []
  /-- Tables that dotted keys made since the last header. -/
  dotted : List (List String) := []
  /-- Keys of values in braces and brackets. -/
  sealedKeys : List (List String) := []

namespace Document

/-- Every beginning of a key that leaves at least one part out and takes at least one. -/
def properBeginnings (key : List String) : List (List String) :=
  (List.range' 1 (key.length - 1)).map key.take

def addPair (d : Document) (key : List String) (value : Value) : Option Document := do
  let containers := (properBeginnings key).map (d.header ++ ·)
  guard (!containers.any d.opened.contains)
  let outer := d.header ++ key.dropLast
  guard (!isSealed d.sealedKeys outer)
  let table ← Table.change? true outer (Table.add? (key.getLast?.getD "") value) d.table
  return { d with
    table := table
    dotted := containers ++ d.dotted
    sealedKeys := if value.isContainer then (d.header ++ key) :: d.sealedKeys else d.sealedKeys }

/-- A header ends what dotted keys may add to. -/
def settle (d : Document) : Document := { d with opened := d.dotted ++ d.opened, dotted := [] }

/-- The header of a table. -/
def openTable (d : Document) (key : List String) : Option Document := do
  guard (!d.opened.contains key && !isSealed d.sealedKeys key)
  let table ← Table.change? true key some d.table
  return { d with table := table, header := key, opened := key :: d.opened }

/-- Appends an empty table to the array that a key is bound to. -/
def appendItem (key : String) (table : Table) : Option Table :=
  match table.lookup key with
  | none => some (table ++ [(key, .array [.table []])])
  | some (.array items) => some (Table.bind key (.array (items ++ [.table []])) table)
  | some _ => none

/-- The header of one more table of an array; what was said below the one before counts no longer. -/
def openItem (d : Document) (key : List String) : Option Document := do
  guard (!isSealed d.sealedKeys key)
  let others := fun (keys : List (List String)) => keys.filter (!key.isPrefixOf ·)
  let table ← Table.change? true key.dropLast (appendItem (key.getLast?.getD "")) d.table
  return { d with
    table := table
    header := key
    opened := key :: others d.opened
    sealedKeys := others d.sealedKeys }

/-- One pair or header at the start of a line, and the rest of the text. -/
def readEntry (d : Document) (cs : List Char) : Option (Document × List Char) := do
  match cs with
  | '[' :: '[' :: rest =>
    let (key, rest) ← readKey (rest.length + 1) (rest.dropWhile isSpace)
    let d ← d.settle.openItem key
    let rest ← readMark ']' rest
    let rest ← readMark ']' rest
    return (d, rest)
  | '[' :: rest =>
    let (key, rest) ← readKey (rest.length + 1) (rest.dropWhile isSpace)
    let d ← d.settle.openTable key
    let rest ← readMark ']' rest
    return (d, rest)
  | '#' :: _ => return (d, cs)
  | _ =>
    let (key, rest) ← readKey (cs.length + 1) cs
    let rest ← readMark '=' rest
    let (value, rest) ← readValue (2 * rest.length + 2) (rest.dropWhile isSpace)
    let d ← d.addPair key value
    return (d, rest)

/-- The lines of a text one after the other. The steps bound their number. -/
def readLines : (steps : Nat) → Document → List Char → Option Document
  | 0, _, _ => none
  | n + 1, d, cs => do
    match cs.dropWhile isSpace with
    | [] => return d
    | '\n' :: rest => readLines n d rest
    | start =>
      let (d, rest) ← d.readEntry start
      match ← pastComment? (rest.dropWhile isSpace) with
      | [] => return d
      | '\n' :: rest => readLines n d rest
      | _ => none

end Document

/-- The table that a text spells out, if it does. -/
def parse? (cs : List Char) : Option Table :=
  (Document.readLines (cs.length + 1) {} cs).map Document.table

end SliceGrowth.Toml
