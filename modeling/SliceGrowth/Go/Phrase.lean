import SliceGrowth.Go.Token
import Std.Data.HashMap

/-!
Phrases of a grammar, and how tokens are read by them. Choices are ordered: the first alternative that
fits is taken. What a rule gives at a token is kept, so that no rule is tried twice at one place.
-/
namespace SliceGrowth.Go

open Syntax

/-- What surrounds a phrase, where it decides how the phrase is read. -/
structure Mode where
  /-- A line break ends the phrase wherever the phrase could end. -/
  line : Bool
  /-- An opening brace after a type's name begins a literal, and not a block. -/
  literal : Bool
  /-- The phrase is the head of a switch, which may end in a question for the type. -/
  typeSwitch : Bool
  /-- The phrase is in a clause, which the next clause ends. -/
  clause : Bool

namespace Mode

/-- In a block. -/
def body : Mode := ⟨true, true, false, false⟩

/-- In a clause of a switch or select. -/
def clauseBody : Mode := ⟨true, true, false, true⟩

/-- Between brackets. -/
def inner : Mode := ⟨false, true, false, false⟩

/-- Between a keyword and the block it introduces. -/
def header : Mode := ⟨false, false, false, false⟩

def switchHeader : Mode := ⟨false, false, true, false⟩

/-- Before a semicolon: a block cannot follow directly. -/
def beforeSemicolon (m : Mode) : Mode := { m with literal := true, typeSwitch := false }

def code (m : Mode) : Nat :=
  m.line.toNat + 2 * m.literal.toNat + 4 * m.typeSwitch.toNat + 8 * m.clause.toNat

end Mode

/-- The rules of the grammar by name. -/
inductive Rule where
  | item
  | statement
  | statementList
  | block
  | simple
  | update
  | ifStatement
  | expression
  | conjunction
  | comparison
  | sum
  | product
  | unary
  | primary
  | operand
  | type
  | simpleType
  | typeName
  | typeArguments
  | typeParameters
  | parameters
  | arguments
  | literalValue

inductive Phrase where
  /-- A sign, or one of several. -/
  | sign (texts : List String)
  /-- A word that the grammar spells out. -/
  | keyword (text : String)
  /-- A word that the grammar spells out and that stands for itself in the tree. -/
  | constant (kind text : String)
  /-- Any word but the reserved ones. -/
  | name (kind : String) (reserved : List String)
  | literal (token : TokenKind) (kind : String)
  | seq (phrases : List Phrase)
  | alt (phrases : List Phrase)
  | many (phrase : Phrase)
  | node (kind : String) (phrase : Phrase)
  | role (field : String) (phrase : Phrase)
  | rule (rule : Rule)
  | within (mode : Mode → Mode) (phrase : Phrase)
  /-- The phrase, on the line that the phrase before it is on, where line breaks count. -/
  | onLine (phrase : Phrase)
  | when (condition : Mode → Bool)
  | ahead (phrase : Phrase)
  | notAhead (phrase : Phrase)
  /-- The end of a statement or an element: a line break, a semicolon or the end of the source. -/
  | ending
  /-- A phrase that links lengthen from the left, each to a node of a kind, with the phrase so far in a
  role. -/
  | chain (base : Phrase) (links : List (String × String × Phrase))
  | linked (soFar : Node) (all links : List (String × String × Phrase))

/-- Nodes, and the number of the next token. -/
abbrev Read := Option (List Node × Nat)

/-- What rules have given, by a number for the rule, the mode and the place. -/
abbrev Memory := Std.HashMap Nat Read

def tokenNode (kind : String) (named : Bool) (t : Token) : Node :=
  { kind := kind, span := t.span, named := named }

/-- A node around others, from the start of the first to the end of the last. -/
def around (kind : String) (children : List Node) : Option Node :=
  match children.head?, children.getLast? with
  | some first, some last =>
    some { kind := kind, span := { first.span with stop := last.span.stop }, children := children }
  | _, _ => none

/-- The token at a place, if it fits. -/
def takeToken (tokens : Array Token) (pos : Nat) (fits : Token → Option Node) : Read :=
  tokens[pos]?.bind fun t => (fits t).map ([·], pos + 1)

def startsOnLine (tokens : Array Token) (m : Mode) (pos : Nat) : Bool :=
  !m.line || match tokens[pos]? with
    | some t => !t.freshLine
    | none => false

variable (grammar : Rule → Phrase) (tokens : Array Token)

/-- Reads tokens by a phrase. The steps given bound how deep phrases nest. -/
def read : (steps : Nat) → Phrase → Mode → (pos : Nat) → StateM Memory Read
  | 0, _, _, _ => return none
  | n + 1, phrase, m, pos =>
    match phrase with
    | .sign texts => return takeToken tokens pos fun t =>
        if t.kind == .sign && texts.contains t.text then some (tokenNode t.text false t) else none
    | .keyword text => return takeToken tokens pos fun t =>
        if t.kind == .word && t.text == text then some (tokenNode text false t) else none
    | .constant kind text => return takeToken tokens pos fun t =>
        if t.kind == .word && t.text == text then some (tokenNode kind true t) else none
    | .name kind reserved => return takeToken tokens pos fun t =>
        if t.kind == .word && !reserved.contains t.text then some (tokenNode kind true t) else none
    | .literal token kind => return takeToken tokens pos fun t =>
        if t.kind == token then some (tokenNode kind true t) else none
    | .seq [] => return some ([], pos)
    | .seq (first :: rest) => do
      match ← read n first m pos with
      | none => return none
      | some (nodes, next) =>
        return (← read n (.seq rest) m next).map fun (more, last) => (nodes ++ more, last)
    | .alt [] => return none
    | .alt (first :: rest) => do
      match ← read n first m pos with
      | some found => return some found
      | none => read n (.alt rest) m pos
    | .many inner => do
      match ← read n inner m pos with
      | none => return some ([], pos)
      | some (nodes, next) =>
        if next ≤ pos then return some ([], pos)
        else return (← read n (.many inner) m next).map fun (more, last) => (nodes ++ more, last)
    | .node kind inner => do
      match ← read n inner m pos with
      | none => return none
      | some (nodes, next) => return (around kind nodes).map ([·], next)
    | .role field inner =>
      return (← read n inner m pos).map fun (nodes, next) => (nodes.map (·.inRole field), next)
    | .rule r => do
      let key := (pos * 16 + m.code) * 32 + r.ctorIdx
      match (← get)[key]? with
      | some found => return found
      | none =>
        let found ← read n (grammar r) m pos
        modify (·.insert key found)
        return found
    | .within mode inner => read n inner (mode m) pos
    | .onLine inner => if startsOnLine tokens m pos then read n inner m pos else return none
    | .when condition => return if condition m then some ([], pos) else none
    | .ahead inner => return (← read n inner m pos).map fun _ => ([], pos)
    | .notAhead inner => return if (← read n inner m pos).isSome then none else some ([], pos)
    | .ending =>
      match tokens[pos]? with
      | none => return some ([], pos)
      | some t =>
        if t.freshLine then return some ([], pos)
        else if t.kind == .sign && (t.text == ";" || t.text == "\x00") then return some ([], pos + 1)
        else return none
    | .chain base links => do
      match ← read n base m pos with
      | some ([soFar], next) => read n (.linked soFar links links) m next
      | _ => return none
    | .linked soFar _ [] => return some ([soFar], pos)
    | .linked soFar all ((kind, field, link) :: rest) =>
      if startsOnLine tokens m pos then do
        match ← read n link m pos with
        | some (nodes, next) =>
          match around kind (soFar.inRole field :: nodes) with
          | some longer => read n (.linked longer all all) m next
          | none => return none
        | none => read n (.linked soFar all rest) m pos
      else return some ([soFar], pos)

end SliceGrowth.Go
