import SliceGrowth.Build.Context
import SliceGrowth.Text.Blank
import SliceGrowth.Text.Quoted

/-!
Build constraints: tags joined by `!`, `&&`, `||` and parentheses, in order of binding. A line is cut
into tokens, the tokens are read as a tree, and a tree has a value in each context.
-/
namespace SliceGrowth.Build

inductive Constraint where
  | tag (name : String)
  | not (inner : Constraint)
  | and (left right : Constraint)
  | or (left right : Constraint)
deriving DecidableEq

namespace Constraint

def value (context : Context) : Constraint → Bool
  | tag name => context.satisfies name
  | not inner => !inner.value context
  | and left right => left.value context && right.value context
  | or left right => left.value context || right.value context

inductive Token where
  | opening
  | closing
  | bang
  | both
  | either
  | tag (name : String)
deriving DecidableEq

def Token.text : Token → String
  | opening => "("
  | closing => ")"
  | bang => "!"
  | both => "&&"
  | either => "||"
  | tag name => name

/-- Why a line is no constraint. -/
inductive Cause where
  | unexpectedCharacter (c : Char)
  | empty
  | unexpectedToken (token : Token)
  | unexpectedEnd
  | missingClosing
deriving DecidableEq

def Cause.message : Cause → String
  | unexpectedCharacter c => "unexpected character " ++ Text.quote (String.ofList [c])
  | empty => "empty expression"
  | unexpectedToken token => "unexpected token " ++ Text.quote token.text
  | unexpectedEnd => "unexpected end of expression"
  | missingClosing => "missing )"

def isTagChar (c : Char) : Bool := c.isAlphanum || c == '_' || c == '.'

/-- The tokens of a line: a tag is as long as it can be, and blanks only separate. -/
def tokens : List Char → Except Cause (List Token)
  | [] => .ok []
  | '(' :: rest => do return .opening :: (← tokens rest)
  | ')' :: rest => do return .closing :: (← tokens rest)
  | '!' :: rest => do return .bang :: (← tokens rest)
  | '&' :: '&' :: rest => do return .both :: (← tokens rest)
  | '|' :: '|' :: rest => do return .either :: (← tokens rest)
  | c :: rest =>
    if Text.isBlank c then tokens rest
    else if isTagChar c then do
      return .tag (String.ofList (c :: rest.takeWhile isTagChar)) :: (← tokens (rest.dropWhile isTagChar))
    else .error (.unexpectedCharacter c)
termination_by cs => cs.length
decreasing_by
  all_goals simp only [List.length_cons]
  all_goals first
    | omega
    | exact Nat.lt_succ_of_le (List.dropWhile_suffix _).length_le

/-- A tree read from the front of the tokens, and the tokens after it. -/
abbrev Reading := Except Cause (Constraint × List Token)

/-
Each level reads its operands one level down and then looks for its own operator. The steps given are
spent one per call; `steps` gives enough of them for every list of tokens.
-/
mutual

def readOr : Nat → List Token → Reading
  | 0, _ => .error .unexpectedEnd
  | n + 1, ts => do
    let (left, rest) ← readAnd n ts
    readOrTail n left rest

def readOrTail : Nat → Constraint → List Token → Reading
  | 0, _, _ => .error .unexpectedEnd
  | n + 1, left, .either :: ts => do
    let (right, rest) ← readAnd n ts
    readOrTail n (.or left right) rest
  | _ + 1, left, ts => .ok (left, ts)

def readAnd : Nat → List Token → Reading
  | 0, _ => .error .unexpectedEnd
  | n + 1, ts => do
    let (left, rest) ← readNot n ts
    readAndTail n left rest

def readAndTail : Nat → Constraint → List Token → Reading
  | 0, _, _ => .error .unexpectedEnd
  | n + 1, left, .both :: ts => do
    let (right, rest) ← readNot n ts
    readAndTail n (.and left right) rest
  | _ + 1, left, ts => .ok (left, ts)

def readNot : Nat → List Token → Reading
  | 0, _ => .error .unexpectedEnd
  | n + 1, .bang :: ts => do
    let (inner, rest) ← readNot n ts
    return (.not inner, rest)
  | n + 1, ts => readAtom n ts

def readAtom : Nat → List Token → Reading
  | 0, _ => .error .unexpectedEnd
  | _ + 1, [] => .error .unexpectedEnd
  | _ + 1, .tag name :: ts => .ok (.tag name, ts)
  | n + 1, .opening :: ts => do
    let (inner, rest) ← readOr n ts
    match rest with
    | .closing :: rest => return (inner, rest)
    | _ => .error .missingClosing
  | _ + 1, token :: _ => .error (.unexpectedToken token)

end

/-- Four levels down for each token, and once more at the end of the line. -/
def steps (ts : List Token) : Nat := 4 * ts.length + 4

/-- The tree of a whole line. -/
def ofTokens (ts : List Token) : Except Cause Constraint :=
  if ts.isEmpty then .error .empty
  else do
    match ← readOr (steps ts) ts with
    | (tree, []) => return tree
    | (_, token :: _) => .error (.unexpectedToken token)

def parse (expression : String) : Except Cause Constraint := tokens expression.toList >>= ofTokens

end Constraint

/-- A build line that is no constraint. -/
structure ConstraintError where
  expression : String
  cause : Constraint.Cause

def ConstraintError.message (e : ConstraintError) : String :=
  "invalid //go:build line " ++ Text.quote e.expression ++ ": " ++ e.cause.message

/-- The value of a build line in a context. -/
def evaluate (expression : String) (context : Context) : Except ConstraintError Bool :=
  match Constraint.parse expression with
  | .ok tree => .ok (tree.value context)
  | .error cause => .error ⟨expression, cause⟩

end SliceGrowth.Build
