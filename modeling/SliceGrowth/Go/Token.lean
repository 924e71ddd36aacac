import SliceGrowth.Syntax.Node
import SliceGrowth.Text.IdentifierChar
import SliceGrowth.Text.Utf8

/-!
Tokens of Go source. Cutting never fails: a character that begins no token is a token of its own, which
no phrase accepts.
-/
namespace SliceGrowth.Go

inductive TokenKind where
  | word
  | sign
  | int
  | float
  | imaginary
  | rune
  | rawString
  | string
  | comment
  | blank
  | invalid
deriving DecidableEq

structure Token where
  kind : TokenKind
  text : String
  span : Syntax.Span
  /-- A line break stands between the token before and this one. -/
  freshLine : Bool

/-! Each measure gives the length of what a text begins with, and zero if it begins otherwise. -/

/-- Digits, with single underscores between them. -/
def digitsLength (isDigit : Char → Bool) : List Char → Nat
  | [] => 0
  | c :: '_' :: rest =>
    let next := digitsLength isDigit rest
    if !isDigit c then 0 else if next == 0 then 1 else next + 2
  | c :: rest => if isDigit c then digitsLength isDigit rest + 1 else 0

/-- Digits that one underscore may precede. -/
def markedDigitsLength (isDigit : Char → Bool) : List Char → Nat
  | '_' :: rest =>
    let next := digitsLength isDigit rest
    if next == 0 then 0 else next + 1
  | cs => digitsLength isDigit cs

def isBinaryDigit (c : Char) : Bool := c == '0' || c == '1'

def isOctalDigit (c : Char) : Bool := '0' ≤ c && c ≤ '7'

def isHexDigit (c : Char) : Bool := c.isDigit || ('a' ≤ c && c ≤ 'f') || ('A' ≤ c && c ≤ 'F')

def intLength : List Char → Nat
  | '0' :: rest =>
    match rest with
    | [] => 1
    | mark :: more =>
      let based := fun isDigit =>
        let next := markedDigitsLength isDigit more
        if next == 0 then 1 else next + 2
      if mark == 'x' || mark == 'X' then based isHexDigit
      else if mark == 'b' || mark == 'B' then based isBinaryDigit
      else if mark == 'o' || mark == 'O' then based isOctalDigit
      else markedDigitsLength isOctalDigit rest + 1
  | c :: rest => if c.isDigit then markedDigitsLength Char.isDigit rest + 1 else 0
  | [] => 0

/-- An exponent after one of two letters. -/
def exponentLength (small large : Char) : List Char → Nat
  | c :: rest =>
    if c == small || c == large then
      let signed := match rest with
        | '+' :: _ => 1
        | '-' :: _ => 1
        | _ => 0
      let next := digitsLength Char.isDigit (rest.drop signed)
      if next == 0 then 0 else next + signed + 1
    else 0
  | [] => 0

def decimalFloatLength (cs : List Char) : Nat :=
  let whole := digitsLength Char.isDigit cs
  match cs.drop whole with
  | '.' :: rest =>
    let part := digitsLength Char.isDigit rest
    if whole + part == 0 then 0
    else whole + 1 + part + exponentLength 'e' 'E' (rest.drop part)
  | rest =>
    let exponent := exponentLength 'e' 'E' rest
    if whole == 0 || exponent == 0 then 0 else whole + exponent

def hexFloatLength : List Char → Nat
  | '0' :: mark :: rest =>
    if mark == 'x' || mark == 'X' then
      let whole := markedDigitsLength isHexDigit rest
      let mantissa := match rest.drop whole with
        | '.' :: more =>
          let part := digitsLength isHexDigit more
          if whole + part == 0 then 0 else whole + 1 + part
        | _ => whole
      let exponent := exponentLength 'p' 'P' (rest.drop mantissa)
      if mantissa == 0 || exponent == 0 then 0 else mantissa + exponent + 2
    else 0
  | _ => 0

def floatLength (cs : List Char) : Nat := max (decimalFloatLength cs) (hexFloatLength cs)

def imaginaryLength (cs : List Char) : Nat :=
  let ending := fun length => if length > 0 && cs[length]? == some 'i' then length + 1 else 0
  max (ending (digitsLength Char.isDigit cs)) (max (ending (intLength cs)) (ending (floatLength cs)))

/-- Hexadecimal digits, exactly as many as asked for. -/
def hasHexDigits (count : Nat) (cs : List Char) : Bool :=
  (cs.take count).length == count && (cs.take count).all isHexDigit

/-- What may follow a backslash between single quotes. -/
def runeEscapeLength : List Char → Nat
  | 'x' :: rest => if hasHexDigits 2 rest then 3 else 0
  | 'u' :: rest => if hasHexDigits 4 rest then 5 else 0
  | 'U' :: rest => if hasHexDigits 8 rest then 9 else 0
  | cs =>
    match cs with
    | a :: b :: c :: _ =>
      if isOctalDigit a && isOctalDigit b && isOctalDigit c then 3
      else if "abfnrtv\\'\"".toList.contains a then 1
      else 0
    | a :: _ => if "abfnrtv\\'\"".toList.contains a then 1 else 0
    | [] => 0

def runeLength : List Char → Nat
  | '\'' :: '\\' :: rest =>
    let escape := runeEscapeLength rest
    if escape > 0 && rest[escape]? == some '\'' then escape + 3 else 0
  | '\'' :: c :: '\'' :: _ => if c == '\'' || c == '\x00' then 0 else 3
  | _ => 0

/-- Up to the closing quote, which is on the same line. -/
def stringRest? : List Char → Option Nat
  | [] => none
  | '"' :: _ => some 1
  | '\n' :: _ => none
  | '\x00' :: _ => none
  | '\\' :: c :: rest =>
    let wellFormed :=
      if c == 'x' then hasHexDigits 2 rest
      else if c == 'u' then hasHexDigits 4 rest
      else if c == 'U' then hasHexDigits 8 rest
      else c != '\x00'
    if wellFormed then (stringRest? rest).map (· + 2) else none
  | _ :: rest => (stringRest? rest).map (· + 1)

/-- Up to the end mark of a general comment. -/
def commentRest? : List Char → Option Nat
  | [] => none
  | '\x00' :: _ => none
  | '*' :: '/' :: _ => some 2
  | _ :: rest => (commentRest? rest).map (· + 1)

def signs : List (List Char) :=
  ["...", "<<=", ">>=", "&^=", "&&", "||", "<-", "++", "--", "==", "!=", "<=", ">=", ":=", "+=", "-=",
    "*=", "/=", "%=", "&=", "|=", "^=", "<<", ">>", "&^", "+", "-", "*", "/", "%", "&", "|", "^", "<",
    ">", "=", "!", "(", ")", "[", "]", "\x7b", "\x7d", ",", ";", ".", ":", "~", "\x00"].map String.toList

def isBlankChar (c : Char) : Bool := c == ' ' || ('\t' ≤ c && c ≤ '\r')

def numberAt (cs : List Char) : TokenKind × Nat :=
  let int := intLength cs
  let float := floatLength cs
  let imaginary := imaginaryLength cs
  if imaginary > 0 then (.imaginary, imaginary)
  else if float > int then (.float, float)
  else (.int, int)

/-- The kind and the length of the token that a text begins with. -/
def tokenAt (cs : List Char) : TokenKind × Nat :=
  match cs with
  | [] => (.invalid, 0)
  | '/' :: '/' :: _ => (.comment, (cs.takeWhile fun c => c != '\n' && c != '\x00').length)
  | c :: rest =>
    let number := numberAt cs
    if isBlankChar c then (.blank, 1)
    else if Text.isIdentifierStart c then (.word, (rest.takeWhile Text.isIdentifierPart).length + 1)
    else if number.2 > 0 then number
    else if c == '"' then
      match stringRest? rest with
      | some length => (.string, length + 1)
      | none => (.invalid, 1)
    else if c == '\x60' then
      let length := (rest.takeWhile fun c => c != '\x60' && c != '\x00').length
      if rest[length]? == some '\x60' then (.rawString, length + 2) else (.invalid, 1)
    else if runeLength cs > 0 then (.rune, runeLength cs)
    else
      match c, rest with
      | '/', '*' :: more =>
        match commentRest? more with
        | some length => (.comment, length + 2)
        | none => (.sign, 1)
      | _, _ =>
        match signs.find? (·.isPrefixOf cs) with
        | some sign => (.sign, sign.length)
        | none => (.invalid, 1)

/-- A place in the source, all counted from zero. -/
structure Place where
  offset : Nat := 0
  row : Nat := 0
  column : Nat := 0

def Place.past (place : Place) (c : Char) (size : Nat) : Place :=
  if c == '\n' then { offset := place.offset + size, row := place.row + 1, column := 0 }
  else { place with offset := place.offset + size, column := place.column + size }

/-- The place after some characters, given the number of bytes of each. -/
def Place.pastAll (place : Place) (cs : List Char) (sizes : List Nat) : Place :=
  (cs.zip sizes).foldl (fun place (c, size) => place.past c size) place

/-- Cuts characters into tokens and comments, given the number of bytes of each character. -/
def cutTokens (place : Place) (freshLine : Bool) : (cs : List Char) → (sizes : List Nat) → List Token
  | [], _ => []
  | first :: rest, sizes =>
    let cs := first :: rest
    let (kind, found) := tokenAt cs
    let length := max 1 found
    let next := place.pastAll (cs.take length) sizes
    let others := fun fresh => cutTokens next fresh (rest.drop (length - 1)) (sizes.drop length)
    if kind == .blank then others (freshLine || next.row > place.row)
    else
      { kind := kind
        text := String.ofList (cs.take length)
        span := { start := place.offset, stop := next.offset, row := place.row, column := place.column }
        freshLine := freshLine } :: others (freshLine && kind == .comment)
termination_by cs => cs.length
decreasing_by
  simp only [List.length_drop, List.length_cons]
  omega

/-- The tokens of a source; a byte order mark in front is passed over. -/
def tokens (source : ByteArray) : List Token :=
  let glyphs := Text.glyphs source
  let cs := glyphs.map (·.shown)
  let sizes := glyphs.map (·.size)
  match cs, sizes with
  | '\uFEFF' :: cs, size :: sizes => cutTokens (Place.past {} '\uFEFF' size) false cs sizes
  | _, _ => cutTokens {} false cs sizes

end SliceGrowth.Go
