import SliceGrowth.Toml.Value

/-!
Texts, numbers, dates and times. A reader takes the front of a text and gives what it read and the rest;
what may follow is for the caller to say.
-/
namespace SliceGrowth.Toml

abbrev Reader (α : Type) := List Char → Option (α × List Char)

def isHex (c : Char) : Bool := c.isDigit || ('a' ≤ c && c ≤ 'f') || ('A' ≤ c && c ≤ 'F')

def hexValue (c : Char) : Nat :=
  if c.isDigit then c.toNat - '0'.toNat
  else if 'a' ≤ c then c.toNat - 'a'.toNat + 10
  else c.toNat - 'A'.toNat + 10

/-- Control characters, which no text and no comment may hold. -/
def isControl (c : Char) : Bool := (c.toNat < 32 && c != '\t') || c.toNat == 127

/-- The character that hexadecimal digits name. -/
def hexChar? (digits : List Char) : Option Char :=
  let code := digits.foldl (fun n c => n * 16 + hexValue c) 0
  if digits.all isHex && code.isValidChar then some (Char.ofNat code) else none

/-- What a backslash before a character stands for. -/
def escaped? : Char → Option Char
  | 'b' => some '\x08'
  | 't' => some '\t'
  | 'n' => some '\n'
  | 'f' => some '\x0c'
  | 'r' => some '\r'
  | '"' => some '"'
  | '\\' => some '\\'
  | _ => none

/-- An escape sequence after its backslash. -/
def readEscape : Reader Char
  | 'u' :: rest =>
    if (rest.take 4).length == 4 then (hexChar? (rest.take 4)).map (·, rest.drop 4) else none
  | 'U' :: rest =>
    if (rest.take 8).length == 8 then (hexChar? (rest.take 8)).map (·, rest.drop 8) else none
  | c :: rest => (escaped? c).map (·, rest)
  | [] => none

def isSpace (c : Char) : Bool := c == ' ' || c == '\t'

def isSpaceOrBreak (c : Char) : Bool := isSpace c || c == '\n'

/-- A backslash at the end of a line takes the blanks of the lines after it with it. -/
def joinedLine? (rest : List Char) : Option (List Char) :=
  match rest with
  | c :: _ =>
    if isSpaceOrBreak c then
      match rest.dropWhile isSpace with
      | [] => some []
      | '\n' :: more => some (more.dropWhile isSpaceOrBreak)
      | _ => none
    else none
  | [] => none

/-- Up to the closing quote of a text on one line. The steps bound the characters read. -/
def readQuoted : (steps : Nat) → Reader (List Char)
  | 0, _ => none
  | _ + 1, [] => none
  | _ + 1, '"' :: rest => some ([], rest)
  | n + 1, '\\' :: rest => do
    let (c, rest) ← readEscape rest
    let (cs, rest) ← readQuoted n rest
    return (c :: cs, rest)
  | n + 1, c :: rest =>
    if isControl c then none
    else do
      let (cs, rest) ← readQuoted n rest
      return (c :: cs, rest)

/-- Up to two quotes may stand right before the three that close a text on several lines. -/
def closingExtra (mark : Char) : List Char → List Char × List Char
  | a :: b :: rest =>
    if a == mark && b == mark then ([a, b], rest)
    else if a == mark then ([a], b :: rest)
    else ([], a :: b :: rest)
  | [a] => if a == mark then ([a], []) else ([], [a])
  | [] => ([], [])

/-- Up to the three closing quotes of a text on several lines. -/
def readQuotedLines : (steps : Nat) → Reader (List Char)
  | 0, _ => none
  | _ + 1, [] => none
  | _ + 1, '"' :: '"' :: '"' :: rest => some (closingExtra '"' rest)
  | n + 1, '\\' :: rest =>
    match joinedLine? rest with
    | some rest => readQuotedLines n rest
    | none => do
      let (c, rest) ← readEscape rest
      let (cs, rest) ← readQuotedLines n rest
      return (c :: cs, rest)
  | n + 1, c :: rest =>
    if isControl c && c != '\n' then none
    else do
      let (cs, rest) ← readQuotedLines n rest
      return (c :: cs, rest)

def readLiteral : Reader (List Char)
  | [] => none
  | '\'' :: rest => some ([], rest)
  | c :: rest =>
    if isControl c then none
    else do
      let (cs, rest) ← readLiteral rest
      return (c :: cs, rest)

def readLiteralLines : Reader (List Char)
  | [] => none
  | '\'' :: '\'' :: '\'' :: rest => some (closingExtra '\'' rest)
  | c :: rest =>
    if isControl c && c != '\n' then none
    else do
      let (cs, rest) ← readLiteralLines rest
      return (c :: cs, rest)

/-- A line break right after the opening quotes is no part of the text. -/
def dropFirstBreak : List Char → List Char
  | '\n' :: rest => rest
  | cs => cs

/-- A text in one of its four forms. -/
def readText : Reader String
  | '"' :: '"' :: '"' :: rest =>
    (readQuotedLines (rest.length + 1) (dropFirstBreak rest)).map fun (cs, rest) => (String.ofList cs, rest)
  | '"' :: rest => (readQuoted (rest.length + 1) rest).map fun (cs, rest) => (String.ofList cs, rest)
  | '\'' :: '\'' :: '\'' :: rest =>
    (readLiteralLines (dropFirstBreak rest)).map fun (cs, rest) => (String.ofList cs, rest)
  | '\'' :: rest => (readLiteral rest).map fun (cs, rest) => (String.ofList cs, rest)
  | _ => none

/-- One or more digits, with single underscores between them. -/
def readDigits (isDigit : Char → Bool) : Reader (List Char)
  | [] => none
  | c :: '_' :: rest =>
    if !isDigit c then none
    else match readDigits isDigit rest with
      | some (cs, rest) => some (c :: cs, rest)
      | none => some ([c], '_' :: rest)
  | c :: rest =>
    if !isDigit c then none
    else match readDigits isDigit rest with
      | some (cs, rest) => some (c :: cs, rest)
      | none => some ([c], rest)

def numberOf (base : Nat) (digits : List Char) : Nat :=
  digits.foldl (fun n c => n * base + hexValue c) 0

def isBinary (c : Char) : Bool := c == '0' || c == '1'

def isOctal (c : Char) : Bool := '0' ≤ c && c ≤ '7'

/-- A number written in base sixteen, two or eight. -/
def readBased : Reader Value
  | '0' :: 'x' :: rest => (readDigits isHex rest).map fun (ds, rest) => (.integer (numberOf 16 ds), rest)
  | '0' :: 'b' :: rest => (readDigits isBinary rest).map fun (ds, rest) => (.integer (numberOf 2 ds), rest)
  | '0' :: 'o' :: rest => (readDigits isOctal rest).map fun (ds, rest) => (.integer (numberOf 8 ds), rest)
  | _ => none

/-- Digits without a leading zero. -/
def readWhole : Reader (List Char)
  | '0' :: rest => some (['0'], rest)
  | cs => readDigits Char.isDigit cs

/-- The text after a fraction, if there is one. -/
def pastFraction? : List Char → Option (List Char)
  | '.' :: rest => (readDigits Char.isDigit rest).map Prod.snd
  | _ => none

def pastSign : List Char → List Char
  | '+' :: rest => rest
  | '-' :: rest => rest
  | cs => cs

/-- The text after an exponent, if there is one. -/
def pastExponent? : List Char → Option (List Char)
  | c :: rest =>
    if c == 'e' || c == 'E' then (readDigits Char.isDigit (pastSign rest)).map Prod.snd else none
  | [] => none

def readDecimal (cs : List Char) : Option (Value × List Char) := do
  let (digits, rest) ← readWhole (pastSign cs)
  let fraction? := pastFraction? rest
  let afterFraction := fraction?.getD rest
  let exponent? := pastExponent? afterFraction
  if fraction?.isSome || exponent?.isSome then return (.float, exponent?.getD afterFraction)
  let n : Int := numberOf 10 digits
  return (.integer (if cs.head? == some '-' then -n else n), rest)

/-- The infinities and the number that is none. -/
def readSpecial (cs : List Char) : Option (Value × List Char) :=
  let rest := pastSign cs
  if rest.take 3 == ['i', 'n', 'f'] || rest.take 3 == ['n', 'a', 'n'] then some (.float, rest.drop 3)
  else none

/-- A number of exactly so many digits. -/
def readCount (digits : Nat) (cs : List Char) : Option (Nat × List Char) :=
  let taken := cs.take digits
  if taken.length == digits && taken.all Char.isDigit then some (numberOf 10 taken, cs.drop digits)
  else none

def readMark (mark : Char) : List Char → Option (List Char)
  | c :: rest => if c == mark then some rest else none
  | [] => none

/-- The text after a time of day, if there is one. -/
def pastTime? (cs : List Char) : Option (List Char) := do
  let (hour, rest) ← readCount 2 cs
  let rest ← readMark ':' rest
  let (minute, rest) ← readCount 2 rest
  let rest ← readMark ':' rest
  let (second, rest) ← readCount 2 rest
  guard (hour < 24 && minute < 60 && second < 60)
  match rest with
  | '.' :: c :: more => return if c.isDigit then more.dropWhile Char.isDigit else rest
  | _ => return rest

/-- The text after an offset from universal time, if there is one. -/
def pastOffset? : List Char → Option (List Char)
  | c :: rest => do
    if c == 'Z' || c == 'z' then return rest
    guard (c == '+' || c == '-')
    let (hour, rest) ← readCount 2 rest
    let rest ← readMark ':' rest
    let (minute, rest) ← readCount 2 rest
    guard (hour < 24 && minute < 60)
    return rest
  | [] => none

def isLeap (year : Nat) : Bool := year % 4 == 0 && (year % 100 != 0 || year % 400 == 0)

def daysIn (year month : Nat) : Nat :=
  if month == 2 then if isLeap year then 29 else 28
  else if month == 4 || month == 6 || month == 9 || month == 11 then 30
  else 31

/-- The form of a date, and whether there is such a day. -/
def readDate (cs : List Char) : Option (Bool × List Char) := do
  let (year, rest) ← readCount 4 cs
  let rest ← readMark '-' rest
  let (month, rest) ← readCount 2 rest
  let rest ← readMark '-' rest
  let (day, rest) ← readCount 2 rest
  guard (1 ≤ month && month ≤ 12 && 1 ≤ day && day ≤ 31)
  return (0 < year && day ≤ daysIn year month, rest)

/-- The text after the time and the offset that may follow a date. -/
def pastTimeOfDate (cs : List Char) : List Char :=
  match cs with
  | c :: rest =>
    if c == 'T' || c == 't' || c == ' ' then
      match pastTime? rest with
      | some rest => (pastOffset? rest).getD rest
      | none => cs
    else cs
  | [] => []

/-- A number, a date or a time. Nothing else is tried for what has the form of a date. -/
def readNumberOrMoment (cs : List Char) : Option (Value × List Char) :=
  match readDate cs with
  | some (true, rest) => some (.moment, pastTimeOfDate rest)
  | some (false, _) => none
  | none =>
    match pastTime? cs with
    | some rest => some (.moment, rest)
    | none => (readBased cs).or ((readDecimal cs).or (readSpecial cs))

end SliceGrowth.Toml
