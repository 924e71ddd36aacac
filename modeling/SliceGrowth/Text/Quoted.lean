import SliceGrowth.Text.Printable

/-!
Quoted texts in messages: on one line, with every character told apart.
-/
namespace SliceGrowth.Text

/-- The lowest `digits` hexadecimal digits of a number, highest first. -/
def hex : (digits : Nat) → Nat → List Char
  | 0, _ => []
  | digits + 1, n => hex digits (n / 16) ++ [Nat.digitChar (n % 16)]

def escapeCode (code : Nat) : List Char :=
  if code ≤ 0xFF then '\\' :: 'x' :: hex 2 code
  else if code ≤ 0xFFFF then '\\' :: 'u' :: hex 4 code
  else '\\' :: 'U' :: hex 8 code

def quoteChar (mark c : Char) : List Char :=
  if c == mark || c == '\\' then ['\\', c]
  else if c == '\n' then ['\\', 'n']
  else if c == '\r' then ['\\', 'r']
  else if c == '\t' then ['\\', 't']
  else if isPrintable c then [c]
  else escapeCode c.toNat

/-- Single quotes stand around a text, and double ones only when it has single quotes and no double. -/
def quoteMark (cs : List Char) : Char :=
  if cs.contains '\'' && !cs.contains '"' then '"' else '\''

def quote (s : String) : String :=
  let mark := quoteMark s.toList
  String.ofList (mark :: s.toList.flatMap (quoteChar mark) ++ [mark])

end SliceGrowth.Text
