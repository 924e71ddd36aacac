/-!
Line breaks of every script.
-/
namespace SliceGrowth.Text

/-- Feeds, returns, the file, group and record separators, and the two Unicode separators. -/
def isLineBreak (c : Char) : Bool :=
  let code := c.toNat
  (0xA ≤ code && code ≤ 0xD) || (0x1C ≤ code && code ≤ 0x1E) || code == 0x85 ||
    code == 0x2028 || code == 0x2029

/-- The text up to its first line break; the empty text has no lines. -/
def firstLine? (s : String) : Option String :=
  match s.toList with
  | [] => none
  | cs => some (String.ofList (cs.takeWhile fun c => !isLineBreak c))

/-- Every way to end a line becomes a single line feed. -/
def unifyLineEnds : List Char → List Char
  | '\r' :: '\n' :: rest => '\n' :: unifyLineEnds rest
  | '\r' :: rest => '\n' :: unifyLineEnds rest
  | c :: rest => c :: unifyLineEnds rest
  | [] => []

end SliceGrowth.Text
