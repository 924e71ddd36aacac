/-!
Blank characters and the cuts they make in a text. Everything is stated on lists of characters; the
functions on strings only pack and unpack.
-/
namespace SliceGrowth.Text

/-- Horizontal and vertical blanks of every script, the four information separators included. The
zero-width characters are no blanks. -/
def isBlank (c : Char) : Bool :=
  let code := c.toNat
  (0x9 ≤ code && code ≤ 0xD) || (0x1C ≤ code && code ≤ 0x20) || code == 0x85 || code == 0xA0 ||
    code == 0x1680 || (0x2000 ≤ code && code ≤ 0x200A) || code == 0x2028 || code == 0x2029 ||
    code == 0x202F || code == 0x205F || code == 0x3000

/-- The pieces between the characters that `cut` accepts; there is one piece more than cuts. -/
def pieces (cut : Char → Bool) : List Char → List (List Char)
  | [] => [[]]
  | c :: rest => if cut c then [] :: pieces cut rest else (pieces cut rest).modifyHead (c :: ·)

/-- The longest runs of characters that are not blank. -/
def wordsOf (cs : List Char) : List (List Char) :=
  (pieces isBlank cs).filter fun piece => !piece.isEmpty

def trimStart (cs : List Char) : List Char := cs.dropWhile isBlank

def trimEnd (cs : List Char) : List Char := (cs.reverse.dropWhile isBlank).reverse

/-- The text without blanks at either end. -/
def trim (s : String) : String := String.ofList (trimEnd (trimStart s.toList))

def words (s : String) : List String := (wordsOf s.toList).map String.ofList

/-- The text with its words run together. -/
def compact (s : String) : String := String.ofList (wordsOf s.toList).flatten

/-- The text with one space between its words and none around them. -/
def spaced (s : String) : String := " ".intercalate (words s)

/-- The parts between the occurrences of `sep`. -/
def splitAt (sep : Char) (s : String) : List String :=
  (pieces (· == sep) s.toList).map String.ofList

/-- The first word, and the trimmed text after it. -/
def firstWord? (s : String) : Option (String × String) :=
  match trimStart s.toList with
  | [] => none
  | cs =>
    let isInner := fun c => !isBlank c
    some (String.ofList (cs.takeWhile isInner), trim (String.ofList (cs.dropWhile isInner)))

end SliceGrowth.Text
