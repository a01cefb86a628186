/-! Lines of text. A line ends at a line feed, and a carriage return right before the line feed
belongs to the end; text after the last line feed is a line of its own unless it is empty. -/
namespace NodeShader.Text

def isBlank (c : Char) : Bool :=
  let n := c.toNat
  9 ≤ n && n ≤ 13 || n = 0x20 || n = 0x85 || n = 0xA0 || n = 0x1680 ||
    0x2000 ≤ n && n ≤ 0x200A || n = 0x2028 || n = 0x2029 || n = 0x202F || n = 0x205F || n = 0x3000

/-- The line whose characters, last one first, stood before a line feed. -/
def endedLine : List Char → List Char
  | '\r' :: earlier => earlier.reverse
  | earlier => earlier.reverse

def linesAfter (earlier : List Char) : List Char → List (List Char)
  | [] => if earlier.isEmpty then [] else [earlier.reverse]
  | '\n' :: rest => endedLine earlier :: linesAfter [] rest
  | c :: rest => linesAfter (c :: earlier) rest

def lines (text : List Char) : List (List Char) := linesAfter [] text

def trimEnd (text : List Char) : List Char :=
  (text.reverse.dropWhile isBlank).reverse

end NodeShader.Text
