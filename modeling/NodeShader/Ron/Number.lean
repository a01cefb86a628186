import NodeShader.Ron.Literal
import NodeShader.Ron.Name
import NodeShader.Single.Decimal

/-! Numbers of a RON text. Integers are decimal, or to base 2, 8 or 16 after a marker; underscores
may stand between digits, and a suffix may name the type. -/
namespace NodeShader.Ron

def afterSign : List Char → List Char
  | '-' :: rest | '+' :: rest => rest
  | text => text

def integerBase : List Char → Nat × List Char
  | '0' :: 'x' :: rest => (16, rest)
  | '0' :: 'b' :: rest => (2, rest)
  | '0' :: 'o' :: rest => (8, rest)
  | text => (10, text)

def isIntegerChar (c : Char) : Bool := (Guid.hexValue c).isSome || c = '_'

def digitsToBase (base : Nat) (digits : List Char) : Option Nat :=
  if digits.isEmpty || digits.head? = some '_' then none
  else (digits.filter (· ≠ '_')).foldlM (fun value c => do
    let digit ← Guid.hexValue c
    if digit < base then some (base * value + digit) else none) 0

def isFloatChar (c : Char) : Bool :=
  c.isDigit || c = 'e' || c = 'E' || c = '.' || c = '+' || c = '-' || c = '_'

/-- Whether every underscore has a digit or exponent mark before it, signs aside, and no point. -/
def underscoresFit (allowed : Bool) : List Char → Bool
  | [] => true
  | '_' :: rest => allowed && underscoresFit allowed rest
  | '.' :: rest => underscoresFit false rest
  | c :: rest =>
    underscoresFit (if c = '+' || c = '-' then allowed else true) rest

/-- Whether a number runs on with what only a fraction or an exponent could hold. -/
def looksFloat (text : List Char) : Bool :=
  let body := afterSign text
  (body.takeWhile isIntegerChar).length < (body.takeWhile isFloatChar).length

structure IntegerType where
  suffix : String
  negative : Nat
  positive : Nat

namespace IntegerType

def signed (width : Nat) : IntegerType :=
  ⟨"i" ++ toString width, Nat.pow 2 (width - 1), Nat.pow 2 (width - 1) - 1⟩

def unsigned (width : Nat) : IntegerType := ⟨"u" ++ toString width, 0, Nat.pow 2 width - 1⟩

def all : List IntegerType := [8, 16, 32, 64].flatMap fun width => [signed width, unsigned width]

def any : IntegerType := ⟨"", Nat.pow 2 63, Nat.pow 2 64 - 1⟩

def holds (type : IntegerType) (isNegative : Bool) (magnitude : Nat) : Bool :=
  magnitude ≤ if isNegative then type.negative else type.positive

/-- The type that the suffix of a number names, and what follows it. The suffix stands after all
that could be a hexadecimal digit, so that only the marker of base 2 leaves room for one. -/
def ofSuffix (body : List Char) : Option (IntegerType × List Char) :=
  all.findSome? fun type =>
    ((Scan.word type.suffix).run (body.dropWhile isIntegerChar)).map fun found => (type, found.2)

end IntegerType

namespace Scan

/-- Reads an integer without its sign, of a type that fits the suffix, if there is one. -/
def magnitude (type : Option IntegerType → Option IntegerType) : Scan Nat := fun text => do
  let body := afterSign text
  let (base, digits) := integerBase body
  let magnitude ← digitsToBase base (digits.takeWhile isIntegerChar)
  let suffix := IntegerType.ofSuffix body
  let type ← type (suffix.map (·.1))
  if !type.holds (text.head? = some '-') magnitude then failure
  return (magnitude, (suffix.map (·.2)).getD (digits.dropWhile isIntegerChar))

/-- Reads a number from zero to below `2 ^ width`; a sign does not hurt zero, and a byte may be
spelled as a character. -/
def natural (width : Nat) : Scan Nat := do
  if ← isNext 'b' then
    if width = 8 then byte else failure
  else
    let wanted := IntegerType.unsigned width
    magnitude fun named =>
      if named.all fun type => type.suffix = wanted.suffix then some wanted else none

def integer : Scan Unit := do
  let _ ← magnitude fun named => some (named.getD .any)

def floatWord (suffixes : List String) : Scan Single := fun text =>
  ["inf", "+inf", "-inf", "NaN", "+NaN", "-NaN"].findSome? fun spelling =>
    suffixes.findSome? fun suffix => do
      return (← Single.read? spelling.toList, (← (word (spelling ++ suffix)).run text).2)

def floatDigits (suffixes : List String) : Scan Single := fun text => do
  let digits := text.takeWhile isFloatChar
  let after := text.dropWhile isFloatChar
  if !underscoresFit false digits then failure
  let number ← Single.read? (digits.filter (· ≠ '_'))
  return (number, (suffixes.findSome? fun suffix => do
    return (← (word suffix).run after).2).getD after)

def float (suffixes : List String) : Scan Single :=
  floatWord ("" :: suffixes) <|> floatDigits suffixes

def single : Scan Single := float ["f32"]

def number : Scan Unit := do
  let isFloat : Bool := looksFloat (← get)
  let float : Scan Unit := do let _ ← float ["f32", "f64"]
  if ← isNext 'b' then let _ ← byte
  else if isFloat then float
  else integer <|> float

end Scan
end NodeShader.Ron
