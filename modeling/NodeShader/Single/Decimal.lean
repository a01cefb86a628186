import NodeShader.Single

/-! Decimal text of single-precision numbers. Reading rounds to the nearest number, ties to the
even significand. Writing gives the fewest digits that read back, of those the nearest, and never
uses an exponent. -/
namespace NodeShader.Single

/-- The quotient rounded to the nearest integer, a tie to the even one. -/
def roundedQuotient (dividend divisor : Nat) : Nat :=
  let quotient := dividend / divisor
  let twice := 2 * (dividend % divisor)
  if twice < divisor then quotient
  else if divisor < twice then quotient + 1
  else quotient + quotient % 2

def infinityPattern : Nat := 255 * Nat.pow 2 23

/-- The pattern nearest to a quotient: the significand keeps 24 bits, and a carry out of it runs
into the exponent, up to infinity. -/
def nearestPattern (dividend divisor : Nat) : Nat :=
  let steps := dividend * Nat.pow 2 149
  let shift := Nat.log2 (steps / divisor) - 23
  min (shift * Nat.pow 2 23 + roundedQuotient steps (divisor * Nat.pow 2 shift)) infinityPattern

/-- The pattern nearest to `digits * 10 ^ exponent`. Far outside the range the answer is known
without computing the power. -/
def decimalPattern (digits : Nat) (exponent : Int) : Nat :=
  if digits = 0 then 0
  else match exponent with
    | .ofNat power =>
      if 39 < power then infinityPattern else nearestPattern (digits * Nat.pow 10 power) 1
    | .negSucc power =>
      if Nat.log2 digits + 1 ≤ 3 * (power + 1 - 50) then 0
      else nearestPattern digits (Nat.pow 10 (power + 1))

def signed (negative : Bool) (pattern : Nat) : Single :=
  ⟨UInt32.ofNat (if negative then Nat.pow 2 31 + pattern else pattern)⟩

def ofDecimal (negative : Bool) (digits : Nat) (exponent : Int) : Single :=
  signed negative (decimalPattern digits exponent)

def infinity (negative : Bool) : Single := signed negative infinityPattern

def notANumber (negative : Bool) : Single := signed negative (infinityPattern + Nat.pow 2 22)

def digitValue (c : Char) : Nat := c.toNat - '0'.toNat

def digitsValue (digits : List Char) : Nat :=
  digits.foldl (fun value c => 10 * value + digitValue c) 0

def readExponent (text : List Char) : Option Int :=
  let (negative, digits) := match text with
    | '-' :: rest => (true, rest)
    | '+' :: rest => (false, rest)
    | rest => (false, rest)
  if digits.isEmpty || !digits.all Char.isDigit then none
  else some (if negative then -(digitsValue digits : Int) else digitsValue digits)

/-- Digits with at most one point and an optional exponent; one side of the point may be empty. -/
def readUnsigned (negative : Bool) (text : List Char) : Option Single :=
  let whole := text.takeWhile Char.isDigit
  let afterWhole := text.dropWhile Char.isDigit
  let (part, rest) := match afterWhole with
    | '.' :: more => (more.takeWhile Char.isDigit, more.dropWhile Char.isDigit)
    | more => ([], more)
  if whole.isEmpty && part.isEmpty then none
  else
    let finish (power : Int) : Single :=
      ofDecimal negative (digitsValue (whole ++ part)) (power - part.length)
    match rest with
    | [] => some (finish 0)
    | c :: power => if c = 'e' || c = 'E' then (readExponent power).map finish else none

def readMagnitude (negative : Bool) (text : List Char) : Option Single :=
  let word := text.map Char.toLower
  if word = "inf".toList || word = "infinity".toList then some (infinity negative)
  else if word = "nan".toList then some (notANumber negative)
  else readUnsigned negative text

def read? (text : List Char) : Option Single :=
  match text with
  | '-' :: rest => readMagnitude true rest
  | '+' :: rest => readMagnitude false rest
  | rest => readMagnitude false rest

/-- Four times the magnitude in smallest steps, with the distances to the two ends of the range of
reals that round to it: half a step up, half a step down, a quarter at a power of two. -/
def quarters (x : Single) : Nat × Nat × Nat :=
  let unit := Nat.pow 2 x.shift
  let below := if x.fraction = 0 && x.exponent ≠ 0 then unit else 2 * unit
  (4 * x.significand * unit, below, 2 * unit)

/-- Whether `count * 10 ^ power` rounds to `x`; the ends belong to an even significand. -/
def roundsBack (x : Single) (count : Nat) (power : Int) : Bool :=
  let (middle, below, above) := x.quarters
  let (scaled, unit) := match power with
    | .ofNat n => (count * Nat.pow 10 n * Nat.pow 2 151, 1)
    | .negSucc n => (count * Nat.pow 2 151, Nat.pow 10 (n + 1))
  if x.significand % 2 = 0 then
    (middle - below) * unit ≤ scaled && scaled ≤ (middle + above) * unit
  else (middle - below) * unit < scaled && scaled < (middle + above) * unit

/-- The multiple of `10 ^ power` that stands for `x`, if one rounds back to it: the nearer of the
two neighbours, the upper one on a tie. -/
def onGrid (x : Single) (power : Int) : Option Nat :=
  let middle := x.quarters.1
  let (dividend, divisor) := match power with
    | .ofNat n => (middle, Nat.pow 10 n * Nat.pow 2 151)
    | .negSucc n => (middle * Nat.pow 10 (n + 1), Nat.pow 2 151)
  let lower := dividend / divisor
  let upper := lower + 1
  match x.roundsBack lower power, x.roundsBack upper power with
  | true, true => some (if 2 * (dividend % divisor) < divisor then lower else upper)
  | true, false => some lower
  | false, true => some upper
  | false, false => none

/-- The digits and the power of ten of the shortest decimal; coarse grids come first. -/
def shortest (x : Single) : Nat × Int :=
  ((List.range 90).findSome? fun (step : Nat) =>
    let power : Int := 38 - (step : Int)
    (x.onGrid power).map fun count => (count, power)).getD (0, 0)

def decimalDigits (n : Nat) : List Char := Nat.toDigits 10 n

def placed (count : Nat) (power : Int) : List Char :=
  match power with
  | .ofNat zeros => decimalDigits count ++ List.replicate zeros '0'
  | .negSucc n =>
    let places := n + 1
    let digits := decimalDigits count
    let padded := List.replicate (places + 1 - digits.length) '0' ++ digits
    padded.take (padded.length - places) ++ '.' :: padded.drop (padded.length - places)

def magnitude (x : Single) : List Char :=
  if x.isZero then ['0'] else placed x.shortest.1 x.shortest.2

def text (x : Single) : String :=
  if x.isNaN then "NaN"
  else
    let sign := if x.negative then "-" else ""
    if x.isInfinite then sign ++ "inf" else sign ++ String.ofList x.magnitude

/-- The text with a fraction: whole numbers end in `.0`, and the sign of a non-number shows. -/
def fractionText (x : Single) : String :=
  if x.isNaN then (if x.negative then "-NaN" else "NaN")
  else if x.isInfinite || x.magnitude.contains '.' then x.text
  else x.text ++ ".0"

end NodeShader.Single
