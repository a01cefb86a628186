/-! Globally unique ids: 128 bits, written as 32 lower-case hexadecimal digits, in the usual form
with hyphens after the 8th, 12th, 16th and 20th. -/
namespace NodeShader

structure Guid where
  high : UInt64
  low : UInt64
deriving DecidableEq

namespace Guid

instance : Inhabited Guid := ⟨0, 0⟩

def hexDigits : (count : Nat) → (n : Nat) → List Char
  | 0, _ => []
  | count + 1, n => hexDigits count (n / 16) ++ [Nat.digitChar (n % 16)]

def digits (id : Guid) : List Char := hexDigits 16 id.high.toNat ++ hexDigits 16 id.low.toNat

def simple (id : Guid) : String := String.ofList id.digits

def short (id : Guid) : String := String.ofList (id.digits.take 8)

def hyphenated (digits : List Char) : List Char :=
  digits.take 8 ++ '-' :: (digits.drop 8).take 4 ++ '-' :: (digits.drop 12).take 4 ++
    '-' :: (digits.drop 16).take 4 ++ '-' :: digits.drop 20

def text (id : Guid) : String := String.ofList (hyphenated id.digits)

def hexValue (c : Char) : Option Nat :=
  if '0' ≤ c ∧ c ≤ '9' then some (c.toNat - '0'.toNat)
  else if 'a' ≤ c ∧ c ≤ 'f' then some (c.toNat - 'a'.toNat + 10)
  else if 'A' ≤ c ∧ c ≤ 'F' then some (c.toNat - 'A'.toNat + 10)
  else none

def readDigits (digits : List Char) : Option Nat :=
  digits.foldlM (fun value c => (hexValue c).map (16 * value + ·)) 0

def readSimple (digits : List Char) : Option Guid := do
  if digits.length ≠ 32 then none
  let high ← readDigits (digits.take 16)
  let low ← readDigits (digits.drop 16)
  return ⟨UInt64.ofNat high, UInt64.ofNat low⟩

def readHyphenated (text : List Char) : Option Guid :=
  let digits := text.filter (· ≠ '-')
  if text = hyphenated digits then readSimple digits else none

def scheme : List Char := "urn:uuid:".toList

/-- Reads 32 digits bare, or the hyphenated form bare, in braces or after the URN scheme; letters
may be of either case. -/
def read? (text : List Char) : Option Guid :=
  if text.length = 32 then readSimple text
  else if (text.take scheme.length).map Char.toLower = scheme then
    readHyphenated (text.drop scheme.length)
  else match text with
    | '{' :: rest => if rest.getLast? = some '}' then readHyphenated rest.dropLast else none
    | _ => readHyphenated text

end Guid
end NodeShader
