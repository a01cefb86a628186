import NodeShader.Guid
import NodeShader.Ron.Scan

/-! Strings, characters and bytes in a RON text. Escapes stand for characters, or for single bytes
of their encoding; raw strings have no escapes and end at a quote with as many hashes as they began
with. -/
namespace NodeShader.Ron

def hexNumber (digits : List Char) : Option Nat :=
  if digits.isEmpty || 6 < digits.length then none else Guid.readDigits digits

def isCodePoint (n : Nat) : Bool := n < 0xD800 || 0xDFFF < n && n < 0x110000

def plainEscapes : List (Char × Char) :=
  [('\'', '\''), ('"', '"'), ('\\', '\\'), ('n', '\n'), ('r', '\r'), ('t', '\t'), ('0', '\x00')]

def readEscape : Scan (Char ⊕ Nat)
  | 'x' :: a :: b :: rest => (Guid.readDigits [a, b]).map fun byte => (.inr byte, rest)
  | 'u' :: '\x7b' :: rest =>
    match hexNumber (rest.takeWhile (· ≠ '\x7d')), afterMark '\x7d' (rest.dropWhile (· ≠ '\x7d')) with
    | some code, some after =>
      if isCodePoint code then some (.inl (Char.ofNat code), after) else none
    | _, _ => none
  | c :: rest => (plainEscapes.lookup c).map fun plain => (.inl plain, rest)
  | [] => none

def encodedChar (bytes : List Nat) : Option Char :=
  let code := match bytes with
    | [a] => a
    | [a, b] => a % 32 * 64 + b % 64
    | [a, b, c] => (a % 16 * 64 + b % 64) * 64 + c % 64
    | [a, b, c, d] => ((a % 8 * 64 + b % 64) * 64 + c % 64) * 64 + d % 64
    | _ => 0
  let char := Char.ofNat code
  if (String.utf8EncodeChar char).map UInt8.toNat = bytes then some char else none

/-- Reads the bytes that are missing from a run to make a character, `room` at most. -/
def readEncoded : (room : Nat) → (run : List Nat) → Scan Char
  | 0, run => encodedChar run
  | room + 1, run =>
    match encodedChar run with
    | some c => return c
    | none => do
      .spelled "\\x"
      let byte ← Guid.readDigits [← .take, ← .take]
      readEncoded room (run ++ [byte])

/-- Reads an escape in a string. Bytes in a row encode a character. -/
def textEscape : Scan Char := do
  match ← readEscape with
  | .inl c => return c
  | .inr byte => readEncoded 3 [byte]

/-- Reads an escape in a string of bytes. -/
def byteEscape : Scan Char := do
  match ← readEscape with
  | .inl c => return c
  | .inr byte => return Char.ofNat byte

inductive StringFault where
  | malformed
  | unclosed

abbrev StringScan := List Char → Except StringFault (List Char × List Char)

/-- Reads up to a closing quote, in `room` steps at most. An escape that stands for nothing counts
only if a quote follows it. -/
def readQuoted (escape : Scan Char) : (room : Nat) → StringScan
  | 0, _ | _, [] => .error .unclosed
  | room + 1, c :: rest =>
    if c = '"' then .ok ([], rest)
    else if c = '\\' then
      match escape.run rest with
      | some (c, after) =>
        (readQuoted escape room after).map fun (body, rest) => (c :: body, rest)
      | none => .error (if rest.contains '"' then .malformed else .unclosed)
    else (readQuoted escape room rest).map fun (body, rest) => (c :: body, rest)

def rawQuoted (hashes : List Char) : StringScan
  | [] => .error .unclosed
  | c :: rest =>
    if c = '"' && hashes.isPrefixOf rest then .ok ([], rest.drop hashes.length)
    else (rawQuoted hashes rest).map fun (body, after) => (c :: body, after)

def readRaw : StringScan := fun text =>
  match afterMark '"' (text.dropWhile (· = '#')) with
  | some body => rawQuoted (text.takeWhile (· = '#')) body
  | none => .error .malformed

def readString : StringScan
  | '"' :: rest => readQuoted textEscape rest.length rest
  | 'r' :: rest => readRaw rest
  | _ => .error .malformed

def readBytes : StringScan
  | 'b' :: '"' :: rest => readQuoted byteEscape rest.length rest
  | 'b' :: 'r' :: rest => readRaw rest
  | _ => .error .malformed

namespace Scan

def text : Scan String := fun rest =>
  (readString rest).toOption.map fun (body, after) => (String.ofList body, after)

def bytes : Scan Unit := passing fun rest => (readBytes rest).toOption.map (·.2)

/-- Takes a string where there is a sound one; one that is not closed cannot be passed. -/
def past (string : StringScan) : Scan Unit := passing fun text =>
  match string text with
  | .ok (_, rest) => some rest
  | .error .malformed => some text
  | .error .unclosed => none

/-- Takes a character in quotes. A byte of an escape in it is a character of its own. -/
def char : Scan Unit := passing fun rest =>
  match rest with
  | '\'' :: '\\' :: rest => do
    let (item, after) ← readEscape rest
    match item with
    | .inl _ => afterMark '\'' after
    | .inr byte => if byte < 0x80 then afterMark '\'' after else none
  | '\'' :: _ :: '\'' :: rest => some rest
  | _ => none

def byte : Scan Nat := fun rest =>
  match rest with
  | 'b' :: '\'' :: '\\' :: 'u' :: _ => none
  | 'b' :: '\'' :: '\\' :: rest => do
    let (item, after) ← readEscape rest
    return (item.elim Char.toNat id, ← afterMark '\'' after)
  | 'b' :: '\'' :: c :: '\'' :: rest => if c.toNat < 0x80 then some (c.toNat, rest) else none
  | _ => none

end Scan
end NodeShader.Ron
