import NodeShader.Ron.Bracket
import NodeShader.Ron.Number

/-! Passing over a value that nobody asks for. Its type is not known, so what it is shows in its
spelling alone. -/
namespace NodeShader.Ron.Skip
open Scan

structure Inner where
  optional : (bare : Bool) → Scan Unit
  item : Scan Unit

namespace Inner

def list (inner : Inner) : Scan Unit := discard (enclosed '[' ']' (items ']' inner.item))

def map (inner : Inner) : Scan Unit :=
  discard (enclosed '\x7b' '\x7d' (items '\x7d' (paired inner.item fun _ => inner.item)))

def fields (inner : Inner) (bare : Bool) : Scan Unit :=
  discard (parenthesized bare (items ')' (paired name fun _ => inner.item)))

def tuple (inner : Inner) (bare : Bool) : Scan Unit :=
  discard (parenthesized bare (items ')' inner.item))

/-- Parentheses hold fields if a name and a colon come first. -/
def parentheses (inner : Inner) : Scan Unit := do
  let named ← follows do
    mark '('
    blanks
    discard anyName
    blanks
    mark ':'
  if named then inner.fields false else inner.tuple false

end Inner

def constant : Scan Unit :=
  ["true", "false", "None", "inf", "inff32", "inff64", "NaN", "NaNf32", "NaNf64"].firstM word

def literal : Scan Unit := discard text <|> bytes <|> char <|> number

/-- Skips a value; where nothing may be nested any more, there is no `inner`. -/
def plain (dialect : Dialect) (inner : Option Inner) : Scan Unit := do
  if ← found (constant <|> spelled "()") then return
  else if ← follows (word "Some") then discard (optional dialect false (← inner).optional)
  else if ← found (discard anyName) then
    blanks
    if ← isNext '(' then (← inner).parentheses
  else match ← next with
    | some '(' => (← inner).parentheses
    | some '[' => (← inner).list
    | some '\x7b' => (← inner).map
    | _ => literal

inductive Content where
  | fields
  | items
  | value

/-- What a comma after the first of some items tells: one item may have it, too. -/
def afterFirst : Scan Content := do
  blanks
  if ← isNext ')' then return .value else return .items

def opens (c : Char) : Bool := c = '(' || c = '[' || c = '\x7b'

def closes (c : Char) : Bool := c = ')' || c = ']' || c = '\x7d'

/-- Looks for a comma between the brackets around a bare value, `depth` of which are open. Comments,
strings and characters may hold brackets of their own; `room` bounds the number of steps. -/
def findComma : (room depth : Nat) → Scan Content
  | 0, _ => failure
  | room + 1, depth => do
    blanks
    let _ ← found char
    past readString
    past readBytes
    let c ← take
    if opens c then findComma room (depth + 1)
    else if closes c then if depth = 1 then return .value else findComma room (depth - 1)
    else if c = ',' && depth = 1 then afterFirst
    else findComma room depth

def bareContent : Scan Content := do
  blanks
  let named ← found (discard anyName)
  if named then blanks
  if named && (← isNext ':') then return .fields
  else if named && (← isNext ')') then return .value
  else if named && (← found (mark ',')) then afterFirst
  else findComma ((← get).length + 1) 1

def bare (dialect : Dialect) (inner : Option Inner) : Scan Unit := do
  if ← isNext ')' then return
  else match ← ahead bareContent with
    | .fields => (← inner).fields true
    | .items => (← inner).tuple true
    | .value => plain dialect inner

end Skip

/-- Skips a value with at most `room` levels. What is optional nests by one level, what stands in
brackets by two. -/
def Scan.skip (dialect : Dialect) (room : Nat) (bare : Bool) : Scan Unit :=
  let inner : Option Skip.Inner := match room with
    | 0 => none
    | 1 => some ⟨Scan.skip dialect 0, failure⟩
    | room + 2 => some ⟨Scan.skip dialect (room + 1), Scan.skip dialect room false⟩
  if bare then Skip.bare dialect inner else Skip.plain dialect inner

end NodeShader.Ron
