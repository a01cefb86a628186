import NodeShader.Ron.Blank
import NodeShader.Ron.Name

/-! Extensions of RON, which a text enables at its head. -/
namespace NodeShader.Ron

structure Dialect where
  /-- A value may stand for `Some` of it. -/
  implicitSome : Bool
  /-- A struct of one nameless field is written as the field. -/
  bareNewtypes : Bool
  /-- What a variant holds is written without parentheses of its own. -/
  bareVariants : Bool
  /-- A struct is not written without its name. -/
  explicitNames : Bool
deriving DecidableEq

namespace Dialect

def standard : Dialect := ⟨false, false, false, false⟩

def enable (dialect : Dialect) : String → Option Dialect
  | "implicit_some" => some { dialect with implicitSome := true }
  | "unwrap_newtypes" => some { dialect with bareNewtypes := true }
  | "unwrap_variant_newtypes" => some { dialect with bareVariants := true }
  | "explicit_struct_names" => some { dialect with explicitNames := true }
  | _ => none

def skipParts (parts : List String) : Scan Unit :=
  parts.forM fun part => do
    .spelled part
    .blanks

def readNames (dialect : Dialect) : (room : Nat) → Scan Dialect
  | 0 => failure
  | room + 1 => do
    let dialect ← dialect.enable (← .name)
    let more ← .comma
    if (← .next).any Text.continuesWord then
      if more then readNames dialect room else failure
    else return dialect

def readAttributes (dialect : Dialect) : (room : Nat) → Scan Dialect
  | 0 => failure
  | room + 1 => do
    if ← .isNext '#' then
      skipParts ["#", "!", "[", "enable", "("]
      let dialect ← dialect.readNames (← get).length
      skipParts [")", "]"]
      readAttributes dialect room
    else return dialect

def read : Scan Dialect := do
  .blanks
  standard.readAttributes ((← get).length + 1)

/-- Takes the name of a struct, which may be left out, and tells whether it was there. -/
def structName (dialect : Dialect) (name : String) : Scan Bool := do
  if (← .next).any Text.continuesWord then
    if (← .name) = name then return true else failure
  else if dialect.explicitNames then failure
  else return false

end Dialect
end NodeShader.Ron
