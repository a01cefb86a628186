/-! Taking something off the front of a text, or failing. -/
namespace NodeShader.Ron

abbrev Scan := StateT (List Char) Option

def afterMark (mark : Char) : List Char → Option (List Char)
  | c :: rest => if c = mark then some rest else none
  | [] => none

def afterSpelling (spelling : String) (text : List Char) : Option (List Char) :=
  if spelling.toList.isPrefixOf text then some (text.drop spelling.length) else none

namespace Scan

def passing (after : List Char → Option (List Char)) : Scan Unit := fun text =>
  (after text).map fun rest => ((), rest)

def mark (c : Char) : Scan Unit := passing (afterMark c)

def spelled (spelling : String) : Scan Unit := passing (afterSpelling spelling)

def take : Scan Char := fun text =>
  match text with
  | c :: rest => some (c, rest)
  | [] => none

def next : Scan (Option Char) := fun text => some (text.head?, text)

def isNext (c : Char) : Scan Bool := return (← next) = some c

def ahead {α : Type} (scan : Scan α) : Scan α := fun text =>
  (scan text).map fun found => (found.1, text)

def found (scan : Scan Unit) : Scan Bool := (do scan; return true) <|> return false

def follows (scan : Scan Unit) : Scan Bool := ahead (found scan)

end Scan
end NodeShader.Ron
