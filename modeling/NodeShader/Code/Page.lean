import NodeShader.Text.Line

/-! Pages of generated text. Text is added line by line without trailing white space; a body line
is indented to the depth of the open braces, a statement line starts at the margin. -/
namespace NodeShader

structure Page where
  lines : List (List Char)
  depth : Nat
deriving DecidableEq

namespace Page

def empty : Page := ⟨[], 0⟩

def indentation : List Char := List.replicate 4 ' '

def bodyLine (depth : Nat) (line : List Char) : List Char :=
  match Text.trimEnd line with
  | [] => []
  | trimmed => (List.replicate depth indentation).flatten ++ trimmed

def addBody (page : Page) (text : String) : Page :=
  { page with lines := page.lines ++ (Text.lines text.toList).map (bodyLine page.depth) }

def addStatement (page : Page) (text : String) : Page :=
  { page with lines := page.lines ++ (Text.lines text.toList).map Text.trimEnd }

def indent (page : Page) : Page := { page with depth := page.depth + 1 }

def outdent (page : Page) : Page := { page with depth := page.depth - 1 }

def openBrace (page : Page) : Page := (page.addBody "\x7b").indent

def closeBrace (page : Page) : Page := page.outdent.addBody "\x7d"

def textChars (page : Page) : List Char := page.lines.flatMap (· ++ ['\n'])

def text (page : Page) : String := String.ofList page.textChars

end Page
end NodeShader
