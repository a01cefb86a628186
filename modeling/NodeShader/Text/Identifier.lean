/-! Identifiers of the shader language: a letter or underscore, then letters, digits and
underscores, all of them ASCII. -/
namespace NodeShader.Text

def isWordChar (c : Char) : Bool := c.isAlphanum || c = '_'

/-- The name with every other character turned into an underscore, and with an underscore in front
when it would be empty or start with a digit. -/
def identifierChars (name : List Char) : List Char :=
  match name.map fun c => if isWordChar c then c else '_' with
  | [] => ['_']
  | c :: rest => if c.isDigit then '_' :: c :: rest else c :: rest

def identifier (name : String) : String := String.ofList (identifierChars name.toList)

end NodeShader.Text
