import NodeShader.Single

/-! What is written as a RON text: words, literals, and what stands in brackets. A name may stand
before parentheses. -/
namespace NodeShader.Ron

inductive Tree where
  | word (spelling : String)
  | natural (n : Nat)
  | single (x : Single)
  | text (s : String)
  | unit
  | tuple (name : Option String) (items : List Tree)
  | record (name : Option String) (fields : List (String × Tree))
  | list (items : List Tree)
  | map (entries : List (Tree × Tree))

end NodeShader.Ron
