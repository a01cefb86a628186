import NodeShader.Ron.Tree
import NodeShader.Single.Decimal
import NodeShader.Text.Visible

/-! The written form of a RON text: lists, maps and structs over several lines, indented by four
blanks for each level, tuples on one. -/
namespace NodeShader.Ron

/-- Characters that do not show by themselves are written by their code point. -/
def escaped (c : Char) : List Char :=
  match [('\x00', '0'), ('\t', 't'), ('\r', 'r'), ('\n', 'n'), ('\'', '\''), ('"', '"'),
    ('\\', '\\')].lookup c with
  | some letter => ['\\', letter]
  | none =>
    if Text.isVisible c then [c]
    else '\\' :: 'u' :: '\x7b' :: Nat.toDigits 16 c.toNat ++ ['\x7d']

def quote (s : String) : String :=
  "\"" ++ String.ofList (s.toList.flatMap escaped) ++ "\""

def newline (depth : Nat) : String :=
  "\n" ++ String.ofList (List.replicate (4 * depth) ' ')

mutual
def Tree.layout (depth : Nat) : Tree → String
  | .word spelling => spelling
  | .natural n => String.ofList (Nat.toDigits 10 n)
  | .single x => x.fractionText
  | .text s => quote s
  | .unit => "()"
  | .tuple name items => name.getD "" ++ "(" ++ layoutItems depth items ++ ")"
  | .record name fields =>
    name.getD "" ++ "(" ++ layoutFields (depth + 1) fields ++ newline depth ++ ")"
  | .list [] => "[]"
  | .list items => "[" ++ layoutLines (depth + 1) items ++ newline depth ++ "]"
  | .map [] => "\x7b\x7d"
  | .map entries => "\x7b" ++ layoutEntries (depth + 1) entries ++ newline depth ++ "\x7d"

def layoutItems (depth : Nat) : List Tree → String
  | [] => ""
  | [item] => item.layout depth
  | item :: rest => item.layout depth ++ ", " ++ layoutItems depth rest

def layoutLines (depth : Nat) : List Tree → String
  | [] => ""
  | item :: rest => newline depth ++ item.layout depth ++ "," ++ layoutLines depth rest

def layoutFields (depth : Nat) : List (String × Tree) → String
  | [] => ""
  | (name, value) :: rest =>
    newline depth ++ name ++ ": " ++ value.layout depth ++ "," ++ layoutFields depth rest

def layoutEntries (depth : Nat) : List (Tree × Tree) → String
  | [] => ""
  | (key, value) :: rest =>
    newline depth ++ key.layout depth ++ ": " ++ value.layout depth ++ "," ++
      layoutEntries depth rest
end

def Tree.written (tree : Tree) : String := tree.layout 0

end NodeShader.Ron
