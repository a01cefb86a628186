import NodeShader.Ron.Scan

/-! Blanks and comments, which may stand anywhere between the parts of a RON text. -/
namespace NodeShader.Ron

def isBlank (c : Char) : Bool :=
  let n := c.toNat
  9 ≤ n && n ≤ 13 || n = 0x20 || n = 0x85 || n = 0x200E || n = 0x200F || n = 0x2028 || n = 0x2029

/-- What follows a comment, of which `depth` openings are still unmatched. -/
def afterComment : (depth : Nat) → List Char → Option (List Char)
  | 0, rest => some rest
  | _ + 1, [] => none
  | depth + 1, '*' :: '/' :: rest => afterComment depth rest
  | depth + 1, '/' :: '*' :: rest => afterComment (depth + 2) rest
  | depth + 1, _ :: rest => afterComment (depth + 1) rest

theorem afterComment_length {depth : Nat} {text rest : List Char}
    (found : afterComment depth text = some rest) : rest.length ≤ text.length := by
  fun_induction afterComment depth text with
  | case1 => simp_all
  | case2 => simp at found
  | case3 _ _ ih => exact Nat.le_trans (ih found) (by simp only [List.length_cons]; omega)
  | case4 _ _ ih => exact Nat.le_trans (ih found) (by simp only [List.length_cons]; omega)
  | case5 _ _ _ _ _ ih => exact Nat.le_trans (ih found) (by simp only [List.length_cons]; omega)

def afterBlanks (text : List Char) : Option (List Char) :=
  match _found : text.dropWhile isBlank with
  | '/' :: '/' :: rest => afterBlanks (rest.dropWhile (· ≠ '\n'))
  | '/' :: '*' :: rest =>
    match _closed : afterComment 1 rest with
    | some after => afterBlanks after
    | none => none
  | '/' :: _ => none
  | rest => some rest
termination_by text.length
decreasing_by
  · have whole := (List.dropWhile_sublist (l := text) isBlank).length_le
    have line := (List.dropWhile_sublist (l := rest) (· ≠ '\n')).length_le
    rw [_found] at whole
    simp only [List.length_cons] at whole
    omega
  · have whole := (List.dropWhile_sublist (l := text) isBlank).length_le
    have block := afterComment_length _closed
    rw [_found] at whole
    simp only [List.length_cons] at whole
    omega

namespace Scan

def blanks : Scan Unit := passing afterBlanks

def comma : Scan Bool := do
  blanks
  let there ← found (mark ',')
  if there then blanks
  return there

end Scan
end NodeShader.Ron
