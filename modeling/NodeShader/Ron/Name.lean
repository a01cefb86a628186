import NodeShader.Ron.Scan
import NodeShader.Text.Word

/-! Names in a RON text. A raw name stands after a mark of its own and may hold points and signs. -/
namespace NodeShader.Ron

/-- Openings of strings and bytes, none of which begins a name. -/
def literalOpenings : List String := ["b\"", "b'", "br#", "br\"", "r\"", "r#\"", "r##"]

def isRawPart (c : Char) : Bool := Text.continuesWord c || c = '.' || c = '+' || c = '-'

namespace Scan

def anyName : Scan String := fun text =>
  if literalOpenings.any fun opening => opening.toList.isPrefixOf text then none
  else match text with
    | 'r' :: '#' :: rest =>
      if rest.head?.any isRawPart then
        some (String.ofList (rest.takeWhile isRawPart), rest.dropWhile isRawPart)
      else none
    | c :: rest =>
      if Text.startsWord c then
        some (String.ofList (c :: rest.takeWhile Text.continuesWord),
          rest.dropWhile Text.continuesWord)
      else none
    | [] => none

/-- Reads a name that is not run together with what would make it a raw one. -/
def name : Scan String := do
  let spelling ← anyName
  if (← next).any isRawPart then failure
  return spelling

def word (spelling : String) : Scan Unit := do
  spelled spelling
  if (← next).any Text.continuesWord then failure

end Scan
end NodeShader.Ron
