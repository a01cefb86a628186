import NodeShader.ValueType
import NodeShader.Single.Decimal

/-! Values of unconnected slots. Matrices are stored row by row; a texture value names the bound
resource, if any. -/
namespace NodeShader

inductive Value where
  | vector1 (x : Single)
  | vector2 (v : Vector Single 2)
  | vector3 (v : Vector Single 3)
  | vector4 (v : Vector Single 4)
  | matrix2 (m : Vector Single 4)
  | matrix3 (m : Vector Single 9)
  | matrix4 (m : Vector Single 16)
  | texture2D (resource : Option String)
  | cubemap (resource : Option String)
deriving DecidableEq

namespace Value

def type : Value → ValueType
  | vector1 _ => .vector1
  | vector2 _ => .vector2
  | vector3 _ => .vector3
  | vector4 _ => .vector4
  | matrix2 _ => .matrix2
  | matrix3 _ => .matrix3
  | matrix4 _ => .matrix4
  | texture2D _ => .texture2D
  | cubemap _ => .cubemap

def numbers : Value → List Single
  | vector1 x => [x]
  | vector2 v => v.toList
  | vector3 v => v.toList
  | vector4 v => v.toList
  | matrix2 m => m.toList
  | matrix3 m => m.toList
  | matrix4 m => m.toList
  | texture2D _ | cubemap _ => []

def resource : Value → Option String
  | texture2D resource | cubemap resource => resource
  | _ => none

def literal (precision : Precision) (value : Value) : Option String :=
  match value with
  | vector1 x => some x.text
  | texture2D _ | cubemap _ => none
  | _ => some (value.type.keyword precision ++ "(" ++
      String.intercalate ", " (value.numbers.map Single.text) ++ ")")

/-- The same type, the same resource, and pairwise the same numbers: a value with a component that
is not a number differs even from itself. -/
def same (x y : Value) : Bool :=
  x.type = y.type && x.resource = y.resource &&
    (x.numbers.zip y.numbers).all fun pair => pair.1.sameNumber pair.2

end Value

def ValueType.zero : ValueType → Value
  | vector1 => .vector1 .zero
  | vector2 => .vector2 (.replicate 2 .zero)
  | vector3 => .vector3 (.replicate 3 .zero)
  | vector4 => .vector4 (.replicate 4 .zero)
  | matrix2 => .matrix2 (.replicate 4 .zero)
  | matrix3 => .matrix3 (.replicate 9 .zero)
  | matrix4 => .matrix4 (.replicate 16 .zero)
  | texture2D => .texture2D none
  | cubemap => .cubemap none

def ValueType.zeroLiteral (type : ValueType) (precision : Precision) : String :=
  (type.zero.literal precision).getD "0"

end NodeShader
