/-! Types of the values that travel between nodes, their shader keywords, and the implicit
conversions between them. -/
namespace NodeShader

inductive Precision where
  | float
  | half
deriving DecidableEq

def Precision.keyword : Precision → String
  | .float => "float"
  | .half => "half"

inductive ValueType where
  | vector1 | vector2 | vector3 | vector4
  | matrix2 | matrix3 | matrix4
  | texture2D | cubemap
deriving DecidableEq

namespace ValueType

def all : List ValueType :=
  [vector1, vector2, vector3, vector4, matrix2, matrix3, matrix4, texture2D, cubemap]

def name : ValueType → String
  | vector1 => "Vector1"
  | vector2 => "Vector2"
  | vector3 => "Vector3"
  | vector4 => "Vector4"
  | matrix2 => "Matrix2"
  | matrix3 => "Matrix3"
  | matrix4 => "Matrix4"
  | texture2D => "Texture2D"
  | cubemap => "Cubemap"

def keyword (precision : Precision) : ValueType → String
  | vector1 => precision.keyword
  | vector2 => precision.keyword ++ "2"
  | vector3 => precision.keyword ++ "3"
  | vector4 => precision.keyword ++ "4"
  | matrix2 => precision.keyword ++ "2x2"
  | matrix3 => precision.keyword ++ "3x3"
  | matrix4 => precision.keyword ++ "4x4"
  | texture2D => "Texture2D"
  | cubemap => "TextureCube"

def isTexture : ValueType → Bool
  | texture2D | cubemap => true
  | _ => false

def components : ValueType → Option Nat
  | vector1 => some 1
  | vector2 => some 2
  | vector3 => some 3
  | vector4 => some 4
  | _ => none

/-- Vectors of any two widths fit together, everything else only its own type. -/
def connectsTo (source target : ValueType) : Bool :=
  source = target || source.components.isSome && target.components.isSome

/-- The expression read as the target type: a wider target pads with zeros, a narrower one keeps
the leading components, and a scalar is left to spread by itself. -/
def convert (source target : ValueType) (precision : Precision) (expression : String) : String :=
  match source.components, target.components with
  | some given, some wanted =>
    if 1 < given ∧ given < wanted then
      target.keyword precision ++ "(" ++ expression ++
        String.join (List.replicate (wanted - given) ", 0") ++ ")"
    else if wanted < given then
      expression ++ "." ++ String.ofList ("xyzw".toList.take wanted)
    else expression
  | _, _ => expression

end ValueType
end NodeShader
