import NodeShader.Keyed
import NodeShader.Node

/-! Templates for function nodes, and the catalogue of those that come with the library. A template
numbers its slots when a node is made from it, inputs first. -/
namespace NodeShader

inductive Category where
  | input | math | texture | utility
deriving DecidableEq

def Category.all : List Category := [input, math, texture, utility]

def Category.name : Category → String
  | input => "Input"
  | math => "Math"
  | texture => "Texture"
  | utility => "Utility"

structure Template where
  id : String
  name : String
  category : Category
  description : String
  call : FunctionCall
  inputs : List Slot
  outputs : List Slot
deriving DecidableEq

namespace Template

def slots (template : Template) : List Slot :=
  (template.inputs ++ template.outputs).mapIdx fun index slot =>
    { slot with id := .positional index }

def instantiate (template : Template) (id : NodeId) : Node :=
  { Node.make id template.name (.function template.call) with
    slots := SlotTable.empty.addAll template.slots }

def input (name : String) (type : ValueType) : Slot := .named (.positional 0) name .input type

def output (name : String) (type : ValueType) : Slot := .named (.positional 0) name .output type

def body (function parameters type result expression : String) : String :=
  "void " ++ function ++ "(" ++ parameters ++ "out " ++ type ++ " " ++ result ++
    ")\n\x7b\n    " ++ result ++ " = " ++ expression ++ ";\n\x7d"

def contextInput (id name function field : String) (type : ValueType)
    (requirements : Requirements) : Template where
  id := id
  name := name
  category := .input
  description := "Surface " ++ name.toLower
  call :=
    { nodeType := id, function
      body := some (body function "$context $in, "
        (if type = .vector3 then "$precision3" else "$precision4") "Out" ("$in." ++ field))
      takesContext := true, requirements }
  inputs := []
  outputs := [output "Out" type]

def binary (id name function operator : String) : Template where
  id := id
  name := name
  category := .math
  description := "A " ++ operator ++ " B"
  call :=
    { nodeType := id, function
      body := some (body function "$precision4 A, $precision4 B, " "$precision4" "Out"
        ("A " ++ operator ++ " B"))
      takesContext := false, requirements := .none }
  inputs := [input "A" .vector4, input "B" .vector4]
  outputs := [output "Out" .vector4]

def lerp : Template where
  id := "lerp"
  name := "Lerp"
  category := .math
  description := "Linear interpolation between A and B"
  call :=
    { nodeType := "lerp", function := "Unity_Lerp_$precision4"
      body := some (body "Unity_Lerp_$precision4" "$precision4 A, $precision4 B, $precision4 T, "
        "$precision4" "Out" "lerp(A, B, T)")
      takesContext := false, requirements := .none }
  inputs :=
    [input "A" .vector4,
     { input "B" .vector4 with default := .vector4 (.replicate 4 .one) },
     { input "T" .vector4 with default := .vector4 (.replicate 4 .half) }]
  outputs := [output "Out" .vector4]

def fresnel : Template where
  id := "fresnel"
  name := "Fresnel Effect"
  category := .math
  description := "Rim term from the surface normal and view direction"
  call :=
    { nodeType := "fresnel", function := "Unity_FresnelEffect_$precision"
      body := some (body "Unity_FresnelEffect_$precision"
        "$precision3 Normal, $precision3 ViewDir, $precision Power, " "$precision" "Out"
        "pow((1.0 - saturate(dot(normalize(Normal), normalize(ViewDir)))), Power)")
      takesContext := false, requirements := .none }
  inputs :=
    [input "Normal" .vector3, input "View Dir" .vector3,
     { input "Power" .vector1 with default := .vector1 .one }]
  outputs := [output "Out" .vector1]

def sampleTexture2D : Template where
  id := "sample_texture_2d"
  name := "Sample Texture 2D"
  category := .texture
  description := "Sample a 2D texture"
  call :=
    { nodeType := "sample_texture_2d", function := "Unity_SampleTexture2D_$precision"
      body := some (body "Unity_SampleTexture2D_$precision"
        "TEXTURE2D_ARGS(Texture, samplerTexture), $precision2 UV, " "$precision4" "RGBA"
        "SAMPLE_TEXTURE2D(Texture, samplerTexture, UV)")
      takesContext := false, requirements := .none }
  inputs := [input "Texture" .texture2D, input "UV" .vector2]
  outputs := [output "RGBA" .vector4]

def sampleCubemap : Template where
  id := "sample_cubemap"
  name := "Sample Cubemap"
  category := .texture
  description := "Sample a cubemap along a direction"
  call :=
    { nodeType := "sample_cubemap", function := "Unity_SampleCubemap_$precision"
      body := some (body "Unity_SampleCubemap_$precision"
        "TEXTURECUBE_ARGS(Cube, samplerCube), $precision3 Dir, " "$precision4" "Out"
        "SAMPLE_TEXTURECUBE(Cube, samplerCube, Dir)")
      takesContext := false, requirements := .none }
  inputs := [input "Cube" .cubemap, input "Dir" .vector3]
  outputs := [output "Out" .vector4]

def time : Template where
  id := "time"
  name := "Time"
  category := .input
  description := "Shader time in seconds"
  call :=
    { nodeType := "time", function := "Unity_Time_$precision"
      body := some (body "Unity_Time_$precision" "" "$precision" "Out" "_Time.y")
      takesContext := false, requirements := { Requirements.none with time := true } }
  inputs := []
  outputs := [output "Out" .vector1]

def mathTemplates : List Template :=
  [binary "add" "Add" "Unity_Add_$precision4" "+",
   binary "multiply" "Multiply" "Unity_Multiply_$precision4" "*",
   lerp, fresnel]

def geometryTemplates : List Template :=
  [contextInput "normal_vector" "Normal Vector" "Unity_NormalVector_World_$precision"
    "WorldSpaceNormal" .vector3 { Requirements.none with normal := .world },
   contextInput "tangent_vector" "Tangent Vector" "Unity_TangentVector_World_$precision"
    "WorldSpaceTangent" .vector3 { Requirements.none with tangent := .world },
   contextInput "bitangent_vector" "Bitangent Vector" "Unity_BitangentVector_World_$precision"
    "WorldSpaceBiTangent" .vector3 { Requirements.none with bitangent := .world },
   contextInput "position" "Position" "Unity_Position_World_$precision"
    "WorldSpacePosition" .vector3 { Requirements.none with position := .world },
   contextInput "object_position" "Object Position" "Unity_Position_Object_$precision"
    "ObjectSpacePosition" .vector3 { Requirements.none with position := .object },
   contextInput "view_direction" "View Direction" "Unity_ViewDirection_World_$precision"
    "WorldSpaceViewDirection" .vector3 { Requirements.none with viewDirection := .world }]

def surfaceTemplates : List Template :=
  [contextInput "uv" "UV" "Unity_UV0_$precision"
    "uv0" .vector4 { Requirements.none with meshUv := [.uv0] },
   contextInput "uv1" "UV1" "Unity_UV1_$precision"
    "uv1" .vector4 { Requirements.none with meshUv := [.uv1] },
   contextInput "screen_position" "Screen Position" "Unity_ScreenPosition_$precision"
    "ScreenPosition" .vector4 { Requirements.none with screenPosition := true },
   contextInput "vertex_color" "Vertex Color" "Unity_VertexColor_$precision"
    "VertexColor" .vector4 { Requirements.none with vertexColor := true }]

end Template

abbrev Catalogue := Keyed String Template

namespace Catalogue

def register (catalogue : Catalogue) (template : Template) : Catalogue :=
  catalogue.insert template.id template

def standard : Catalogue :=
  (Template.mathTemplates ++ [Template.sampleTexture2D, Template.sampleCubemap] ++
    Template.geometryTemplates ++ Template.surfaceTemplates ++ [Template.time]).foldl register .empty

def inCategory (catalogue : Catalogue) (category : Category) : List Template :=
  catalogue.values.filter fun template => template.category = category

end Catalogue
end NodeShader
