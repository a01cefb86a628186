import NodeShader.Code.Block

/-! Uniforms that the material binds: the properties of the root graph, and the defaults of the
texture slots that nothing feeds, at any depth. -/
namespace NodeShader

structure Uniform where
  name : String
  type : ValueType
  default : Value
deriving DecidableEq

def Uniform.declaration (precision : Precision) (uniform : Uniform) : String :=
  match uniform.type with
  | .texture2D => "TEXTURE2D(" ++ uniform.name ++ ");\nSAMPLER(sampler" ++ uniform.name ++ ");"
  | .cubemap => "TEXTURECUBE(" ++ uniform.name ++ ");\nSAMPLER(sampler" ++ uniform.name ++ ");"
  | type => type.keyword precision ++ " " ++ uniform.name ++ ";"

abbrev Uniforms := Keyed String Uniform

namespace Uniforms

def add (uniforms : Uniforms) (uniform : Uniform) : Uniforms :=
  if uniforms.contains uniform.name then uniforms else uniforms.insert uniform.name uniform

def declarations (precision : Precision) (uniforms : Uniforms) : String :=
  String.join (uniforms.values.map fun uniform => uniform.declaration precision ++ "\n")

end Uniforms

def Property.uniform? (property : Property) : Option Uniform :=
  match property.slotType, property.value.slotValue with
  | .ok type, .ok default => some ⟨property.referenceName, type, default⟩
  | _, _ => none

def ShaderGraph.slotUniforms (graph : ShaderGraph) (node : Node) : List Uniform :=
  (node.slots.inputs.filter fun slot =>
      slot.type.isTexture && !node.isOutput && graph.usesDefault node slot.id).map fun slot =>
    ⟨node.variableName slot.id, slot.type, slot.default⟩

def Event.uniforms : Event → List Uniform
  | meet graph _ node => graph.slotUniforms node
  | complete _ => []

def View.uniforms (view : View) (graph : ShaderGraph) : Uniforms :=
  (graph.properties.filterMap Property.uniform? ++
    (view.soundWalk graph).flatMap Event.uniforms).foldl Uniforms.add .empty

end NodeShader
