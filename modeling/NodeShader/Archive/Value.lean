import NodeShader.Property
import NodeShader.Requirement
import NodeShader.Ron.Layout
import NodeShader.Ron.Reader

/-! The archived form of slots, properties and requirements. Every part has a tree, with or without
the names of structs, and a reader that takes the tree back. -/
namespace NodeShader.Archive
open Ron

def struct (named : Bool) (name : String) (fields : List (String × Tree)) : Tree :=
  .record (if named then some name else none) fields

def newtype (named : Bool) (name : String) (item : Tree) : Tree :=
  .tuple (if named then some name else none) [item]

def boolTree (b : Bool) : Tree := .word (if b then "true" else "false")

def guidTree (guid : Guid) : Tree := .text guid.text

def optionTree : Option Tree → Tree
  | some item => .tuple (some "Some") [item]
  | none => .word "None"

def vectorTree (numbers : List Single) : Tree := .tuple none (numbers.map .single)

def squareTree (side : Nat) (numbers : List Single) : Tree :=
  .tuple none ((List.range side).map fun row =>
    vectorTree ((numbers.drop (row * side)).take side))

def squareReader (side : Nat) : Reader (Vector Single (side * side)) :=
  Vector.flatten <$> .vector side (.vector side .single)

def slotIdTree (named : Bool) (id : SlotId) : Tree :=
  newtype named "SlotId" (.natural id.value)

def slotIdReader : Reader SlotId := .newtype "SlotId" (SlotId.mk <$> .natural 64)

def resourceTree (named : Bool) (resource : Option String) : Tree :=
  optionTree (resource.map fun path => newtype named "TextureRef" (.text path))

def resourceReader : Reader (Option String) := .option (.newtype "TextureRef" .text)

def valueTree (named : Bool) (value : Value) : Tree :=
  .tuple (some value.type.name) [match value with
    | .vector1 x => .single x
    | .matrix2 m => squareTree 2 m.toList
    | .matrix3 m => squareTree 3 m.toList
    | .matrix4 m => squareTree 4 m.toList
    | .texture2D resource | .cubemap resource => resourceTree named resource
    | value => vectorTree value.numbers]

def valueOfType : ValueType → Reader Value
  | .vector1 => .vector1 <$> Reader.single
  | .vector2 => .vector2 <$> .vector 2 .single
  | .vector3 => .vector3 <$> .vector 3 .single
  | .vector4 => .vector4 <$> .vector 4 .single
  | .matrix2 => .matrix2 <$> squareReader 2
  | .matrix3 => .matrix3 <$> squareReader 3
  | .matrix4 => .matrix4 <$> squareReader 4
  | .texture2D => .texture2D <$> resourceReader
  | .cubemap => .cubemap <$> resourceReader

def valueReader : Reader Value :=
  .variant (ValueType.all.map fun type => (type.name, valueOfType type))

def Direction.name : Direction → String
  | .input => "Input"
  | .output => "Output"

def slotTree (named : Bool) (slot : Slot) : Tree :=
  struct named "Slot"
    [("id", slotIdTree named slot.id),
     ("display_name", .text slot.displayName),
     ("shader_output_name", .text slot.referenceName),
     ("direction", .word (Direction.name slot.direction)),
     ("value_type", .word slot.type.name),
     ("default_value", valueTree named slot.default)]

def slotReader : Reader Slot := .struct "Slot" (Slot.mk
  <$> .required "id" slotIdReader
  <*> .required "display_name" .text
  <*> .required "shader_output_name" .text
  <*> .required "direction" (.word [.input, .output] Direction.name)
  <*> .required "value_type" (.word ValueType.all ValueType.name)
  <*> .required "default_value" valueReader)

def slotsTree (named : Bool) (slots : SlotTable) : Tree :=
  struct named "SlotRegistry"
    [("slots", .map (slots.entries.map fun entry =>
      (slotIdTree named entry.1, slotTree named entry.2)))]

def slotsReader : Reader SlotTable := .struct "SlotRegistry"
  (SlotTable.ofList <$> .required "slots" (.table slotIdReader slotReader))

def propertyValueTree (named : Bool) (value : PropertyValue) : Tree :=
  .tuple (some value.kind.name) [match value with
    | .color v | .vector4 v => vectorTree v.toList
    | .texture resource | .cubemap resource => resourceTree named resource
    | .float x => .single x
    | .vector2 v => vectorTree v.toList
    | .vector3 v => vectorTree v.toList
    | .matrix2 m => squareTree 2 m.toList
    | .matrix3 m => squareTree 3 m.toList
    | .matrix4 m => squareTree 4 m.toList
    | .boolean b => boolTree b]

def propertyValueOfKind : PropertyKind → Reader PropertyValue
  | .color => .color <$> .vector 4 .single
  | .texture => .texture <$> resourceReader
  | .cubemap => .cubemap <$> resourceReader
  | .float => .float <$> Reader.single
  | .vector2 => .vector2 <$> .vector 2 .single
  | .vector3 => .vector3 <$> .vector 3 .single
  | .vector4 => .vector4 <$> .vector 4 .single
  | .matrix2 => .matrix2 <$> squareReader 2
  | .matrix3 => .matrix3 <$> squareReader 3
  | .matrix4 => .matrix4 <$> squareReader 4
  | .boolean => .boolean <$> Reader.bool

def propertyValueReader : Reader PropertyValue :=
  .variant (PropertyKind.all.map fun kind => (kind.name, propertyValueOfKind kind))

def propertyTree (named : Bool) (property : Property) : Tree :=
  struct named "Property"
    [("guid", guidTree property.guid),
     ("display_name", .text property.displayName),
     ("reference_name", .text property.referenceName),
     ("value", propertyValueTree named property.value)]

def propertyReader : Reader Property := .struct "Property" (Property.mk
  <$> .required "guid" .guid
  <*> .required "display_name" .text
  <*> .required "reference_name" .text
  <*> .required "value" propertyValueReader)

def spacesTree (named : Bool) (spaces : Spaces) : Tree :=
  newtype named "NeededCoordinateSpace" (.natural spaces.bits.toNat)

def spacesReader : Reader Spaces :=
  .newtype "NeededCoordinateSpace" ((fun bits => ⟨UInt8.ofNat bits⟩) <$> .natural 8)

def requirementsTree (named : Bool) (needs : Requirements) : Tree :=
  struct named "ShaderGraphRequirements"
    [("normal", spacesTree named needs.normal),
     ("tangent", spacesTree named needs.tangent),
     ("bitangent", spacesTree named needs.bitangent),
     ("position", spacesTree named needs.position),
     ("view_direction", spacesTree named needs.viewDirection),
     ("mesh_uv", .list (needs.meshUv.map fun channel => .word channel.name)),
     ("screen_position", boolTree needs.screenPosition),
     ("time", boolTree needs.time),
     ("vertex_color", boolTree needs.vertexColor)]

def requirementsReader : Reader Requirements := .struct "ShaderGraphRequirements" (Requirements.mk
  <$> .defaulted "normal" spacesReader .none
  <*> .defaulted "tangent" spacesReader .none
  <*> .defaulted "bitangent" spacesReader .none
  <*> .defaulted "position" spacesReader .none
  <*> .defaulted "view_direction" spacesReader .none
  <*> .defaulted "mesh_uv" (.list (.word UvChannel.all UvChannel.name)) []
  <*> .defaulted "screen_position" .bool false
  <*> .defaulted "time" .bool false
  <*> .defaulted "vertex_color" .bool false)

end NodeShader.Archive
