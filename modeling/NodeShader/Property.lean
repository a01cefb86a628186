import NodeShader.Slot.Table
import NodeShader.Text.Identifier

/-! Properties that a graph exposes to its material or to the graphs that use it. Each kind but the
Boolean has a slot type that carries it. -/
namespace NodeShader

inductive PropertyKind where
  | color | texture | cubemap | float
  | vector2 | vector3 | vector4
  | matrix2 | matrix3 | matrix4
  | boolean
deriving DecidableEq

inductive PropertyError where
  | unsupportedKind (kind : PropertyKind)
  | unknownKind (name : String)
deriving DecidableEq

namespace PropertyKind

def all : List PropertyKind :=
  [color, texture, cubemap, float, vector2, vector3, vector4, matrix2, matrix3, matrix4, boolean]

def name : PropertyKind → String
  | color => "Color"
  | texture => "Texture"
  | cubemap => "Cubemap"
  | float => "Float"
  | vector2 => "Vector2"
  | vector3 => "Vector3"
  | vector4 => "Vector4"
  | matrix2 => "Matrix2"
  | matrix3 => "Matrix3"
  | matrix4 => "Matrix4"
  | boolean => "Boolean"

def read (text : String) : Except PropertyError PropertyKind :=
  match all.find? fun kind =>
      kind.name.toList.map Char.toLower = text.toList.map Char.toLower with
  | some kind => .ok kind
  | none => .error (.unknownKind text)

def slotType : PropertyKind → Except PropertyError ValueType
  | color => .ok .vector4
  | texture => .ok .texture2D
  | cubemap => .ok .cubemap
  | float => .ok .vector1
  | vector2 => .ok .vector2
  | vector3 => .ok .vector3
  | vector4 => .ok .vector4
  | matrix2 => .ok .matrix2
  | matrix3 => .ok .matrix3
  | matrix4 => .ok .matrix4
  | boolean => .error (.unsupportedKind boolean)

end PropertyKind

def PropertyError.message : PropertyError → String
  | unsupportedKind kind => "Property kind " ++ kind.name ++ " cannot be exposed as a slot"
  | unknownKind name => "Unknown property kind: " ++ name

inductive PropertyValue where
  | color (v : Vector Single 4)
  | texture (resource : Option String)
  | cubemap (resource : Option String)
  | float (x : Single)
  | vector2 (v : Vector Single 2)
  | vector3 (v : Vector Single 3)
  | vector4 (v : Vector Single 4)
  | matrix2 (m : Vector Single 4)
  | matrix3 (m : Vector Single 9)
  | matrix4 (m : Vector Single 16)
  | boolean (b : Bool)
deriving DecidableEq

namespace PropertyValue

def kind : PropertyValue → PropertyKind
  | color _ => .color
  | texture _ => .texture
  | cubemap _ => .cubemap
  | float _ => .float
  | vector2 _ => .vector2
  | vector3 _ => .vector3
  | vector4 _ => .vector4
  | matrix2 _ => .matrix2
  | matrix3 _ => .matrix3
  | matrix4 _ => .matrix4
  | boolean _ => .boolean

def slotValue : PropertyValue → Except PropertyError Value
  | color v => .ok (.vector4 v)
  | texture resource => .ok (.texture2D resource)
  | cubemap resource => .ok (.cubemap resource)
  | float x => .ok (.vector1 x)
  | vector2 v => .ok (.vector2 v)
  | vector3 v => .ok (.vector3 v)
  | vector4 v => .ok (.vector4 v)
  | matrix2 m => .ok (.matrix2 m)
  | matrix3 m => .ok (.matrix3 m)
  | matrix4 m => .ok (.matrix4 m)
  | boolean _ => .error (.unsupportedKind .boolean)

end PropertyValue

structure Property where
  guid : Guid
  displayName : String
  referenceName : String
  value : PropertyValue
deriving DecidableEq

namespace Property

def defaultReference (guid : Guid) (value : PropertyValue) : String :=
  value.kind.name ++ "_" ++ guid.short

def kind (property : Property) : PropertyKind := property.value.kind

def slotId (property : Property) : SlotId := .ofGuid property.guid

def slotType (property : Property) : Except PropertyError ValueType := property.kind.slotType

/-- The slot that carries the property on a node standing for its graph. -/
def inputSlot (property : Property) : Except PropertyError Slot := do
  let type ← property.slotType
  let default ← property.value.slotValue
  return { id := property.slotId, displayName := property.displayName,
           referenceName := property.referenceName, direction := .input, type, default }

def readerSlot (property : Property) : Except PropertyError Slot := do
  let type ← property.slotType
  return Slot.make (.positional 0) property.displayName "Out" .output type

def literal (property : Property) (precision : Precision) : Option String :=
  match property.value.slotValue with
  | .ok value => value.literal precision
  | .error _ => none

end Property

/-- A function parameter of a type; a texture brings its sampler. -/
def ValueType.parameter (type : ValueType) (precision : Precision) (name : String) : String :=
  match type with
  | texture2D => "TEXTURE2D_ARGS(" ++ name ++ ", sampler" ++ name ++ ")"
  | cubemap => "TEXTURECUBE_ARGS(" ++ name ++ ", sampler" ++ name ++ ")"
  | _ => type.keyword precision ++ " " ++ name

def ValueType.argument (type : ValueType) (expression : String) : String :=
  match type with
  | texture2D => "TEXTURE2D_PARAM(" ++ expression ++ ", sampler" ++ expression ++ ")"
  | cubemap => "TEXTURECUBE_PARAM(" ++ expression ++ ", sampler" ++ expression ++ ")"
  | _ => expression

def Property.parameter (property : Property) (precision : Precision) :
    Except PropertyError String := do
  return (← property.slotType).parameter precision property.referenceName

end NodeShader
