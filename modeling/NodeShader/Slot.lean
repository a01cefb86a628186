import NodeShader.Guid
import NodeShader.Value

/-! Slots are the typed sockets of a node. Slot ids fall into two spaces that never meet: positions,
below `2 ^ 63`, and ids derived from a property's guid, which have that bit set. -/
namespace NodeShader

structure SlotId where
  value : Nat
deriving DecidableEq

namespace SlotId

def positional (index : Nat) : SlotId := ⟨index⟩

def guidSpace : Nat := Nat.pow 2 63

/-- Folds the two halves of a guid into the space of derived ids. -/
def ofGuid (guid : Guid) : SlotId :=
  let turned := guid.low <<< 29 ||| guid.low >>> 35
  ⟨((guid.high ^^^ turned) ||| UInt64.ofNat guidSpace).toNat⟩

def isPositional (id : SlotId) : Bool := id.value < guidSpace

def text (id : SlotId) : String :=
  if id.isPositional then "#" ++ String.ofList (Nat.toDigits 10 id.value)
  else "#" ++ String.ofList (Guid.hexDigits 16 id.value)

end SlotId

inductive Direction where
  | input
  | output
deriving DecidableEq

structure Slot where
  id : SlotId
  displayName : String
  referenceName : String
  direction : Direction
  type : ValueType
  default : Value
deriving DecidableEq

namespace Slot

def isInput (slot : Slot) : Bool := slot.direction = .input

def isOutput (slot : Slot) : Bool := slot.direction = .output

def make (id : SlotId) (displayName referenceName : String) (direction : Direction)
    (type : ValueType) : Slot :=
  { id, displayName, referenceName, direction, type, default := type.zero }

def named (id : SlotId) (name : String) (direction : Direction) (type : ValueType) : Slot :=
  make id name (String.ofList (name.toList.filter (· ≠ ' '))) direction type

def same (x y : Slot) : Bool :=
  x.id = y.id && x.displayName = y.displayName && x.referenceName = y.referenceName &&
    x.direction = y.direction && x.type = y.type && x.default.same y.default

end Slot
end NodeShader
