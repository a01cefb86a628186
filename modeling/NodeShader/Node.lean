import NodeShader.Property
import NodeShader.Requirement

/-! Nodes of a shader graph. A function node calls a precompiled function, a reader gives the value
of a property, a wrapper stands for a whole graph, and an output node declares what its graph
returns. -/
namespace NodeShader

structure NodeId where
  guid : Guid
deriving DecidableEq

structure Handle where
  guid : Guid
deriving DecidableEq

/-- The number of a stored definition, never given twice. -/
abbrev Serial := Nat

structure FunctionCall where
  nodeType : String
  function : String
  body : Option String
  takesContext : Bool
  requirements : Requirements
deriving DecidableEq

/-- A wrapper is bound to a handle and remembers the definition it found last. -/
structure Wrapper where
  handle : Option Handle
  cached : Option Serial
  inputOrder : List SlotId
deriving DecidableEq

inductive NodeKind where
  | function (call : FunctionCall)
  | reader (property : Guid)
  | wrapper (wrapper : Wrapper)
  | output
deriving DecidableEq

structure Node where
  id : NodeId
  name : String
  enabled : Bool
  hasError : Bool
  dirty : Bool
  position : Single × Single
  slots : SlotTable
  kind : NodeKind
deriving DecidableEq

def Wrapper.bound (handle : Option Handle) : Wrapper := ⟨handle, none, []⟩

namespace Node

def make (id : NodeId) (name : String) (kind : NodeKind) : Node :=
  { id, name, enabled := true, hasError := false, dirty := false,
    position := (.zero, .zero), slots := .empty, kind }

def outputNode (id : NodeId) : Node := make id "SubGraphOutputs" .output

def readerOf (id : NodeId) (property : Property) : Except PropertyError Node := do
  let slot ← property.readerSlot
  return { make id property.displayName (.reader property.guid) with
           slots := SlotTable.empty.add slot }

def wrapper? (node : Node) : Option Wrapper :=
  match node.kind with
  | .wrapper wrapper => some wrapper
  | _ => none

def isOutput (node : Node) : Bool := node.kind = .output

def isActive (node : Node) : Bool := node.enabled

/-- The slots of a wrapper that carry the properties of its graph, in the order of declaration. -/
def orderedInputs (node : Node) : List Slot :=
  match node.wrapper? with
  | some wrapper => wrapper.inputOrder.filterMap node.slots.get?
  | none => []

def addSlot (node : Node) (slot : Slot) : Node :=
  { node with slots := node.slots.add slot, dirty := true }

def variableName (node : Node) (slot : SlotId) : String :=
  let slotName := match node.slots.get? slot with
    | some known => known.referenceName
    | none => "Slot" ++ String.ofList (Nat.toDigits 10 slot.value)
  "_" ++ Text.identifier node.name ++ "_" ++ node.id.guid.short ++ "_" ++ slotName

def outlet (index : Nat) : Slot :=
  let number := String.ofList (Nat.toDigits 10 index)
  Slot.make (.positional index) ("Output " ++ number) ("Output" ++ number) .input .vector4

/-- An outlet gets the number after the count of inputs. Neither has a bound here; with 32 bits for them
it is the same for nodes with fewer than `2 ^ 32 - 1` inputs. -/
def addOutlet (node : Node) : Option (Nat × Node) :=
  if node.isOutput then
    let index := node.slots.inputs.length + 1
    some (index, node.addSlot (outlet index))
  else none

def removeOutlet (node : Node) : Option (Slot × Node) :=
  let last := SlotId.positional node.slots.inputs.length
  if node.isOutput ∧ node.slots.inputs ≠ [] then
    (node.slots.get? last).map fun slot =>
      (slot, { node with slots := node.slots.erase last, dirty := true })
  else none

end Node
end NodeShader
