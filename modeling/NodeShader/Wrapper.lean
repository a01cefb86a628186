import NodeShader.Assets

/-! A wrapper takes its slots from the definition it stands for: an input for every property, then
an output for every outlet. Deriving them again keeps the ids, and with them the connections. -/
namespace NodeShader

inductive SlotError where
  | identityCollision (id : SlotId) (first second : String)
  | property (cause : PropertyError)
deriving DecidableEq

def SlotError.message : SlotError → String
  | identityCollision id first second =>
    "Slot identity " ++ id.text ++ " is shared by '" ++ first ++ "' and '" ++ second ++ "'"
  | property cause => cause.message

def claim (claimed : List Slot) (slot : Slot) : Except SlotError (List Slot) :=
  match claimed.find? fun other => other.id = slot.id with
  | some other => .error (.identityCollision slot.id other.displayName slot.displayName)
  | none => .ok (claimed ++ [slot])

def claimProperty (claimed : List Slot) (property : Property) : Except SlotError (List Slot) :=
  match property.inputSlot with
  | .ok slot => claim claimed slot
  | .error cause => .error (.property cause)

def outletSlot (outlet : Slot) : Slot :=
  Slot.make outlet.id outlet.displayName outlet.referenceName .output outlet.type

def ShaderGraph.interface (graph : ShaderGraph) : Except SlotError (List Slot × List Slot) := do
  let inputs ← graph.properties.foldlM claimProperty []
  let all ← graph.outputs.foldlM (fun claimed outlet => claim claimed (outletSlot outlet)) inputs
  return (inputs, all)

/-- A wrapper and its slots after an attempt to bring them up to date, and whether slots changed. -/
structure Synced where
  wrapper : Wrapper
  slots : SlotTable
  outcome : Except SlotError Bool

/-- Looks the definition up afresh and derives the slots from it; without a definition no slot is
left, and a definition at fault leaves the slots as they were. -/
def Wrapper.sync (view : View) (wrapper : Wrapper) (slots : SlotTable) : Synced :=
  let forgetful := { wrapper with cached := none }
  match view.resolve forgetful with
  | none =>
    let left := slots.keepOnly []
    ⟨{ forgetful with inputOrder := [] }, left, .ok (!left.same slots)⟩
  | some definition =>
    let settled := { wrapper with cached := some definition.serial }
    match definition.graph.interface with
    | .error cause => ⟨settled, slots, .error cause⟩
    | .ok (inputs, all) =>
      let left := (slots.addAll all).keepOnly (all.map (·.id))
      ⟨{ settled with inputOrder := inputs.map (·.id) }, left, .ok (!left.same slots)⟩

namespace Node

def withSync (node : Node) (synced : Synced) (dirty : Bool) : Node :=
  { node with kind := .wrapper synced.wrapper, slots := synced.slots, dirty }

def refresh (view : View) (node : Node) : Node × Except SlotError Bool :=
  match node.kind with
  | .wrapper wrapper =>
    let synced := wrapper.sync view node.slots
    let changed := match synced.outcome with
      | .ok changed => changed
      | .error _ => false
    (node.withSync synced (node.dirty || changed), synced.outcome)
  | _ => (node, .ok false)

/-- Binds a wrapper to another handle; binding it to the one it has does nothing. -/
def setSubGraph (view : View) (handle : Option Handle) (node : Node) :
    Node × Except SlotError Bool :=
  match node.kind with
  | .wrapper wrapper =>
    if wrapper.handle = handle then (node, .ok false)
    else
      let synced := { wrapper with handle, cached := none : Wrapper }.sync view node.slots
      let dirty := match synced.outcome with
        | .ok _ => true
        | .error _ => node.dirty
      (node.withSync synced dirty, synced.outcome)
  | _ => (node, .ok false)

def wrapperOf (view : View) (id : NodeId) (handle : Option Handle) : Except SlotError Node :=
  let (node, outcome) := (make id "Sub-graph" (.wrapper (.bound handle))).refresh view
  outcome.map fun _ => { node with dirty := false }

end Node

namespace ShaderGraph

/-- Binds a wrapper and drops the connections to slots that vanished. -/
def setSubGraph (view : View) (id : NodeId) (handle : Option Handle) (graph : ShaderGraph) :
    ShaderGraph × Except SlotError Bool :=
  match graph.node? id with
  | none => (graph, .ok false)
  | some node =>
    let (changed, outcome) := node.setSubGraph view handle
    let rebound := graph.modifyNode id fun _ => changed
    match outcome with
    | .ok true => (rebound.prune, outcome)
    | _ => (rebound, outcome)

/-- Refreshes nodes one by one up to the first at fault, counting those with changed slots. -/
def refreshEntries (view : View) (count : Nat) :
    List (NodeId × Node) → List (NodeId × Node) × Except SlotError Nat
  | [] => ([], .ok count)
  | (id, node) :: rest =>
    match node.refresh view with
    | (refreshed, .error cause) => ((id, refreshed) :: rest, .error cause)
    | (refreshed, .ok changed) =>
      let (others, outcome) := refreshEntries view (if changed then count + 1 else count) rest
      ((id, refreshed) :: others, outcome)

theorem refreshEntries_keys (view : View) (count : Nat) (entries : List (NodeId × Node)) :
    (refreshEntries view count entries).1.map (·.1) = entries.map (·.1) := by
  induction entries generalizing count with
  | nil => rfl
  | cons entry rest ih =>
    obtain ⟨id, node⟩ := entry
    simp only [refreshEntries]
    split
    · rfl
    · simp [ih]

/-- Refreshes every wrapper and, when slots changed, drops the connections to slots that vanished.
A wrapper at fault ends this at once. -/
def refreshWrappers (view : View) (graph : ShaderGraph) : ShaderGraph × Except SlotError Nat :=
  let refreshed := refreshEntries view 0 graph.nodes.entries
  let changed := graph.withGraph { graph.toGraph with
    nodes := ⟨refreshed.1, by rw [refreshEntries_keys]; exact graph.nodes.distinct⟩ }
  match refreshed.2 with
  | .ok 0 => (changed, .ok 0)
  | .ok count => (changed.prune, .ok count)
  | .error cause => (changed, .error cause)

end ShaderGraph
end NodeShader
