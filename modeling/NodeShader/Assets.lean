import NodeShader.ShaderGraph

/-! Stored sub-graph definitions. A wrapper remembers the definition it found last and keeps to it
as long as it lives, that is, as long as it is stored under its handle or held by someone; only
then does it look in the store again. -/
namespace NodeShader

structure Definition where
  handle : Handle
  name : String
  graph : ShaderGraph
deriving DecidableEq

structure Live extends Definition where
  serial : Serial
deriving DecidableEq

/-- What a single operation sees: the living definitions, and the ones that handles lead to. -/
structure View where
  live : List Live
  stored : Keyed Handle Serial

namespace View

def definition? (view : View) (serial : Serial) : Option Live :=
  view.live.find? fun definition => definition.serial = serial

def lookup (view : View) (handle : Handle) : Option Live :=
  (view.stored.get? handle).bind view.definition?

/-- The remembered definition while it lives and still answers to the handle, else the stored
one. -/
def resolve (view : View) (wrapper : Wrapper) : Option Live :=
  match wrapper.handle with
  | none => none
  | some handle =>
    match wrapper.cached.bind view.definition? with
    | some definition => if definition.handle = handle then some definition else view.lookup handle
    | none => view.lookup handle

def settle (view : View) (wrapper : Wrapper) : Wrapper :=
  match view.resolve wrapper with
  | some definition => { wrapper with cached := some definition.serial }
  | none => wrapper

def settleNode (view : View) (node : Node) : Node :=
  match node.kind with
  | .wrapper wrapper => { node with kind := .wrapper (view.settle wrapper) }
  | _ => node

def handles (view : View) : List Handle := view.live.map fun definition => definition.handle

end View

structure Site where
  owner : Option Serial
  node : NodeId
deriving DecidableEq

def View.settleGraph (view : View) (sites : List Site) (owner : Option Serial)
    (graph : ShaderGraph) : ShaderGraph :=
  graph.withGraph { graph.toGraph with
    nodes := graph.nodes.mapValues fun id node =>
      if sites.contains ⟨owner, id⟩ then view.settleNode node else node }

structure Assets where
  live : List Live
  stored : Keyed Handle Serial
  held : Keyed Handle Serial
  next : Serial

namespace Assets

def empty : Assets := ⟨[], .empty, .empty, 0⟩

def view (assets : Assets) : View := ⟨assets.live, assets.stored⟩

def blindView (assets : Assets) : View := ⟨assets.live, .empty⟩

def get? (assets : Assets) (handle : Handle) : Option Live := assets.view.lookup handle

def release (assets : Assets) : Assets :=
  { assets with live := assets.live.filter fun definition =>
      assets.stored.values.contains definition.serial ||
        assets.held.values.contains definition.serial }

def store (assets : Assets) (definition : Definition) : Assets :=
  release { assets with
    live := assets.live ++ [{ definition with serial := assets.next }]
    stored := assets.stored.insert definition.handle assets.next
    next := assets.next + 1 }

def storeAll (assets : Assets) (definitions : List Definition) : Assets :=
  definitions.foldl store assets

def remove (assets : Assets) (handle : Handle) : Assets :=
  release { assets with stored := assets.stored.erase handle }

/-- Keeps the definition now stored under a handle alive, instead of the one held for it before. -/
def hold (assets : Assets) (handle : Handle) : Assets :=
  match assets.stored.get? handle with
  | some serial => release { assets with held := assets.held.insert handle serial }
  | none => assets

def unhold (assets : Assets) (handle : Handle) : Assets :=
  release { assets with held := assets.held.erase handle }

def definitions (assets : Assets) : List Live :=
  assets.stored.values.filterMap assets.view.definition?

/-- What the wrappers at the sites remember after an operation that resolved them. -/
def settle (assets : Assets) (view : View) (sites : List Site) : Assets :=
  { assets with live := assets.live.map fun definition =>
      { definition with graph := view.settleGraph sites (some definition.serial) definition.graph } }

end Assets
end NodeShader
