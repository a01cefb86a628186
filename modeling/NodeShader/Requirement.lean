/-! What nodes need from the surrounding pipeline: geometry in some coordinate spaces, mesh
coordinates, and global inputs. Answers to one question are folded by union. -/
namespace NodeShader

structure Spaces where
  bits : UInt8
deriving DecidableEq

namespace Spaces

def none : Spaces := ⟨0⟩
def object : Spaces := ⟨1⟩
def view : Spaces := ⟨2⟩
def world : Spaces := ⟨4⟩
def tangent : Spaces := ⟨8⟩

def union (a b : Spaces) : Spaces := ⟨a.bits ||| b.bits⟩

def isEmpty (a : Spaces) : Bool := a.bits = 0

def contains (a b : Spaces) : Bool := a.bits &&& b.bits = b.bits

def named : List (Spaces × String) :=
  [(object, "Object"), (view, "View"), (world, "World"), (tangent, "Tangent")]

def text (a : Spaces) : String :=
  if a.isEmpty then "None"
  else String.intercalate "|" ((named.filter fun space => a.contains space.1).map (·.2))

end Spaces

inductive UvChannel where
  | uv0 | uv1 | uv2 | uv3
deriving DecidableEq

namespace UvChannel

def all : List UvChannel := [uv0, uv1, uv2, uv3]

def index : UvChannel → Nat
  | uv0 => 0
  | uv1 => 1
  | uv2 => 2
  | uv3 => 3

def name : UvChannel → String
  | uv0 => "Uv0"
  | uv1 => "Uv1"
  | uv2 => "Uv2"
  | uv3 => "Uv3"

def sorted (channels : List UvChannel) : List UvChannel :=
  all.flatMap fun channel => channels.filter (· = channel)

end UvChannel

inductive Capability where
  | normal | tangent | bitangent | position | viewDirection
  | meshUv (channel : UvChannel)
  | screenPosition | time | vertexColor
deriving DecidableEq

inductive Requirement where
  | spaces (needed : Spaces)
  | flag (needed : Bool)
deriving DecidableEq

namespace Requirement

/-- Answers to the same question are united; of two that do not match, the first stays. -/
def combine : Requirement → Requirement → Requirement
  | spaces a, spaces b => spaces (a.union b)
  | flag a, flag b => flag (a || b)
  | a, _ => a

def asSpaces : Requirement → Spaces
  | spaces needed => needed
  | flag _ => .none

def asFlag : Requirement → Bool
  | spaces needed => !needed.isEmpty
  | flag needed => needed

def isNeutral (requirement : Requirement) : Bool := !requirement.asFlag

end Requirement

namespace Capability

def all : List Capability :=
  [normal, tangent, bitangent, position, viewDirection, screenPosition, time, vertexColor] ++
    UvChannel.all.map meshUv

def isMask : Capability → Bool
  | normal | tangent | bitangent | position | viewDirection => true
  | _ => false

def neutral (capability : Capability) : Requirement :=
  if capability.isMask then .spaces .none else .flag false

def name : Capability → String
  | normal => "Normal"
  | tangent => "Tangent"
  | bitangent => "Bitangent"
  | position => "Position"
  | viewDirection => "ViewDirection"
  | meshUv channel => "MeshUv(" ++ channel.name ++ ")"
  | screenPosition => "ScreenPosition"
  | time => "Time"
  | vertexColor => "VertexColor"

end Capability

structure Requirements where
  normal : Spaces
  tangent : Spaces
  bitangent : Spaces
  position : Spaces
  viewDirection : Spaces
  meshUv : List UvChannel
  screenPosition : Bool
  time : Bool
  vertexColor : Bool
deriving DecidableEq

namespace Requirements

def none : Requirements :=
  ⟨.none, .none, .none, .none, .none, [], false, false, false⟩

instance : Inhabited Requirements := ⟨none⟩

def query (needs : Requirements) : Capability → Requirement
  | .normal => .spaces needs.normal
  | .tangent => .spaces needs.tangent
  | .bitangent => .spaces needs.bitangent
  | .position => .spaces needs.position
  | .viewDirection => .spaces needs.viewDirection
  | .meshUv channel => .flag (needs.meshUv.contains channel)
  | .screenPosition => .flag needs.screenPosition
  | .time => .flag needs.time
  | .vertexColor => .flag needs.vertexColor

def record (needs : Requirements) (capability : Capability) (answer : Requirement) :
    Requirements :=
  let spaces := answer.asSpaces
  let flag := answer.asFlag
  match capability with
  | .normal => { needs with normal := needs.normal.union spaces }
  | .tangent => { needs with tangent := needs.tangent.union spaces }
  | .bitangent => { needs with bitangent := needs.bitangent.union spaces }
  | .position => { needs with position := needs.position.union spaces }
  | .viewDirection => { needs with viewDirection := needs.viewDirection.union spaces }
  | .meshUv channel =>
    if flag && !needs.meshUv.contains channel then
      { needs with meshUv := UvChannel.sorted (needs.meshUv ++ [channel]) }
    else needs
  | .screenPosition => { needs with screenPosition := needs.screenPosition || flag }
  | .time => { needs with time := needs.time || flag }
  | .vertexColor => { needs with vertexColor := needs.vertexColor || flag }

def recordAll (needs : Requirements) (answer : Capability → Requirement) : Requirements :=
  Capability.all.foldl (fun needs capability => needs.record capability (answer capability)) needs

def union (a b : Requirements) : Requirements := a.recordAll b.query

def isEmpty (needs : Requirements) : Bool :=
  Capability.all.all fun capability => (needs.query capability).isNeutral

def combined (records : List Requirements) (capability : Capability) : Requirement :=
  records.foldl (fun answer needs => answer.combine (needs.query capability)) capability.neutral

def ofList (records : List Requirements) : Requirements := none.recordAll (combined records)

end Requirements
end NodeShader
