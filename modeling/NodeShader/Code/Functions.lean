import NodeShader.Code.Block

/-! Functions by name, in the order of their registration. The first text under a name stays, and
whatever a function calls is registered before it. -/
namespace NodeShader

abbrev Functions := Keyed String String

namespace Functions

def provide (functions : Functions) (name : String) (body : Unit → String) : Functions :=
  if functions.contains name then functions else functions.insert name (body ())

def source (functions : Functions) : String :=
  String.join (functions.values.map (· ++ "\n"))

end Functions

def blockText (text : String) : String := (Page.empty.addBody text).text

def FunctionCall.register (settings : Settings) (functions : Functions) (call : FunctionCall) :
    Functions :=
  match call.body with
  | some body =>
    functions.provide (settings.expand call.function) fun _ => blockText (settings.expand body)
  | none => functions

/-- Registers what an event of the walk calls for: the text of a function node, or the function of
a definition once all inside it is registered. -/
def Event.register (view : View) (settings : Settings) (functions : Functions) :
    Event → Functions
  | meet _ _ node =>
    match node.kind with
    | .function call => call.register settings functions
    | _ => functions
  | complete definition =>
    let name := functionName (some definition.toDefinition)
    functions.provide name fun _ =>
      (definition.graph.routine view settings name true).text settings.precision

def View.generate (view : View) (settings : Settings) (functions : Functions)
    (graph : ShaderGraph) : Functions :=
  (view.soundWalk graph).foldl (Event.register view settings) functions

end NodeShader
