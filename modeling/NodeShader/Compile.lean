import NodeShader.Code.Functions
import NodeShader.Code.Uniforms
import NodeShader.Validation

/-! Compilation of a root graph to shader source and what the material needs to know about it. -/
namespace NodeShader

structure Compiled where
  functions : List (String × String)
  uniforms : String
  entry : String
  requirements : Requirements
  properties : List Uniform
  report : Report
deriving DecidableEq

def Compiled.source (compiled : Compiled) : String :=
  (if compiled.uniforms.isEmpty then "" else compiled.uniforms ++ "\n") ++
    String.join (compiled.functions.map (·.2 ++ "\n")) ++ compiled.entry

namespace View

def emit (view : View) (settings : Settings) (functions : Functions) (report : Report)
    (graph : ShaderGraph) : Compiled × Functions :=
  let uniforms := view.uniforms graph
  let entry := graph.routine view settings settings.entryPoint false
  ({ functions := []
     uniforms := uniforms.declarations settings.precision
     entry := entry.text settings.precision
     requirements := view.requirements graph graph.sound
     properties := uniforms.values
     report }, view.generate settings functions graph)

/-- Compiles into a table of functions that may be shared with other compilations. -/
def compileInto (view : View) (settings : Settings) (functions : Functions) (graph : ShaderGraph) :
    Except ValidationError (Compiled × Functions × ShaderGraph) := do
  let (report, flagged) ← view.validate graph
  let (compiled, functions) := view.emit settings functions report flagged
  return (compiled, functions, flagged)

def compile (view : View) (settings : Settings) (graph : ShaderGraph) :
    Except ValidationError (Compiled × ShaderGraph) := do
  let (compiled, functions, flagged) ← view.compileInto settings .empty graph
  return ({ compiled with functions := functions.entries }, flagged)

end View
end NodeShader
