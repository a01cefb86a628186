import NodeShader.Scene

/-! Projects: a root graph with the definitions that it may refer to, and the settings to compile
it with. -/
namespace NodeShader

structure Project where
  settings : Settings
  root : ShaderGraph
  definitions : List Definition
deriving DecidableEq

inductive CompileError where
  | slot (cause : SlotError)
  | validation (cause : ValidationError)
deriving DecidableEq

def CompileError.message : CompileError → String
  | slot cause => cause.message
  | validation cause => cause.message

namespace Project

def assets (project : Project) : Assets := Assets.empty.storeAll project.definitions

def compile (settings : Settings) (project : Project) : Except CompileError Compiled :=
  let view := project.assets.view
  match project.root.refreshWrappers view with
  | (_, .error cause) => .error (.slot cause)
  | (root, .ok _) =>
    match (Scene.mk root project.assets).compile view settings with
    | (.error cause, _) => .error (.validation cause)
    | (.ok compiled, _) => .ok compiled

end Project
end NodeShader
