import NodeShader.Archive.Project

/-! From the texts of files to a compiled shader. A text that cannot be read is reported before
anything is compiled, the project's before that of the settings. -/
namespace NodeShader

inductive BuildError where
  | unreadableProject
  | unreadableSettings
  | failed (cause : CompileError)
deriving DecidableEq

def BuildError.message : BuildError → String
  | unreadableProject => "Failed to parse project"
  | unreadableSettings => "Invalid settings file"
  | failed cause => cause.message

def build (project : String) (settings : Option String) : Except BuildError Compiled :=
  match Project.read? project with
  | none => .error .unreadableProject
  | some project =>
    match settings.elim (some project.settings) Settings.read? with
    | none => .error .unreadableSettings
    | some settings => (project.compile settings).mapError .failed

def Warning.line (warning : Warning) : String :=
  String.ofList ((Text.lines warning.message.toList).headD [])

end NodeShader
