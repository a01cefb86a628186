import NodeShader.Archive.Graph
import NodeShader.Project

/-! The archived form of settings and projects, and the texts of what is kept in files. -/
namespace NodeShader

namespace Archive
open Ron

def Precision.name : Precision → String
  | .float => "Float"
  | .half => "Half"

def settingsTree (settings : Settings) : Tree :=
  struct true "CompilerSettings"
    [("precision", .word (Precision.name settings.precision)),
     ("context_type", .text settings.contextType),
     ("context_argument", .text settings.contextArgument),
     ("entry_point", .text settings.entryPoint)]

/-- A setting that is left out has its standard value. -/
def settingsReader : Reader Settings := .struct "CompilerSettings" (Settings.mk
  <$> .defaulted "precision" (.word [.float, .half] Precision.name) Settings.standard.precision
  <*> .defaulted "context_type" .text Settings.standard.contextType
  <*> .defaulted "context_argument" .text Settings.standard.contextArgument
  <*> .defaulted "entry_point" .text Settings.standard.entryPoint)

def projectTree (project : Project) : Tree :=
  struct true "ShaderProject"
    [("settings", settingsTree project.settings),
     ("root", shaderGraphTree true project.root),
     ("sub_graphs", .list (project.definitions.map (definitionTree true)))]

def projectReader : Reader Project := .struct "ShaderProject" (Project.mk
  <$> .defaulted "settings" settingsReader .standard
  <*> .required "root" shaderGraphReader
  <*> .defaulted "sub_graphs" (.list definitionReader) [])

end Archive

def Settings.read? (text : String) : Option Settings := Archive.settingsReader.run text

def Settings.text (settings : Settings) : String := (Archive.settingsTree settings).written

def ShaderGraph.read? (text : String) : Option ShaderGraph := Archive.shaderGraphReader.run text

def ShaderGraph.text (graph : ShaderGraph) (named : Bool) : String :=
  (Archive.shaderGraphTree named graph).written

def Definition.read? (text : String) : Option Definition := Archive.definitionReader.run text

def Project.read? (text : String) : Option Project := Archive.projectReader.run text

def Project.text (project : Project) : String := (Archive.projectTree project).written

end NodeShader
