import NodeShader.ValueType
import NodeShader.Text.Substitution

/-! Settings of a compilation, and the templates that are written in terms of them. -/
namespace NodeShader

structure Settings where
  precision : Precision
  contextType : String
  contextArgument : String
  entryPoint : String
deriving DecidableEq

namespace Settings

def standard : Settings := ⟨.float, "SurfaceInputs", "IN", "SurfaceMain"⟩

instance : Inhabited Settings := ⟨standard⟩

/-- The placeholders of a template, each with the text that stands for it, in the order in which
they are replaced. A later replacement also sees the text brought in by an earlier one. -/
def placeholders (settings : Settings) : List (List Char × List Char) :=
  [("$precision".toList, settings.precision.keyword.toList),
   ("$context".toList, settings.contextType.toList),
   ("$in".toList, settings.contextArgument.toList)]

def expandChars (settings : Settings) (template : List Char) : List Char :=
  settings.placeholders.foldl
    (fun text placeholder => Text.replaceAll placeholder.1 placeholder.2 text) template

def expand (settings : Settings) (template : String) : String :=
  String.ofList (settings.expandChars template.toList)

end Settings
end NodeShader
