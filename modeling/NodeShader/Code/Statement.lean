import NodeShader.Graph
import NodeShader.Settings
import NodeShader.Code.Page

/-! Generated code as data: what a statement declares, reads and writes. Text is made from it in
one last step. -/
namespace NodeShader

structure Local where
  node : NodeId
  slot : SlotId
  name : String
deriving DecidableEq

/-- Where an input slot takes its value from. -/
inductive Reading where
  /-- The local variable of the output that feeds the slot. -/
  | output (cell : Local) (source target : ValueType)
  /-- The property that the feeding node reads. -/
  | property (name : String) (source target : ValueType)
  /-- The uniform for the default of a texture slot. -/
  | uniform (name : String)
  | literal (text : String)
deriving DecidableEq

inductive Argument where
  | value (type : ValueType) (reading : Reading)
  | context (name : String)
  | out (cell : Local)
deriving DecidableEq

inductive Statement where
  | declare (cell : Local) (type : ValueType)
  /-- Declares a variable that nothing computes, as zero. -/
  | declareZero (cell : Local) (type : ValueType)
  | call (function : String) (arguments : List Argument)
  | assign (target : String) (value : Reading)
  | errorRemark (node : String)
deriving DecidableEq

inductive Parameter where
  | property (name : String) (type : ValueType)
  | context (type name : String)
  | out (name : String) (type : ValueType)
deriving DecidableEq

structure Block where
  node : NodeId
  statements : List Statement
deriving DecidableEq

structure Routine where
  name : String
  parameters : List Parameter
  blocks : List Block
deriving DecidableEq

def Reading.text (precision : Precision) : Reading → String
  | output cell source target => source.convert target precision cell.name
  | property name source target => source.convert target precision name
  | uniform name => name
  | literal text => text

def Argument.text (precision : Precision) : Argument → String
  | value type reading => type.argument (reading.text precision)
  | context name => name
  | out cell => cell.name

def Statement.text (precision : Precision) : Statement → String
  | declare cell type => type.keyword precision ++ " " ++ cell.name ++ ";"
  | declareZero cell type =>
    type.keyword precision ++ " " ++ cell.name ++ " = " ++ type.zeroLiteral precision ++ ";"
  | call function arguments =>
    function ++ "(" ++ String.intercalate ", " (arguments.map (Argument.text precision)) ++ ");"
  | assign target value => target ++ " = " ++ value.text precision ++ ";"
  | errorRemark node => "// " ++ node ++ " has errors"

def Parameter.text (precision : Precision) : Parameter → String
  | property name type => type.parameter precision name
  | context type name => type ++ " " ++ name
  | out name type => "out " ++ type.keyword precision ++ " " ++ name

def Routine.header (precision : Precision) (routine : Routine) : String :=
  "void " ++ routine.name ++ "(" ++
    String.intercalate ", " (routine.parameters.map (Parameter.text precision)) ++ ")"

def Routine.statements (routine : Routine) : List Statement :=
  routine.blocks.flatMap Block.statements

def Page.addStatements (page : Page) (precision : Precision) (statements : List Statement) : Page :=
  statements.foldl (fun page statement => page.addBody (statement.text precision)) page

def Page.addRoutine (page : Page) (precision : Precision) (routine : Routine) : Page :=
  (((page.addStatement (routine.header precision)).openBrace).addStatements precision
    routine.statements).closeBrace

def Routine.text (precision : Precision) (routine : Routine) : String :=
  (Page.empty.addRoutine precision routine).text

end NodeShader
