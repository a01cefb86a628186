import NodeShader.Build
import NodeShader.CommandLine
import NodeShader.Demo

/-! The command line: files in, files and standard output out. -/
namespace NodeShader.CommandLine

def usage : String :=
  "Compile shader graphs with nested sub-graphs\n\n" ++
  "Usage: nodeshader compile [--settings <file>] [-o <file>] <project>\n" ++
  "       nodeshader demo <project>\n" ++
  "       nodeshader help\n"

def fail (message : String) : IO UInt32 := do
  IO.eprintln message
  return 1

def compileFile (project : String) (settings output : Option String) : IO UInt32 := do
  let projectText ← IO.FS.readFile project
  let settingsText ← settings.mapM fun path => IO.FS.readFile path
  match build projectText settingsText with
  | .error cause => fail cause.message
  | .ok compiled =>
    for warning in compiled.report.warnings do
      IO.eprintln ("warning: " ++ warning.message)
    match output with
    | some path => IO.FS.writeFile path compiled.source
    | none => IO.print compiled.source
    return 0

def randomWord : IO UInt64 := do
  let bytes ← IO.getRandomBytes 8
  return bytes.toList.foldl (fun word byte => word * 256 + byte.toUInt64) 0

def randomGuid : IO Guid := do
  let high ← randomWord
  let low ← randomWord
  return ⟨(high &&& 0xFFFFFFFFFFFF0FFF) ||| 0x4000, (low &&& 0x3FFFFFFFFFFFFFFF) ||| 0x8000000000000000⟩

def writeDemo (path : String) : IO UInt32 := do
  let supply ← (List.range 16).mapM fun _ => randomGuid
  match Demo.project (.ofSupply fun index => supply.getD index default) with
  | none => fail "The demo project cannot be built"
  | some project =>
    IO.FS.writeFile path project.text
    return 0

def run (outcome : Outcome) : IO UInt32 := do
  match outcome with
  | .run (.compile project settings output) =>
    try compileFile project settings output
    catch cause => fail ("I/O error on a file: " ++ toString cause)
  | .run (.demo path) =>
    try writeDemo path
    catch cause => fail ("I/O error on a file: " ++ toString cause)
  | .help => do
    IO.print usage
    return exitCode .help
  | .version => do
    IO.println "nodeshader 0.1.0"
    return exitCode .version
  | .usageError => do
    IO.eprint usage
    return exitCode .usageError

end NodeShader.CommandLine

def main (arguments : List String) : IO UInt32 :=
  NodeShader.CommandLine.run (NodeShader.CommandLine.read arguments)
