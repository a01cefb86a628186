/-! The arguments of the command line: a subcommand, its options and its file. The first thing
wrong, or the first request for help, decides. -/
namespace NodeShader.CommandLine

inductive Command where
  | compile (project : String) (settings output : Option String)
  | demo (path : String)
deriving DecidableEq

inductive Outcome where
  | run (command : Command)
  | help
  | version
  | usageError
deriving DecidableEq

inductive Choice where
  | settings
  | output
deriving DecidableEq

/-- What an argument is in front of the end-of-options mark. -/
inductive Argument where
  | endOfOptions
  | help
  | version
  | setting (choice : Choice) (attached : Option String)
  | unknown
  | plain (text : String)
deriving DecidableEq

def longArgument (choices : List Choice) (body : List Char) : Argument :=
  let name := String.ofList (body.takeWhile (· ≠ '='))
  let attached := match body.dropWhile (· ≠ '=') with
    | _ :: value => some (String.ofList value)
    | [] => none
  match name, attached with
  | "help", none => .help
  | "version", none => .version
  | "settings", attached => if .settings ∈ choices then .setting .settings attached else .unknown
  | "output", attached => if .output ∈ choices then .setting .output attached else .unknown
  | _, _ => .unknown

/-- A short option may have its value right after it, or after an equals sign. -/
def shortArgument (choices : List Choice) : List Char → Argument
  | 'h' :: _ => .help
  | 'V' :: _ => .version
  | 'o' :: value =>
    if .output ∈ choices then
      .setting .output (match value with
        | [] => none
        | '=' :: rest => some (String.ofList rest)
        | rest => some (String.ofList rest))
    else .unknown
  | _ => .unknown

def classify (choices : List Choice) (argument : String) : Argument :=
  match argument.toList with
  | ['-', '-'] => .endOfOptions
  | '-' :: '-' :: body => longArgument choices body
  | '-' :: c :: body => shortArgument choices (c :: body)
  | _ => .plain argument

structure Given where
  file : Option String
  settings : Option String
  output : Option String

def Given.setting (given : Given) : Choice → Option String
  | .settings => given.settings
  | .output => given.output

def Given.set (given : Given) (choice : Choice) (value : String) : Given :=
  match choice with
  | .settings => { given with settings := some value }
  | .output => { given with output := some value }

def Given.addFile (given : Given) (path : String) : Option Given :=
  if given.file.isSome || path.isEmpty then none else some { given with file := some path }

def Given.add (given : Given) (choice : Choice) (value : String) : Option Given :=
  if (given.setting choice).isSome || value.isEmpty then none else some (given.set choice value)

/-- Reads the arguments after a subcommand; `pending` is an option that waits for its value. -/
def readGiven (choices : List Choice) (pending : Option Choice) (given : Given) :
    List String → Except Outcome Given
  | [] => if pending.isSome then .error .usageError else .ok given
  | argument :: rest =>
    match pending, classify choices argument with
    | some choice, .plain text =>
      match given.add choice text with
      | some given => readGiven choices none given rest
      | none => .error .usageError
    | some _, _ => .error .usageError
    | none, .plain text =>
      match given.addFile text with
      | some given => readGiven choices none given rest
      | none => .error .usageError
    | none, .setting choice none => readGiven choices (some choice) given rest
    | none, .setting choice (some text) =>
      match given.add choice text with
      | some given => readGiven choices none given rest
      | none => .error .usageError
    | none, .endOfOptions =>
      match rest.foldlM Given.addFile given with
      | some given => .ok given
      | none => .error .usageError
    | none, .help => .error .help
    | none, .version | none, .unknown => .error .usageError

def readCommand (choices : List Choice) (command : Given → String → Command)
    (arguments : List String) : Outcome :=
  match readGiven choices none ⟨none, none, none⟩ arguments with
  | .error outcome => outcome
  | .ok given =>
    match given.file with
    | some file => .run (command given file)
    | none => .usageError

def readHelp : List String → Outcome
  | [] | ["compile"] | ["demo"] | ["help"] => .help
  | _ => .usageError

def read : List String → Outcome
  | [] => .usageError
  | "compile" :: rest =>
    readCommand [.settings, .output]
      (fun given project => .compile project given.settings given.output) rest
  | "demo" :: rest => readCommand [] (fun _ path => .demo path) rest
  | "help" :: rest => readHelp rest
  | argument :: _ =>
    match classify [] argument with
    | .help => .help
    | .version => .version
    | _ => .usageError

def exitCode : Outcome → UInt32
  | .usageError => 2
  | _ => 0

end NodeShader.CommandLine
