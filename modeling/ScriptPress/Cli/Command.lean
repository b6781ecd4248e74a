import ScriptPress.Cli.Arguments

/-!
# Commands

The commands of the program and what they are given. The address of the service may come from the
environment where no option gives it; without any command the user is asked for everything.
-/
namespace ScriptPress.Cli

/-- The options that every command which makes a script shares. -/
structure Fields where
  language : Option String
  extension : Option String
  filePattern : Option String
  runtimeVersion : Option String
  dependencyVersion : Option String
  output : Option String
  deriving DecidableEq, Repr

/-- Where a request comes from apart from the shared options. -/
structure Sources where
  request : Option String
  body : Option String
  deriving DecidableEq, Repr

structure PromptOptions where
  language : Option String
  body : Option String
  endpoint : Option String
  output : Option String
  yes : Bool
  deriving DecidableEq, Repr

inductive Command where
  | render (fields : Fields) (sources : Sources)
  | generate (fields : Fields) (inputs expected : List String) (endpoint : String)
  | trial (fields : Fields) (sources : Sources) (source endpoint : String)
  | prompt (options : PromptOptions)
  | languages
  deriving DecidableEq, Repr

inductive Invocation where
  | command (c : Command)
  | version
  | help
  | misuse
  deriving DecidableEq, Repr

/-! ### Options -/

def endpointVariable : String := "SYNVERT_API_URL"

def single (name : String) (letter : Option Char) (takes : Takes) : OptionSpec :=
  ⟨name, letter, takes, false⟩

def fieldSpecs : List OptionSpec :=
  [single "language" (some 'l') .text, single "extension" (some 'e') .text,
    single "file-pattern" (some 'p') .text, single "runtime-version" none .text,
    single "dependency-version" none .text, single "output" (some 'o') .path]

def sourceSpecs : List OptionSpec :=
  [single "request" (some 'r') .path, single "body-file" (some 'b') .path]

def endpointSpec : OptionSpec := single "api-url" none .text

def renderSpecs : List OptionSpec := fieldSpecs ++ sourceSpecs

def generateSpecs : List OptionSpec :=
  fieldSpecs ++ [⟨"input", some 'i', .path, true⟩, ⟨"expected", some 'x', .path, true⟩, endpointSpec]

def trialSpecs : List OptionSpec :=
  fieldSpecs ++ sourceSpecs ++ [single "source" (some 's') .path, endpointSpec]

def promptSpecs : List OptionSpec :=
  [single "language" (some 'l') .text, single "body-file" (some 'b') .path, endpointSpec,
    single "output" (some 'o') .path, single "yes" (some 'y') .nothing]

/-! ### Commands from options -/

def Fields.ofGiven (g : Given) : Fields :=
  ⟨g.value? "language", g.value? "extension", g.value? "file-pattern", g.value? "runtime-version",
    g.value? "dependency-version", g.value? "output"⟩

def Sources.ofGiven (g : Given) : Sources := ⟨g.value? "request", g.value? "body-file"⟩

def endpoint? (environment : Option String) (g : Given) : Option String :=
  match g.value? "api-url" with
  | some address => some address
  | none => environment

/-- The command `generate`, if all that it needs was given. -/
def generateOf? (environment : Option String) (g : Given) : Option Command :=
  match g.values "input", g.values "expected", endpoint? environment g with
  | i :: inputs, x :: expected, some address =>
    some (.generate (.ofGiven g) (i :: inputs) (x :: expected) address)
  | _, _, _ => none

def trialOf? (environment : Option String) (g : Given) : Option Command :=
  match g.value? "source", endpoint? environment g with
  | some source, some address => some (.trial (.ofGiven g) (.ofGiven g) source address)
  | _, _ => none

def promptOf (environment : Option String) (g : Given) : Command :=
  .prompt ⟨g.value? "language", g.value? "body-file", endpoint? environment g, g.value? "output",
    g.has "yes"⟩

namespace Invocation

def ofCommand (specs : List OptionSpec) (command? : Given → Option Command) (args : List String) :
    Invocation :=
  match readArguments specs [] args with
  | .given g => ((command? g).map Invocation.command).getD .misuse
  | .help => .help
  | .wrong => .misuse

def commandNames : List String := ["render", "generate", "try", "prompt", "languages", "help"]

def ofName (environment : Option String) (name : String) (args : List String) : Invocation :=
  match name with
  | "render" => ofCommand renderSpecs (fun g => some (.render (.ofGiven g) (.ofGiven g))) args
  | "generate" => ofCommand generateSpecs (generateOf? environment) args
  | "try" => ofCommand trialSpecs (trialOf? environment) args
  | "prompt" => ofCommand promptSpecs (fun g => some (promptOf environment g)) args
  | "languages" => ofCommand [] (fun _ => some .languages) args
  | "help" =>
    match args with
    | [] => .help
    | [other] => if commandNames.contains other then .help else .misuse
    | _ => .misuse
  | _ => .misuse

def ofArguments (environment : Option String) : List String → Invocation
  | [] => .command (promptOf environment [])
  | arg :: rest =>
    match arg.toList with
    | ['-', '-'] => if rest.isEmpty then .command (promptOf environment []) else .misuse
    | '-' :: '-' :: name =>
      if String.ofList name = helpName then .help
      else if String.ofList name = "version" then .version
      else .misuse
    | '-' :: 'h' :: _ => .help
    | '-' :: 'V' :: _ => .version
    | '-' :: _ => .misuse
    | _ => ofName environment arg rest

end Invocation
end ScriptPress.Cli
