import ScriptPress.Cli.Command
import ScriptPress.Request.File
import ScriptPress.Run
import ScriptPress.Session

/-!
# The commands that make a script

What `render`, `generate`, `try` and `languages` do. Each of them writes or prints its whole result
last, so a run that fails leaves nothing behind.
-/
namespace ScriptPress.Cli

/-- The request in which every option that was given takes the place of its field. -/
def Fields.over (f : Fields) (r : Request) : Request where
  language := f.language.getD r.language
  extension := f.extension <|> r.extension
  filePattern := f.filePattern <|> r.filePattern
  runtimeVersion := f.runtimeVersion.getD r.runtimeVersion
  dependencyVersion := f.dependencyVersion.getD r.dependencyVersion
  body := r.body

def namesLanguage (r : Request) : Bool := Text.trimmed r.language ≠ ""

/-- The request of a request file, the options and a body file. -/
def requestOf (f : Fields) (s : Sources) : Run Request := do
  let base ← match s.request with
    | some path => Run.readFile path fun content => Run.ofReport (Request.ofFile path content)
    | none => Run.done Request.blank
  let r := f.over base
  if !namesLanguage r then
    Run.fail (.plain
      "No language given. Pass --language or a request file with `language`.")
  else
    match s.body with
    | some path => do
      let body ← Run.source path
      return { r with body := body }
    | none => return r

def warn : List String → Run Unit
  | [] => .done ()
  | text :: rest => .note (.warning text) (warn rest)

def deliver (output : Option String) (text : String) : Run Unit :=
  match output with
  | some path => do
    Run.write path text
    Run.tell (.status ("Wrote " ++ path))
  | none => Run.printLine text

def emit (r : Request) (output : Option String) : Run Unit := do
  let snippet ← Run.ofFault r.assemble
  warn snippet.warnings
  deliver output snippet.text

def render (f : Fields) (s : Sources) : Run Unit := do
  let r ← requestOf f s
  emit r f.output

def trial (f : Fields) (s : Sources) (source endpoint : String) : Run Unit := do
  let r ← requestOf f s
  let snippet ← Run.ofFault r.assemble
  warn snippet.warnings
  let code ← Run.source source
  let e ← Run.ofFault (Service.Endpoint.ofText endpoint)
  let address := e.address snippet.language .tryScript
  Run.tell (.status ("Running snippet via " ++ Service.addressText address))
  let outcome ← Run.post .tryScript address (snippet.trial code).payload
  let result ← Run.ofFault outcome
  deliver f.output result

def readPairs (i : Nat) (s : Session) : List (String × String) → Run Session
  | [] => .done s
  | (input, expected) :: rest => do
    let s := if i = 0 then s else s.addExample
    let before ← Run.source input
    let s := s.editInput i before
    let after ← Run.source expected
    readPairs (i + 1) (s.editOutput i after) rest

def unpaired (inputs expected : Nat) : Report :=
  .plain ("Got " ++ toString inputs ++ " --input file(s) but " ++ toString expected ++
    " --expected file(s); they must pair up")

def sessionOf (language : Language) (extension : Option String) : Except Fault Session :=
  match extension with
  | some text => (Session.start language).setExtension text
  | none => .ok (Session.start language)

def warnOf : Except Fault String → Run Unit
  | .ok _ => .done ()
  | .error fault => Run.tell (.warning fault.message)

def generate (f : Fields) (inputs expected : List String) (endpoint : String) : Run Unit := do
  let id ← match f.language with
    | some id => Run.done id
    | none => Run.fail (.plain "No language given. Pass --language.")
  let language ← Run.ofFault (Language.resolve id)
  if inputs.length ≠ expected.length then
    Run.fail (unpaired inputs.length expected.length)
  else
    let session ← Run.ofFault (sessionOf language f.extension)
    let session ← readPairs 0 session (inputs.zip expected)
    let e ← Run.ofFault (Service.Endpoint.ofText endpoint)
    let (revision, query) := session.bodyQuery
    let address := e.address language .inferBody
    Run.tell (.status ("Generating snippet via " ++ Service.addressText address))
    let outcome ← Run.post .inferBody address query.payload
    warnOf outcome
    let (_, session) := session.acceptBody revision (Service.bodyOrEmpty outcome)
    emit (f.over session.request) f.output

/-! ### The list of languages -/

def leftAligned (width : Nat) (s : String) : String := s.pushn ' ' (width - s.length)

def languageLine (l : Language) : String :=
  "  -> " ++ leftAligned 12 l.id ++ " " ++ leftAligned 12 l.family.name ++ " " ++
    ", ".intercalate (l.extensions.map ("." ++ ·))

def languages : Run Unit :=
  Run.printLine ("\n".intercalate ("Supported languages" :: "" :: Language.all.map languageLine))

end ScriptPress.Cli
