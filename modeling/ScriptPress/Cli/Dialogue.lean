import ScriptPress.Cli.Scripts

/-!
# The dialogue

What `prompt` does: it asks for whatever the options do not give, field by field, and makes the
script of the answers. With `--yes` it takes the defaults instead of asking.
-/
namespace ScriptPress.Cli

open Prompt (Entry Question)

def requiredEntry (title : String) : Question := .entry ⟨title, "", true, fun _ => none⟩

/-! ### Fields -/

def askLanguage (o : PromptOptions) : Run Language :=
  match o.language with
  | some id => do
    let language ← Run.ofFault (Language.resolve id)
    Run.tell (.info ("Using language: " ++ language.name))
    return language
  | none => do
    let i ← Run.answer (.choice "Select a language" (Language.all.map Language.name))
    return (Language.all[i.val]?).getD .ruby

def askExtension (o : PromptOptions) (s : Session) : Run Session :=
  let extensions := s.language.extensions
  if extensions.length = 1 ∨ o.yes then return s
  else do
    let i ← Run.answer (.choice "Select a file extension" (extensions.map ("." ++ ·)))
    Run.ofFault (s.setExtension ((extensions[i.val]?).getD ""))

def askFilePattern (o : PromptOptions) (s : Session) : Run Session :=
  if o.yes then do
    Run.tell (.info ("File pattern: " ++ s.filePattern))
    return s
  else do
    let pattern ← Run.answer (.entry ⟨"File pattern", s.filePattern, true, fun _ => none⟩)
    return s.setFilePattern pattern

/-- What is wrong with a text that is read as a requirement. -/
def problemOf {α : Type} : Except Fault α → Option String
  | .ok _ => none
  | .error fault => some fault.message

def runtimeEntry (l : Language) : Entry :=
  ⟨"Minimum " ++ l.runtimeName ++ " version", "", false,
    fun text => problemOf (Requirement.ofRuntime l text)⟩

def dependencyEntry (l : Language) : Entry :=
  ⟨l.dependencyKind ++ " version", "", false, fun text => problemOf (Requirement.ofDependency text)⟩

/-- The two version fields; only texts that can be read are let through. -/
def askVersions (o : PromptOptions) (s : Session) : Run Session :=
  if o.yes then return s
  else do
    let runtime ← Run.answer (.entry (runtimeEntry s.language))
    let dependency ← Run.answer (.entry (dependencyEntry s.language))
    return (s.setRuntimeVersion runtime).setDependencyVersion dependency

/-! ### The body -/

/-- A session with a body that was not asked of the service. -/
def withBody (s : Session) (body : String) : Session := (s.acceptBody s.revision body).2

/-- Asks for example files, at most `limit` pairs, from the pair with a number on. -/
def askPairs : Nat → Nat → Session → Run Session
  | 0, _, s => .done s
  | limit + 1, i, s => do
    let s := if i = 0 then s else s.addExample
    let number := toString (i + 1)
    let input ← Run.answer (requiredEntry ("Input example #" ++ number ++ " (file)"))
    let before ← Run.source input
    let s := s.editInput i before
    let output ← Run.answer (requiredEntry ("Output example #" ++ number ++ " (file)"))
    let after ← Run.source output
    let s := s.editOutput i after
    let more : Bool ← Run.answer (.confirmation "Add another example?" false)
    if more then askPairs limit (i + 1) s else return s

def inferBody (limit : Nat) (o : PromptOptions) (s : Session) : Run Session :=
  match o.endpoint with
  | none => do
    Run.tell (.caution ("No snippet generator configured (set " ++ endpointVariable ++
      " or pass --api-url)"))
    return s
  | some text => do
    let e ← Run.ofFault (Service.Endpoint.ofText text)
    let s ← askPairs limit 0 s
    let (revision, query) := s.bodyQuery
    let outcome ← Run.post .inferBody (e.address s.language .inferBody) query.payload
    match outcome with
    | .ok body => do
      Run.tell (.finished "Snippet generated")
      return (s.acceptBody revision body).2
    | .error fault => do
      Run.tell (.finished "Snippet generation failed")
      Run.tell (.caution (fault.message ++ " (continuing with an empty body)"))
      return s

def bodyWays : List String := ["Generate from input/output examples", "Read from a file", "Leave empty"]

def askBody (limit : Nat) (o : PromptOptions) (s : Session) : Run Session :=
  match o.body with
  | some path => do
    let body ← Run.source path
    Run.tell (.info ("Using body from " ++ path))
    return withBody s body
  | none =>
    if o.yes then do
      Run.tell (.info "No body given, rendering an empty within-files block")
      return s
    else do
      let way ← Run.answer (.choice "Where does the transformation body come from?" bodyWays)
      match way.val with
      | 0 => inferBody limit o s
      | 1 => do
        let path ← Run.answer (requiredEntry "Body file")
        let body ← Run.source path
        return withBody s body
      | _ => return s

/-! ### The result -/

def askTarget (o : PromptOptions) : Run (Option String) :=
  match o.output with
  | some path => return some path
  | none =>
    if o.yes then return none
    else do
      let path ← Run.answer
        (.entry ⟨"Save to file (leave empty to print)", "", false, fun _ => none⟩)
      return if Text.trimmed path = "" then none else some (Text.trimmed path)

def conclude (target : Option String) (text : String) : Run Unit :=
  match target with
  | some path => do
    Run.write path text
    Run.tell (.outro ("Snippet written to " ++ path))
  | none => do
    Run.tell (.outro "Snippet ready")
    .print ("\n" ++ text ++ "\n") (.done ())

def caution : List String → Run Unit
  | [] => .done ()
  | text :: rest => .note (.caution text) (caution rest)

def askSession (limit : Nat) (o : PromptOptions) : Run Session := do
  let language ← askLanguage o
  let s ← askExtension o (Session.start language)
  let s ← askFilePattern o s
  let s ← askVersions o s
  askBody limit o s

/-- The command `prompt`. It asks for at most `limit` pairs of examples. -/
def dialogue (limit : Nat) (o : PromptOptions) : Run Unit :=
  Run.endingWith .cursorShown do
    Run.tell (.intro "Synvert Snippet")
    let s ← askSession limit o
    let snippet ← Run.ofFault s.render
    caution snippet.warnings
    let target ← askTarget o
    conclude target snippet.text

end ScriptPress.Cli
