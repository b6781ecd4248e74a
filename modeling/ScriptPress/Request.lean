import ScriptPress.Requirement.Advice
import ScriptPress.Script.Layout
import ScriptPress.Service.Call

/-!
# Requests and the scripts assembled from them

A request holds the fields of a script as they were given. `Request.assemble` resolves them in a
fixed order, language, extension, file pattern, runtime and dependency, and lays the script out;
the first field that cannot be resolved is reported, and the body is never looked into.
-/
namespace ScriptPress

/-- The fields of a script as they were given. -/
structure Request where
  language : String
  extension : Option String
  filePattern : Option String
  runtimeVersion : String
  dependencyVersion : String
  body : String
  deriving DecidableEq, Repr

def Request.blank : Request := ⟨"", none, none, "", "", ""⟩

/-- An assembled script and the resolved fields it was laid out from. -/
structure Snippet where
  language : Language
  extension : String
  filePattern : String
  runtime : Option Requirement
  dependency : Option Requirement
  text : String
  deriving DecidableEq, Repr

namespace Snippet

def warnings (s : Snippet) : List String :=
  (s.runtime.bind Requirement.runtimeAdvice).toList ++
    (s.dependency.bind (Requirement.dependencyAdvice s.language.family)).toList

def trial (s : Snippet) (code : String) : Service.TrialQuery := ⟨s.extension, code, s.text⟩

end Snippet

namespace Request

/-- The file pattern in force: the given one without blanks around it, or the pattern of all files
with the extension when none or a blank one is given. -/
def patternOr (extension : String) : Option String → String
  | none => Language.defaultPattern extension
  | some given =>
    match Text.trim given.toList with
    | [] => Language.defaultPattern extension
    | pattern => String.ofList pattern

def assemble (r : Request) : Except Fault Snippet := do
  let language ← Language.resolve r.language
  let extension ← language.resolveExtension r.extension
  let filePattern := patternOr extension r.filePattern
  ensureSingleLine .filePattern filePattern
  let runtime ← Requirement.ofRuntime language r.runtimeVersion
  let dependency ← Requirement.ofDependency r.dependencyVersion
  return {
    language, extension, filePattern, runtime, dependency
    text := Script.combine language.family ⟨filePattern, runtime, dependency, r.body⟩ }

def textOrEmpty (r : Request) : String :=
  match r.assemble with
  | .ok s => s.text
  | .error _ => ""

end Request
end ScriptPress
