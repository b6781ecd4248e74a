import ScriptPress.Examples
import ScriptPress.Request
import ScriptPress.Service.Call

/-!
# Editing sessions

The fields of one script while they are being edited. Every edit that makes an earlier inferred
body useless moves the revision on; a body is asked for with the revision of that moment and taken
only while the revision is still the same. A change of language or extension takes everything else
back to its default.
-/
namespace ScriptPress

/-- The fields of one script while they are being edited. -/
structure Session where
  language : Language
  extension : String
  filePattern : String
  runtimeVersion : String
  dependencyVersion : String
  examples : Examples
  body : String
  /-- Counts the edits that make an earlier inferred body useless. -/
  revision : UInt64
  deriving DecidableEq, Repr

namespace Session

def fresh (language : Language) (extension : String) (revision : UInt64) : Session where
  language := language
  extension := extension
  filePattern := Language.defaultPattern extension
  runtimeVersion := ""
  dependencyVersion := ""
  examples := Examples.initial
  body := ""
  revision := revision

def start (language : Language) : Session := fresh language language.extension 0

/-! ### Edits -/

/-- Switches the language; everything else goes back to its default. -/
def setLanguage (s : Session) (language : Language) : Session :=
  fresh language language.extension (s.revision + 1)

/-- Switches the extension; pattern, versions, examples and body go back to their defaults. An
extension that the language does not have changes nothing. -/
def setExtension (s : Session) (text : String) : Except Fault Session :=
  match s.language.resolveExtension (some text) with
  | .ok extension => .ok (fresh s.language extension (s.revision + 1))
  | .error fault => .error fault

def setFilePattern (s : Session) (pattern : String) : Session := { s with filePattern := pattern }

def setRuntimeVersion (s : Session) (raw : String) : Session := { s with runtimeVersion := raw }

def setDependencyVersion (s : Session) (raw : String) : Session :=
  { s with dependencyVersion := raw }

def editInput (s : Session) (i : Nat) (code : String) : Session :=
  { s with examples := s.examples.withInput i code, revision := s.revision + 1 }

def editOutput (s : Session) (i : Nat) (code : String) : Session :=
  { s with examples := s.examples.withOutput i code, revision := s.revision + 1 }

def addExample (s : Session) : Session :=
  { s with examples := s.examples.withBlank, revision := s.revision + 1 }

/-! ### Bodies -/

def bodyQuery (s : Session) : UInt64 × Service.BodyQuery :=
  (s.revision, ⟨s.extension, s.examples.inputs, s.examples.outputs⟩)

/-- Takes a body that answers the current revision; any other is dropped. The first component says
whether it was taken. -/
def acceptBody (s : Session) (revision : UInt64) (body : String) : Bool × Session :=
  if revision = s.revision then (true, { s with body := body }) else (false, s)

theorem acceptBody_revision (s : Session) (body : String) :
    s.acceptBody s.revision body = (true, { s with body := body }) := by
  rw [acceptBody, if_pos rfl]

/-! ### Scripts -/

def request (s : Session) : Request where
  language := s.language.id
  extension := some s.extension
  filePattern := some s.filePattern
  runtimeVersion := s.runtimeVersion
  dependencyVersion := s.dependencyVersion
  body := s.body

def render (s : Session) : Except Fault Snippet := s.request.assemble

end Session
end ScriptPress
