import ScriptPress.Fault
import ScriptPress.Text.Control

/-!
# Version requirements

A requirement names a runtime or a package and says which versions of it a script is for. The two
version fields of a request are read here: the dependency field is a name and a specification
with blanks between, the runtime field is a specification alone.
-/
namespace ScriptPress

/-- What a guard of a script demands: a version specification for a subject. -/
structure Requirement where
  subject : String
  spec : String
  deriving DecidableEq, Repr

def ensureSingleLine (field : Field) (value : String) : Except Fault Unit :=
  if Text.hasControl value then .error (.controlCharacter field value) else .ok ()

theorem ensureSingleLine_eq_ok_iff (field : Field) (value : String) :
    ensureSingleLine field value = .ok () ↔ Text.hasControl value = false := by
  unfold ensureSingleLine
  cases Text.hasControl value <;> simp

theorem ensureSingleLine_eq_error_iff (field : Field) (value : String) (fault : Fault) :
    ensureSingleLine field value = .error fault ↔
      Text.hasControl value = true ∧ fault = .controlCharacter field value := by
  unfold ensureSingleLine
  cases Text.hasControl value with
  | false => simp
  | true => simp [eq_comm]

namespace Requirement

/-- Reads a dependency field such as `rails ~> 7.0.3`: the name ends at the first blank. A blank
field asks for nothing; a name alone is refused. -/
def ofDependency (raw : String) : Except Fault (Option Requirement) :=
  match Text.trim raw.toList with
  | [] => .ok none
  | c :: s =>
    let subject := (c :: s).takeWhile (!Text.isBlank ·)
    match (c :: s).dropWhile (!Text.isBlank ·) with
    | [] => .error (.malformed .dependencyVersion raw .nameAndVersion)
    | blank :: rest =>
      let spec := String.ofList (Text.trimStart (blank :: rest))
      match ensureSingleLine .dependencyVersion spec with
      | .error fault => .error fault
      | .ok () => .ok (some ⟨String.ofList subject, spec⟩)

/-- Reads a runtime field such as `3.1.2`; its subject is the runtime of the language. -/
def ofRuntime (l : Language) (raw : String) : Except Fault (Option Requirement) :=
  let spec := Text.trim raw.toList
  if spec.isEmpty then .ok none
  else if spec.any Text.isBlank then .error (.malformed .runtimeVersion raw .singleVersion)
  else .ok (some ⟨l.runtimeName, String.ofList spec⟩)

end Requirement
end ScriptPress
