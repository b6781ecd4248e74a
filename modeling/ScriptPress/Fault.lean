import ScriptPress.Language

/-!
# Faults

Why a script cannot be assembled or a body cannot be had. Each fault is a value that carries what
it is about; its wording is in `Fault.message` alone.
-/
namespace ScriptPress

inductive Field where
  | filePattern
  | runtimeVersion
  | dependencyVersion
  deriving DecidableEq, Repr

def Field.label : Field → String
  | .filePattern => "file pattern"
  | .runtimeVersion => "runtime version"
  | .dependencyVersion => "dependency version"

/-- The form that a version field should have had. -/
inductive Form where
  | singleVersion
  | nameAndVersion
  deriving DecidableEq, Repr

def Form.hint : Form → String
  | .singleVersion => "expected a single version, e.g. '3.1.2'"
  | .nameAndVersion => "expected '<name> <version>', e.g. 'rails ~> 7.0.3'"

/-- Why a request is refused. -/
inductive Fault where
  /-- The identifier names no language. -/
  | unsupportedLanguage (id : String)
  /-- The extension is not one of the language's. -/
  | unsupportedExtension (language extension expected : String)
  /-- A version field does not have its form. -/
  | malformed (field : Field) (raw : String) (form : Form)
  /-- A quoted field holds a control character. -/
  | controlCharacter (field : Field) (raw : String)
  /-- The service failed or answered with an error. -/
  | provider (reason : String)
  /-- The endpoint is no address that can be extended. -/
  | invalidEndpoint (endpoint : String)
  deriving DecidableEq, Repr

def Fault.message : Fault → String
  | .unsupportedLanguage id =>
    String.join ["unsupported language '", id,
      "' (expected one of: ruby, javascript, typescript)"]
  | .unsupportedExtension language extension expected =>
    String.join ["unsupported extension '", extension, "' for ", language, " (expected one of: ",
      expected, ")"]
  | .malformed field raw form =>
    String.join ["malformed ", field.label, " '", raw, "': ", form.hint]
  | .controlCharacter field raw =>
    String.join [field.label, " '", raw, "' must not contain line breaks or control characters"]
  | .provider reason => String.join ["snippet provider error: ", reason]
  | .invalidEndpoint endpoint =>
    String.join ["invalid snippet generator endpoint '", endpoint, "'"]

namespace Language

def resolve (id : String) : Except Fault Language :=
  match ofId? id with
  | some l => .ok l
  | none => .error (.unsupportedLanguage id)

def resolveExtension (l : Language) : Option String → Except Fault String
  | none => .ok l.extension
  | some text =>
    match l.extension? text with
    | some ext => .ok ext
    | none =>
      .error (.unsupportedExtension l.id (String.ofList (bareExtension text))
        (", ".intercalate l.extensions))

theorem resolve_eq_error_iff (id : String) (fault : Fault) :
    resolve id = .error fault ↔ (¬∃ l, resolve id = .ok l) ∧ fault = .unsupportedLanguage id := by
  unfold resolve
  cases ofId? id with
  | some l => simp
  | none => simp [eq_comm]

/-- Only an extension that is asked for is refused; the fault shows it bare. -/
theorem resolveExtension_eq_error_iff (l : Language) (requested : Option String) (fault : Fault) :
    l.resolveExtension requested = .error fault ↔
      (¬∃ e, l.resolveExtension requested = .ok e) ∧ ∃ text, requested = some text ∧
        fault = .unsupportedExtension l.id (String.ofList (bareExtension text))
          (", ".intercalate l.extensions) := by
  cases requested with
  | none => simp [resolveExtension]
  | some text =>
    rw [resolveExtension]
    cases l.extension? text with
    | some e => simp
    | none => simp [eq_comm]

end Language
end ScriptPress
