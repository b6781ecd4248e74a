import ScriptPress.Fault
import ScriptPress.Json.Reader
import ScriptPress.Json.Record

/-!
# Answers of the service

An answer is a JSON record of a result and an error, both optional. An error that is not empty
wins over the result; a missing result is the empty text.
-/
namespace ScriptPress.Service

/-- What is asked of the service; the result has a name of its own in each answer. -/
inductive Action where
  | inferBody
  | tryScript
  deriving DecidableEq, Repr

def Action.resultName : Action → String
  | .inferBody => "snippet"
  | .tryScript => "output"

structure Answer where
  result : Option String
  error : Option String
  deriving DecidableEq, Repr

namespace Answer

def ofValue? (action : Action) (v : Json.Value) : Option Answer :=
  match Json.record? [action.resultName, "error"] v with
  | some [result, error] => do
    return ⟨← Json.optionalText? result, ← Json.optionalText? error⟩
  | _ => none

def ofBytes? (action : Action) (bytes : List UInt8) : Option Answer :=
  (Json.read? bytes).bind (ofValue? action)

def outcome (a : Answer) : Except Fault String :=
  match a.error with
  | none => .ok (a.result.getD "")
  | some error => if error = "" then .ok (a.result.getD "") else .error (.provider error)

end Answer
end ScriptPress.Service
