import ScriptPress.Json.Reader
import ScriptPress.Json.Record
import ScriptPress.Service.Call

/-!
# Payloads on the wire

A payload is sent as compact JSON with its fields in a fixed order, and read back from any JSON
record with these fields.
-/
namespace ScriptPress.Service

namespace BodyQuery

def payload (q : BodyQuery) : List Char :=
  Json.objectText [("extension", Json.quote q.extension), ("inputs", Json.stringList q.inputs),
    ("outputs", Json.stringList q.outputs)]

def ofValue? (v : Json.Value) : Option BodyQuery :=
  match Json.record? ["extension", "inputs", "outputs"] v with
  | some [some extension, some inputs, some outputs] => do
    return ⟨← Json.text? extension, ← Json.texts? inputs, ← Json.texts? outputs⟩
  | _ => none

def ofBytes? (bytes : List UInt8) : Option BodyQuery := (Json.read? bytes).bind ofValue?

end BodyQuery

namespace TrialQuery

def payload (q : TrialQuery) : List Char :=
  Json.objectText [("extension", Json.quote q.extension), ("code", Json.quote q.code),
    ("snippet", Json.quote q.snippet)]

def ofValue? (v : Json.Value) : Option TrialQuery :=
  match Json.record? ["extension", "code", "snippet"] v with
  | some [some extension, some code, some snippet] => do
    return ⟨← Json.text? extension, ← Json.text? code, ← Json.text? snippet⟩
  | _ => none

def ofBytes? (bytes : List UInt8) : Option TrialQuery := (Json.read? bytes).bind ofValue?

end TrialQuery
end ScriptPress.Service
