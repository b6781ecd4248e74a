import ScriptPress.Fault
import ScriptPress.Service.Answer
import ScriptPress.Url.Reader

/-!
# Endpoints

The address of the service, under which each language and action has an address of its own. Every
endpoint can be extended, so no request can go to the bare endpoint.
-/
namespace ScriptPress.Service

def Action.segment : Action → String
  | .inferBody => "generate-snippet"
  | .tryScript => "parse-synvert-snippet"

/-- The address of the service. -/
structure Endpoint where
  url : Url
  isExtensible : url.isExtensible = true

namespace Endpoint

/-- The endpoint that a text writes. A text that is no address is reported as it is, an address
that cannot be extended as it is printed. -/
def ofText (text : String) : Except Fault Endpoint :=
  match Url.ofText? text.toList with
  | none => .error (.invalidEndpoint text)
  | some url =>
    if h : url.isExtensible = true then .ok ⟨url, h⟩
    else .error (.invalidEndpoint (String.ofList url.text))

def address (e : Endpoint) (language : Language) (action : Action) : Url :=
  e.url.extended [language.id.toList, action.segment.toList]

def text (e : Endpoint) : String := String.ofList e.url.text

end Endpoint
end ScriptPress.Service
