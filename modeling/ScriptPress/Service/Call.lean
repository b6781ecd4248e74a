/-!
# What the service is asked

The two kinds of payload: example pairs from which a body is to be inferred, and a script that is to
be run over a source.
-/
namespace ScriptPress.Service

/-- Example pairs from which a body is to be inferred. -/
structure BodyQuery where
  extension : String
  inputs : List String
  outputs : List String
  deriving DecidableEq, Repr

structure TrialQuery where
  extension : String
  code : String
  snippet : String
  deriving DecidableEq, Repr

end ScriptPress.Service
