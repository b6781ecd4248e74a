import ScriptPress.Requirement
import ScriptPress.Version.GemRequirement
import ScriptPress.Version.Padded
import ScriptPress.Version.Range

/-!
# Advice on requirements

Warnings about version specifications that the runtime or the package manager is unlikely to
understand. A warning never stops a script from being assembled.
-/
namespace ScriptPress.Requirement

/-- The warning about a runtime requirement, if its specification is no plain version. -/
def runtimeAdvice (r : Requirement) : Option String :=
  if Version.isPaddedRelease r.spec.toList then none
  else some (r.subject ++ " version '" ++ r.spec ++ "' is not a plain version number")

def isUsual : Family → List Char → Bool
  | .ruby => Version.isGemRequirement
  | .ecmaScript => Version.isRange

/-- The warning about a dependency requirement, if its specification has an unusual form. -/
def dependencyAdvice (family : Family) (r : Requirement) : Option String :=
  if isUsual family r.spec.toList then none
  else some ("'" ++ r.spec ++ "' does not look like a version requirement for " ++ r.subject)

end ScriptPress.Requirement
