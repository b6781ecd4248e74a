/-!
# Control characters

The Unicode category Cc: the two blocks of 32 control codes and DELETE.
-/
namespace ScriptPress.Text

/-- The characters of category Cc: up to U+001F, and U+007F to U+009F. -/
def isControl (c : Char) : Bool :=
  c.toNat ≤ 0x1F || (0x7F ≤ c.toNat && c.toNat ≤ 0x9F)

def hasControl (s : String) : Bool := s.toList.any isControl

theorem hasControl_iff (s : String) : hasControl s = true ↔ ∃ c ∈ s.toList, isControl c = true :=
  List.any_eq_true

theorem hasControl_eq_false_iff (s : String) :
    hasControl s = false ↔ ∀ c ∈ s.toList, isControl c = false := by
  simp only [hasControl, List.any_eq_false, Bool.not_eq_true]

end ScriptPress.Text
