import ScriptPress.Text.Blank

/-!
# Line endings at the end of a text

A body or an example is taken from a file without the line breaks at its end, so that it nests
without a blank last line. Main statement: the cut part consists of line breaks only.
-/
namespace ScriptPress.Text

def isLineEnd (c : Char) : Bool := c == '\n' || c == '\r'

def dropLineEnds (s : List Char) : List Char := dropEndWhile isLineEnd s

/-- The text of a source file without the line breaks at its end. -/
def withoutLineEnds (s : String) : String := String.ofList (dropLineEnds s.toList)

theorem exists_append_dropLineEnds (s : List Char) :
    ∃ t, s = dropLineEnds s ++ t ∧ ∀ c ∈ t, isLineEnd c = true := by
  refine ⟨(s.reverse.takeWhile isLineEnd).reverse, (dropEndWhile_append isLineEnd s).symm, ?_⟩
  intro c hc
  rw [List.mem_reverse] at hc
  have h := List.all_takeWhile (p := isLineEnd) (l := s.reverse)
  exact List.all_eq_true.mp h c hc

end ScriptPress.Text
