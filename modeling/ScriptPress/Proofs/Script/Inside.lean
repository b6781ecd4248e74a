import ScriptPress.Proofs.Script.Nesting
import ScriptPress.Proofs.Text.Ending

/-!
# The lines inside the block of files

What a script has between the line that opens its block of files and the two that close it, found in
its text alone. Main statements: these are the lines of the body (`innerLines_combine`), and a body
that does not end in a line break leaves something on the last of them.
-/
namespace ScriptPress.Script

/-- The lines of a script behind the one that opens its block of files, less the two at the end. -/
def innerLines (family : Family) (pattern script : String) : List Line :=
  let opening := filesLine (Frame.ofFamily family) pattern
  ((linesOf script).dropWhile (· ≠ opening)).tail.dropLast.dropLast

theorem tail_dropWhile_ne {line : Line} {before : List Line} (after : List Line)
    (h : line ∉ before) : ((before ++ line :: after).dropWhile (· ≠ line)).tail = after := by
  have hpassed : ∀ other ∈ before, decide (other ≠ line) = true := by
    intro other hother
    rw [decide_eq_true_eq]
    rintro rfl
    exact h hother
  rw [List.dropWhile_append_of_pos hpassed, List.dropWhile_cons_of_neg (by simp), List.tail_cons]

theorem innerLines_combine (family : Family) (parts : Parts) :
    innerLines family parts.filePattern (combine family parts) = bodyLines parts.body := by
  have hlines : linesOf (combine family parts) = _ :=
    (splitOn_combine family parts).trans (lines_eq (Frame.ofFamily family) parts)
  rw [← List.append_assoc, ← List.append_assoc] at hlines
  have hclosing : ∃ a b, (Frame.ofFamily family).closing.map String.toList = [a, b] := by
    cases family with
    | ruby => exact ⟨_, _, rfl⟩
    | ecmaScript => exact ⟨_, _, rfl⟩
  obtain ⟨a, b, hclosing⟩ := hclosing
  have hcut : bodyLines parts.body ++ [a, b] = bodyLines parts.body ++ [a] ++ [b] := by
    rw [List.append_assoc]
    rfl
  rw [innerLines, hlines, tail_dropWhile_ne _ (filesLine_not_mem family parts).1, hclosing, hcut,
    List.dropLast_concat, List.dropLast_concat]

theorem getLast?_bodyLines {body : String} (hne : body ≠ "") (h : Text.EndsInText body.toList) :
    ∃ last, (bodyLines body).getLast? = some (bodyIndent ++ last) ∧ last ≠ [] ∧
      last.getLast? ≠ some '\r' := by
  obtain hempty | ⟨c, hc, hlf, hcr⟩ := h
  · exact absurd (String.toList_eq_nil_iff.mp hempty) hne
  obtain ⟨last, hlast, hend⟩ := Text.getLast?_splitOn hc hlf
  refine ⟨last, ?_, ?_, ?_⟩
  · rw [bodyLines_of_ne_empty body hne, List.getLast?_map, hlast, Option.map_some]
  · rintro rfl
    cases hend
  · rw [hend]
    exact fun heq => hcr (Option.some.inj heq)

end ScriptPress.Script
