import ScriptPress.Script.Layout

/-!
# The lines of a script

Cutting the text of a script at its line breaks gives the lines that it was laid out from: no value
and no body can put a line break into a line of the template, or join two of its lines. Main
statement: `splitOn_combine`.
-/
namespace ScriptPress.Script

/-! ### Lines of the template -/

theorem Frame.newline_not_mem_header (family : Family) :
    ∀ line ∈ (ofFamily family).header.map String.toList, '\n' ∉ line := by
  cases family <;> decide

theorem Frame.newline_not_mem_closing (family : Family) :
    ∀ line ∈ (ofFamily family).closing.map String.toList, '\n' ∉ line := by
  cases family <;> decide

theorem newline_not_mem_runtimeLine (family : Family) (r : Requirement) :
    '\n' ∉ runtimeLine (Frame.ofFamily family) r := by
  apply Statement.newline_not_mem_line
  · cases family <;> decide
  · cases family <;> decide
  · intro a ha
    rw [List.mem_singleton.mp ha]
    exact newline_not_mem_literal _ _ (Frame.quote_ne_newline family)

theorem newline_not_mem_dependencyLine (family : Family) (r : Requirement) :
    '\n' ∉ dependencyLine (Frame.ofFamily family) r := by
  have hq := Frame.quote_ne_newline family
  apply Statement.newline_not_mem_line
  · cases family <;> decide
  · cases family <;> decide
  · intro a ha
    rcases List.mem_cons.mp ha with rfl | ha
    · exact newline_not_mem_literal _ _ hq
    · rw [List.mem_singleton.mp ha]
      exact newline_not_mem_literal _ _ hq

theorem newline_not_mem_filesLine (family : Family) (pattern : String) :
    '\n' ∉ filesLine (Frame.ofFamily family) pattern := by
  apply Statement.newline_not_mem_line
  · cases family <;> decide
  · cases family <;> decide
  · intro a ha
    rw [List.mem_singleton.mp ha]
    exact newline_not_mem_literal _ _ (by decide)

theorem newline_not_mem_openingLines (family : Family) (parts : Parts) :
    ∀ line ∈ openingLines (Frame.ofFamily family) parts, '\n' ∉ line := by
  intro line h
  simp only [openingLines, List.mem_append, Option.mem_toList, Option.map_eq_some_iff,
    List.mem_singleton] at h
  rcases h with ((h | ⟨r, _, rfl⟩) | ⟨r, _, rfl⟩) | rfl
  · exact Frame.newline_not_mem_header family line h
  · exact newline_not_mem_runtimeLine family r
  · exact newline_not_mem_dependencyLine family r
  · exact newline_not_mem_filesLine family parts.filePattern

/-! ### Lines of the body -/

theorem bodyLines_empty : bodyLines "" = [] := rfl

theorem bodyLines_of_ne_empty (body : String) (h : body ≠ "") :
    bodyLines body = (Text.splitOn '\n' body.toList).map (bodyIndent ++ ·) := by
  cases hb : body.toList with
  | nil => exact absurd (String.toList_eq_nil_iff.mp hb) h
  | cons c s => rw [bodyLines, hb]

theorem newline_not_mem_bodyLines (body : String) : ∀ line ∈ bodyLines body, '\n' ∉ line := by
  intro line h
  by_cases hb : body = ""
  · rw [hb, bodyLines_empty] at h
    exact absurd h List.not_mem_nil
  · rw [bodyLines_of_ne_empty body hb, List.mem_map] at h
    obtain ⟨piece, hp, rfl⟩ := h
    have hn := Text.not_mem_of_mem_splitOn '\n' body.toList piece hp
    rw [List.mem_append, not_or]
    exact ⟨by decide, hn⟩

/-! ### All lines -/

theorem newline_not_mem_lines (family : Family) (parts : Parts) :
    ∀ line ∈ lines (Frame.ofFamily family) parts, '\n' ∉ line := by
  intro line h
  rw [lines, List.mem_append, List.mem_append] at h
  rcases h with (h | h) | h
  · exact newline_not_mem_openingLines family parts line h
  · exact newline_not_mem_bodyLines parts.body line h
  · exact Frame.newline_not_mem_closing family line h

theorem lines_eq (f : Frame) (parts : Parts) :
    lines f parts = f.header.map String.toList ++
      ((parts.runtime.map (runtimeLine f)).toList ++
        ((parts.dependency.map (dependencyLine f)).toList ++
          filesLine f parts.filePattern ::
            (bodyLines parts.body ++ f.closing.map String.toList))) := by
  simp only [lines, openingLines, List.append_assoc, List.cons_append, List.nil_append]

theorem lines_ne_nil (f : Frame) (parts : Parts) : lines f parts ≠ [] := by
  simp [lines, openingLines]

theorem splitOn_combine (family : Family) (parts : Parts) :
    Text.splitOn '\n' (combine family parts).toList = lines (Frame.ofFamily family) parts := by
  rw [combine, String.toList_ofList]
  exact Text.splitOn_joinWith '\n' _ (lines_ne_nil _ parts) (newline_not_mem_lines family parts)

theorem combine_ne_empty (family : Family) (parts : Parts) : combine family parts ≠ "" := by
  intro h
  have hlines := splitOn_combine family parts
  rw [h] at hlines
  have hlength : (lines (Frame.ofFamily family) parts).length = 1 := by
    rw [← hlines]
    rfl
  cases family with
  | ruby => simp [lines, openingLines, Frame.ofFamily] at hlength
  | ecmaScript => simp [lines, openingLines, Frame.ofFamily] at hlength

end ScriptPress.Script
