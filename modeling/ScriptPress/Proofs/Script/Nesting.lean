import ScriptPress.Proofs.Script.Guards

/-!
# The body inside a script

A body is put into a script by one replacement in its text, which knows nothing of lines: an indent
in front, an indent behind every line break, a line break at the end. Main statement: the lines of
the script are then the lines of the body, each four spaces in, between lines that do not depend on
the body.
-/
namespace ScriptPress.Script

/-! ### Indents -/

def indent (line : Line) : Nat := (line.takeWhile (· == ' ')).length

theorem Frame.indent_header (family : Family) :
    ∀ line ∈ (ofFamily family).header.map String.toList, indent line < 4 := by
  cases family <;> decide

theorem indent_statement (family : Family) (arguments : List Line) :
    ∀ s ∈ (Frame.ofFamily family).statements, indent (s.line arguments) = 2 := by
  intro s hs
  simp only [Frame.statements, List.mem_cons, List.not_mem_nil, or_false] at hs
  cases family <;> rcases hs with rfl | rfl | rfl <;> rfl

theorem indent_openingLines (family : Family) (parts : Parts) :
    ∀ line ∈ openingLines (Frame.ofFamily family) parts, indent line < 4 := by
  let f := Frame.ofFamily family
  have hstatement : ∀ s ∈ f.statements, ∀ arguments, indent (s.line arguments) < 4 := by
    intro s hs arguments
    rw [indent_statement family arguments s hs]
    decide
  have hfiles : indent (filesLine f parts.filePattern) < 4 :=
    hstatement f.files (by simp [Frame.statements]) _
  show ∀ line ∈ openingLines f parts, indent line < 4
  rw [openingLines, List.forall_mem_append, List.forall_mem_append, List.forall_mem_append,
    List.forall_mem_singleton]
  exact ⟨⟨⟨Frame.indent_header family,
    forall_mem_toList_map fun r => hstatement f.runtime (by simp [Frame.statements]) _⟩,
    forall_mem_toList_map fun r => hstatement f.dependency (by simp [Frame.statements]) _⟩, hfiles⟩

/-! ### The body in the text -/

/-- A text with an indent put behind each of its line breaks. -/
def indented (s : List Char) : List Char :=
  s.flatMap fun c => if c = '\n' then c :: bodyIndent else [c]

/-- What a body adds to the text of a script. -/
def nested (body : String) : List Char :=
  if body = "" then [] else bodyIndent ++ indented body.toList ++ ['\n']

theorem indented_cons_newline (s : List Char) :
    indented ('\n' :: s) = '\n' :: (bodyIndent ++ indented s) := rfl

theorem indented_cons_of_ne {c : Char} (s : List Char) (h : c ≠ '\n') :
    indented (c :: s) = c :: indented s := by
  rw [indented, List.flatMap_cons, if_neg h]
  rfl

/-- Putting an indent behind every line break is putting it in front of every line. -/
theorem flatMap_splitOn_indent (s : List Char) :
    ((Text.splitOn '\n' s).map (bodyIndent ++ ·)).flatMap (· ++ ['\n']) =
      bodyIndent ++ indented s ++ ['\n'] := by
  induction s with
  | nil => rfl
  | cons c s ih =>
    by_cases hc : c = '\n'
    · rw [hc, Text.splitOn, if_pos rfl, indented_cons_newline, List.map_cons, List.flatMap_cons, ih]
      simp only [List.append_nil, List.append_assoc, List.cons_append, List.nil_append]
    · rw [indented_cons_of_ne s hc, Text.splitOn, if_neg hc]
      cases hs : Text.splitOn '\n' s with
      | nil => exact absurd hs (Text.splitOn_ne_nil '\n' s)
      | cons piece rest =>
        -- The character joins the first line, behind the indent that both sides begin with.
        rw [hs, List.map_cons, List.flatMap_cons, List.append_assoc, List.append_assoc,
          List.append_assoc, List.append_cancel_left_eq] at ih
        simp only [List.map_cons, List.flatMap_cons, List.append_assoc, List.cons_append]
        exact congrArg (fun t => bodyIndent ++ c :: t) ih

theorem flatMap_bodyLines (body : String) :
    (bodyLines body).flatMap (· ++ ['\n']) = nested body := by
  by_cases hb : body = ""
  · rw [hb]
    rfl
  · rw [bodyLines_of_ne_empty body hb, flatMap_splitOn_indent, nested, if_neg hb]

/-- A script as text: what opens it, the body put in by replacement, what closes it. -/
theorem toList_combine (family : Family) (parts : Parts) :
    (combine family parts).toList =
      (openingLines (Frame.ofFamily family) parts).flatMap (· ++ ['\n']) ++ nested parts.body ++
        Text.joinWith ['\n'] ((Frame.ofFamily family).closing.map String.toList) := by
  have hclosing : (Frame.ofFamily family).closing.map String.toList ≠ [] := by
    cases family <;> decide
  rw [combine, String.toList_ofList, lines, Text.joinWith_append _ _ hclosing, List.flatMap_append,
    flatMap_bodyLines]

theorem getLast?_combine (family : Family) (parts : Parts) :
    (combine family parts).toList.getLast? ≠ some '\n' := by
  have hlast : ∃ c, (Text.joinWith ['\n'] ((Frame.ofFamily family).closing.map
      String.toList)).getLast? = some c ∧ c ≠ '\n' := by
    cases family with
    | ruby => exact ⟨'d', by decide, by decide⟩
    | ecmaScript => exact ⟨';', by decide, by decide⟩
  obtain ⟨c, hc, hne⟩ := hlast
  rw [toList_combine, List.getLast?_append, hc, Option.some_or]
  exact fun h => hne (Option.some.inj h)

/-! ### The lines around the body -/

theorem filesLine_not_mem (family : Family) (parts : Parts) :
    let f := Frame.ofFamily family
    filesLine f parts.filePattern ∉ f.header.map String.toList ++
      (parts.runtime.map (runtimeLine f)).toList ++
        (parts.dependency.map (dependencyLine f)).toList ∧
    filesLine f parts.filePattern ∉ bodyLines parts.body ++ f.closing.map String.toList := by
  intro f
  obtain ⟨hheader, hinner⟩ :=
    opens_around family parts.body f.files (by simp [Frame.statements, f])
  refine ⟨f.files.line_not_mem _ ?_, f.files.line_not_mem _ hinner⟩
  rw [List.forall_mem_append, List.forall_mem_append]
  exact ⟨⟨hheader, forall_mem_toList_map fun r => (opens_runtimeLine family r).2⟩,
    forall_mem_toList_map fun d => (opens_dependencyLine family d).2⟩

theorem bodyLines_eq_ite (body : String) :
    bodyLines body = if body = "" then [] else (linesOf body).map (bodyIndent ++ ·) := by
  split
  · rename_i hb
    rw [hb, bodyLines_empty]
  · rename_i hb
    exact bodyLines_of_ne_empty body hb

theorem length_bodyLines (body : String) :
    (bodyLines body).length = if body = "" then 0 else body.toList.count '\n' + 1 := by
  rw [bodyLines_eq_ite]
  split
  · rfl
  · rw [List.length_map, linesOf, Text.length_splitOn]

/-- A body is nested line by line. For given values there are lines which no body changes: they end
with the line that opens the block of files, the only one of its kind, and all of them are less than
four spaces in. Behind them come the lines of the body in order, each with four spaces in front and
otherwise as it is, none for an empty body; then the two lines that close the script, without a line
break at the end. So the number of lines depends on the line breaks of the body alone. The text is
the one that putting an indent behind every line break of the body gives. -/
theorem body_nested_by_lines (family : Family) (pattern : String)
    (runtime dependency : Option Requirement) :
    let f := Frame.ofFamily family
    ∃ before : List Line,
      (∀ line ∈ before ++ [filesLine f pattern], indent line < 4) ∧ f.closing.length = 2 ∧
      ∀ body,
        let text := combine family ⟨pattern, runtime, dependency, body⟩
        linesOf text = before ++ [filesLine f pattern] ++
          (if body = "" then [] else (linesOf body).map ([' ', ' ', ' ', ' '] ++ ·)) ++
          f.closing.map String.toList ∧
        (linesOf text).count (filesLine f pattern) = 1 ∧
        text.toList.getLast? ≠ some '\n' ∧
        (linesOf text).length =
          before.length + 1 + (if body = "" then 0 else body.toList.count '\n' + 1) + 2 ∧
        text.toList = (before ++ [filesLine f pattern]).flatMap (· ++ ['\n']) ++ nested body ++
          Text.joinWith ['\n'] (f.closing.map String.toList) := by
  intro f
  let before := f.header.map String.toList ++ (runtime.map (runtimeLine f)).toList ++
    (dependency.map (dependencyLine f)).toList
  have hclosing : f.closing.length = 2 := by cases family <;> rfl
  refine ⟨before, indent_openingLines family ⟨pattern, runtime, dependency, ""⟩, hclosing, ?_⟩
  intro body text
  have hlines : linesOf text = before ++ [filesLine f pattern] ++ bodyLines body ++
      f.closing.map String.toList := splitOn_combine family ⟨pattern, runtime, dependency, body⟩
  obtain ⟨hbefore, hafter⟩ := filesLine_not_mem family ⟨pattern, runtime, dependency, body⟩
  refine ⟨?_, ?_, getLast?_combine family _, ?_, toList_combine family _⟩
  · rw [hlines, bodyLines_eq_ite]
    rfl
  · rw [hlines, List.append_assoc, List.append_assoc]
    exact (delete_line hbefore hafter).1
  · rw [hlines, List.length_append, List.length_append, List.length_append, List.length_map,
      hclosing, length_bodyLines, List.length_singleton]

/-- One line break is two empty lines, and an empty body is none. -/
example : bodyLines "\n" = [bodyIndent, bodyIndent] ∧ bodyLines "" = [] := by decide

end ScriptPress.Script
