import ScriptPress.Proofs.Script.Lines

/-!
# The guards of a script

Each statement of a script is one line, and no other line begins as it does: no line of the frame,
no other statement, and no line of a body, however much it looks like one. Main statement: a script
without a guard is the script with it less the one line of the guard.
-/
namespace ScriptPress.Script

/-! ### Statements by their opening -/

def Statement.opens (s : Statement) (line : Line) : Bool := s.opening.toList.isPrefixOf line

theorem Statement.opens_line (s : Statement) (arguments : List Line) :
    s.opens (s.line arguments) = true := by
  rw [opens, line, List.append_assoc, List.isPrefixOf_iff_prefix]
  exact List.prefix_append _ _

theorem Statement.line_not_mem (s : Statement) (arguments : List Line) {ls : List Line}
    (h : ∀ line ∈ ls, s.opens line = false) : s.line arguments ∉ ls := by
  intro hmem
  have hopens := h _ hmem
  rw [s.opens_line] at hopens
  cases hopens

def Frame.statements (f : Frame) : List Statement := [f.runtime, f.dependency, f.files]

theorem Frame.opens_header (family : Family) :
    ∀ s ∈ (ofFamily family).statements, ∀ line ∈ (ofFamily family).header.map String.toList,
      s.opens line = false := by
  cases family <;> decide

theorem Frame.opens_closing (family : Family) :
    ∀ s ∈ (ofFamily family).statements, ∀ line ∈ (ofFamily family).closing.map String.toList,
      s.opens line = false := by
  cases family <;> decide

theorem opens_runtimeLine (family : Family) (r : Requirement) :
    let f := Frame.ofFamily family
    f.dependency.opens (runtimeLine f r) = false ∧ f.files.opens (runtimeLine f r) = false := by
  cases family <;> exact ⟨rfl, rfl⟩

theorem opens_dependencyLine (family : Family) (d : Requirement) :
    let f := Frame.ofFamily family
    f.runtime.opens (dependencyLine f d) = false ∧ f.files.opens (dependencyLine f d) = false := by
  cases family <;> exact ⟨rfl, rfl⟩

theorem opens_filesLine (family : Family) (pattern : String) :
    let f := Frame.ofFamily family
    f.runtime.opens (filesLine f pattern) = false ∧
      f.dependency.opens (filesLine f pattern) = false := by
  cases family <;> exact ⟨rfl, rfl⟩

/-- A line of a body is further in than any statement. -/
theorem opens_bodyLines (family : Family) (body : String) :
    ∀ s ∈ (Frame.ofFamily family).statements, ∀ line ∈ bodyLines body, s.opens line = false := by
  intro s hs line h
  by_cases hb : body = ""
  · rw [hb, bodyLines_empty] at h
    exact absurd h List.not_mem_nil
  · rw [bodyLines_of_ne_empty body hb, List.mem_map] at h
    obtain ⟨piece, -, rfl⟩ := h
    simp only [Frame.statements, List.mem_cons, List.not_mem_nil, or_false] at hs
    cases family <;> rcases hs with rfl | rfl | rfl <;> rfl

/-! ### The other lines -/

theorem forall_mem_toList_map {α β : Type} {o : Option α} {write : α → β} {p : β → Prop}
    (h : ∀ a, p (write a)) : ∀ b ∈ (o.map write).toList, p b := by
  intro b hb
  rw [Option.mem_toList, Option.map_eq_some_iff] at hb
  obtain ⟨a, -, rfl⟩ := hb
  exact h a

theorem opens_around (family : Family) (body : String) (s : Statement)
    (hs : s ∈ (Frame.ofFamily family).statements) :
    (∀ line ∈ (Frame.ofFamily family).header.map String.toList, s.opens line = false) ∧
    ∀ line ∈ bodyLines body ++ (Frame.ofFamily family).closing.map String.toList,
      s.opens line = false := by
  refine ⟨Frame.opens_header family s hs, ?_⟩
  intro line h
  rcases List.mem_append.mp h with h | h
  · exact opens_bodyLines family body s hs line h
  · exact Frame.opens_closing family s hs line h

theorem runtimeLine_not_mem (family : Family) (parts : Parts) (r : Requirement) :
    let f := Frame.ofFamily family
    runtimeLine f r ∉ f.header.map String.toList ∧
    runtimeLine f r ∉ (parts.dependency.map (dependencyLine f)).toList ++
      filesLine f parts.filePattern :: (bodyLines parts.body ++ f.closing.map String.toList) := by
  intro f
  obtain ⟨hheader, hinner⟩ :=
    opens_around family parts.body f.runtime (by simp [Frame.statements, f])
  refine ⟨f.runtime.line_not_mem _ hheader, f.runtime.line_not_mem _ ?_⟩
  rw [List.forall_mem_append, List.forall_mem_cons]
  exact ⟨forall_mem_toList_map fun d => (opens_dependencyLine family d).1,
    (opens_filesLine family parts.filePattern).1, hinner⟩

theorem dependencyLine_not_mem (family : Family) (parts : Parts) (d : Requirement) :
    let f := Frame.ofFamily family
    dependencyLine f d ∉ f.header.map String.toList ++
      (parts.runtime.map (runtimeLine f)).toList ∧
    dependencyLine f d ∉
      filesLine f parts.filePattern :: (bodyLines parts.body ++ f.closing.map String.toList) := by
  intro f
  obtain ⟨hheader, hinner⟩ := opens_around family parts.body f.dependency
    (by simp [Frame.statements, f])
  refine ⟨f.dependency.line_not_mem _ ?_, f.dependency.line_not_mem _ ?_⟩
  · rw [List.forall_mem_append]
    exact ⟨hheader, forall_mem_toList_map fun r => (opens_runtimeLine family r).1⟩
  · rw [List.forall_mem_cons]
    exact ⟨(opens_filesLine family parts.filePattern).2, hinner⟩

/-! ### Leaving a guard out -/

def linesOf (text : String) : List Line := Text.splitOn '\n' text.toList

/-- A line that stands nowhere else is the only one that goes when it is deleted. -/
theorem delete_line {line : Line} {before after : List Line} (hb : line ∉ before)
    (ha : line ∉ after) :
    (before ++ line :: after).count line = 1 ∧
      (before ++ line :: after).filter (· ≠ line) = before ++ after := by
  have hkept : ∀ ls : List Line, line ∉ ls → ls.filter (· ≠ line) = ls := by
    intro ls h
    rw [List.filter_eq_self]
    intro other hother
    rw [decide_eq_true_eq]
    rintro rfl
    exact h hother
  constructor
  · rw [List.count_append, List.count_cons_self, List.count_eq_zero_of_not_mem hb,
      List.count_eq_zero_of_not_mem ha]
  · have hgone : (line :: after).filter (· ≠ line) = after.filter (· ≠ line) :=
      List.filter_cons_of_neg (by simp)
    rw [List.filter_append, hgone, hkept before hb, hkept after ha]

/-- A guard is one line of a script. With or without it, the rest is the same: the lines of the
script other than the line of the guard are the lines of the script without the guard, whatever the
body holds. The runtime guard stands right before the dependency guard, and this one right before
the line that opens the block of files. -/
theorem guard_is_one_line (family : Family) (pattern body : String) :
    let f := Frame.ofFamily family
    let script := fun runtime dependency =>
      linesOf (combine family ⟨pattern, runtime, dependency, body⟩)
    (∀ r d, (script (some r) d).count (runtimeLine f r) = 1 ∧
      (script (some r) d).filter (· ≠ runtimeLine f r) = script none d) ∧
    (∀ r d, (script r (some d)).count (dependencyLine f d) = 1 ∧
      (script r (some d)).filter (· ≠ dependencyLine f d) = script r none) ∧
    ∀ r d, ∃ before after, script (some r) (some d) =
      before ++ [runtimeLine f r, dependencyLine f d, filesLine f pattern] ++ after := by
  intro f script
  have hscript : ∀ runtime dependency, script runtime dependency =
      f.header.map String.toList ++ ((runtime.map (runtimeLine f)).toList ++
        ((dependency.map (dependencyLine f)).toList ++ filesLine f pattern ::
          (bodyLines body ++ f.closing.map String.toList))) := fun runtime dependency =>
    (splitOn_combine family ⟨pattern, runtime, dependency, body⟩).trans (lines_eq f _)
  refine ⟨fun r d => ?_, fun r d => ?_, fun r d => ?_⟩
  · -- What stands around a guard is the same without it, so the parts without it will do.
    obtain ⟨hbefore, hafter⟩ := runtimeLine_not_mem family ⟨pattern, none, d, body⟩ r
    rw [hscript, hscript]
    exact delete_line hbefore hafter
  · obtain ⟨hbefore, hafter⟩ := dependencyLine_not_mem family ⟨pattern, r, none, body⟩ d
    have hcut := fun dependency =>
      (hscript r dependency).trans (List.append_assoc _ _ _).symm
    rw [hcut, hcut]
    exact delete_line hbefore hafter
  · refine ⟨f.header.map String.toList, bodyLines body ++ f.closing.map String.toList, ?_⟩
    rw [hscript, List.append_assoc]
    rfl

/-- A body that is the guard itself is not taken for it. -/
example :
    let guard := runtimeLine (Frame.ofFamily .ruby) ⟨"ruby", "3.2"⟩
    (linesOf (combine .ruby ⟨"**/*.rb", some ⟨"ruby", "3.2"⟩, none, String.ofList guard⟩)).count
      guard = 1 := by rfl

end ScriptPress.Script
