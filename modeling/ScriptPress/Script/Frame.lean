import ScriptPress.Language
import ScriptPress.Script.Literal
import ScriptPress.Text.Split

/-!
# The frame of a script

The text that every script of a family has in common: the lines around the guards and the body,
and the statements that take a value each. Main statement: a statement whose fixed text and whose
arguments hold no line break is one line.
-/
namespace ScriptPress.Script

abbrev Line := List Char

structure Statement where
  opening : String
  closing : String
  deriving DecidableEq, Repr

/-- The line of a statement, with a comma between two arguments. -/
def Statement.line (s : Statement) (arguments : List Line) : Line :=
  s.opening.toList ++ Text.joinWith [',', ' '] arguments ++ s.closing.toList

/-- What a family writes around the values of a script. -/
structure Frame where
  /-- The lines before the guards. -/
  header : List String
  /-- The quote of the versions and of the name of the dependency. -/
  quote : Char
  runtime : Statement
  dependency : Statement
  files : Statement
  /-- The lines after the body. -/
  closing : List String
  deriving DecidableEq, Repr

def Frame.ofFamily : Family → Frame
  | .ruby =>
    { header := ["Synvert::Rewriter.execute do"]
      quote := '\''
      runtime := ⟨"  if_ruby ", ""⟩
      dependency := ⟨"  if_gem ", ""⟩
      files := ⟨"  within_files ", " do"⟩
      closing := ["  end", "end"] }
  | .ecmaScript =>
    { header :=
        ["const Synvert = require(\"synvert-core\");",
          "",
          "Synvert.Rewriter.execute(() => \x7b",
          "  configure(\x7b parser: \"typescript\" \x7d);"]
      quote := '"'
      runtime := ⟨"  ifNode(", ");"⟩
      dependency := ⟨"  ifNpm(", ");"⟩
      files := ⟨"  withinFiles(", ", () => \x7b"⟩
      closing := ["  \x7d);", "\x7d);"] }

theorem Statement.newline_not_mem_line (s : Statement) (arguments : List Line)
    (ho : '\n' ∉ s.opening.toList) (hc : '\n' ∉ s.closing.toList)
    (ha : ∀ a ∈ arguments, '\n' ∉ a) : '\n' ∉ s.line arguments := by
  have hj : '\n' ∉ Text.joinWith [',', ' '] arguments := by
    intro h
    rcases Text.mem_joinWith _ _ _ h with hsep | ⟨a, hmem, hin⟩
    · exact absurd hsep (by decide)
    · exact ha a hmem hin
  rw [Statement.line, List.mem_append, List.mem_append, not_or, not_or]
  exact ⟨⟨ho, hj⟩, hc⟩

theorem Frame.quote_ne_newline (family : Family) : (ofFamily family).quote ≠ '\n' := by
  cases family <;> decide

end ScriptPress.Script
