/-!
# String literals

Writing a text as a string literal of one line: the quote, the backslash and the characters LF, CR
and TAB are escaped, everything else stands for itself. Main statement: a written literal holds no
line break.
-/
namespace ScriptPress.Script

/-- One character inside a literal with the given quote. -/
def escape (quote c : Char) : List Char :=
  if c = '\n' then ['\\', 'n']
  else if c = '\r' then ['\\', 'r']
  else if c = '\t' then ['\\', 't']
  else if c = '\\' ∨ c = quote then ['\\', c]
  else [c]

def literal (quote : Char) (s : List Char) : List Char :=
  quote :: (s.flatMap (escape quote) ++ [quote])

theorem newline_not_mem_escape (quote c : Char) : '\n' ∉ escape quote c := by
  unfold escape
  by_cases h1 : c = '\n'
  · simp [h1]
  · by_cases h2 : c = '\r'
    · simp [h2]
    · by_cases h3 : c = '\t'
      · simp [h3]
      · by_cases h4 : c = '\\' ∨ c = quote
        · simp [h1, h2, h3, h4, Ne.symm h1]
        · simp [h1, h2, h3, h4, Ne.symm h1]

theorem newline_not_mem_literal (quote : Char) (s : List Char) (hq : quote ≠ '\n') :
    '\n' ∉ literal quote s := by
  simp only [literal, List.mem_cons, List.mem_append, List.mem_flatMap, not_or]
  refine ⟨Ne.symm hq, ?_, Ne.symm hq, by simp⟩
  rintro ⟨c, _, hc⟩
  exact newline_not_mem_escape quote c hc

end ScriptPress.Script
