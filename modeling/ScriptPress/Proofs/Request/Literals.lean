import ScriptPress.Proofs.Request.Assembly
import ScriptPress.Proofs.Script.Pieces

/-!
# The literals of an assembled script

An assembled script means what its request says. The escapes for LF, CR and TAB would stand for two
characters each in the single quotes of Ruby; the checks on the fields keep these three characters
away from every literal. Main statement: the script's own language scans each literal up to the
quote that was written last and finds the value of the field there.
-/
namespace ScriptPress

namespace Script

theorem LiteralRules.readBack_ofFamily (family : Family) (quote c : Char)
    (hq : quote = (Frame.ofFamily family).quote ∨ quote = '\'')
    (hc : Text.isBlank c = false ∨ Text.isControl c = false) :
    (ofFamily family).ReadBack quote c := by
  cases family with
  | ruby =>
    have hquote : quote = '\'' := by rcases hq with h | h <;> exact h
    have hbreak : ∀ d, Text.isBlank d = true → Text.isControl d = true → c ≠ d := by
      rintro d hb hd rfl
      rcases hc with hc | hc
      · rw [hb] at hc
        cases hc
      · rw [hd] at hc
        cases hc
    rw [hquote]
    exact readBack_ruby c (hbreak '\n' rfl rfl) (hbreak '\r' rfl rfl) (hbreak '\t' rfl rfl)
  | ecmaScript =>
    apply readBack_ecmaScript
    rcases hq with h | h
    · exact Or.inr h
    · exact Or.inl h

end Script

namespace Request

theorem values_of_assemble (r : Request) (s : Snippet) (h : r.assemble = .ok s) :
    ∀ v ∈ Script.Parts.values ⟨s.filePattern, s.runtime, s.dependency, r.body⟩,
      ∀ c ∈ v.toList, Text.isBlank c = false ∨ Text.isControl c = false := by
  obtain ⟨_, _, _, hpattern, hruntime, hdependency, _⟩ := (assemble_eq_ok_iff r s).mp h
  intro v hv c hc
  simp only [Script.Parts.values, List.mem_append, List.mem_singleton] at hv
  rcases hv with (hv | hv) | rfl
  · rw [Option.mem_toList, Option.map_eq_some_iff] at hv
    obtain ⟨q, hq, rfl⟩ := hv
    rw [hq] at hruntime
    exact Or.inl (Requirement.not_blank_of_ofRuntime _ _ q hruntime c hc)
  · cases hd : s.dependency with
    | none =>
      rw [hd] at hv
      exact absurd hv List.not_mem_nil
    | some q =>
      rw [hd] at hv hdependency
      obtain ⟨hsubject, hspec⟩ := Requirement.of_ofDependency _ q hdependency
      simp only [Option.map_some, Option.getD_some, List.mem_cons, List.not_mem_nil,
        or_false] at hv
      rcases hv with rfl | rfl
      · exact Or.inl (hsubject c hc)
      · exact Or.inr ((Text.hasControl_eq_false_iff _).mp hspec c hc)
  · exact Or.inr ((Text.hasControl_eq_false_iff _).mp hpattern c hc)

/-- Every literal of an assembled script means the field it was written for. The script consists of
pieces, whose values are the specification of the runtime guard, the two values of the dependency
guard and the file pattern; scanned by the rules of the script's language from behind its opening
quote, each of them ends before the piece that follows it. -/
theorem literals_of_assemble (r : Request) (s : Snippet) (h : r.assemble = .ok s) :
    let parts : Script.Parts := ⟨s.filePattern, s.runtime, s.dependency, r.body⟩
    let pieces := Script.pieces (Script.Frame.ofFamily s.language.family) parts
    s.text.toList = Script.Piece.textOf pieces ∧
    pieces.filterMap Script.Piece.value? =
      (s.runtime.map Requirement.spec).toList ++
        (s.dependency.map fun d => [d.subject, d.spec]).getD [] ++ [s.filePattern] ∧
    ∀ before quote v after, pieces = before ++ .value quote v :: after →
      ∃ rest, s.text.toList = Script.Piece.textOf before ++ quote :: rest ∧
        Script.scan (Script.LiteralRules.ofFamily s.language.family) quote rest =
          some (v.toList, Script.Piece.textOf after) := by
  intro parts pieces
  obtain ⟨_, _, _, _, _, _, htext⟩ := (assemble_eq_ok_iff r s).mp h
  refine ⟨?_, Script.values_pieces _ parts, ?_⟩
  · rw [htext]
    exact (Script.textOf_pieces s.language.family parts).symm
  · intro before quote v after hp
    have hmem : .value quote v ∈ pieces := by
      rw [hp]
      exact List.mem_append_right before List.mem_cons_self
    have hquote := Script.quote_of_mem_pieces _ parts quote v hmem
    have hvalue := Script.mem_values_of_mem_pieces _ parts quote v hmem
    rw [htext]
    apply Script.scan_of_pieces s.language.family parts _ quote v before after hp
    intro c hc
    exact Script.LiteralRules.readBack_ofFamily _ quote c hquote
      (values_of_assemble r s h v hvalue c hc)

theorem literals_of_assemble_backslash :
    let parts : Script.Parts := ⟨"it's\\*.rb", some ⟨"ruby", "3.1.2"⟩, some ⟨"a\\'", "~> 7"⟩, "x"⟩
    let pieces := Script.pieces (Script.Frame.ofFamily .ruby) parts
    let before := pieces.takeWhile (· ≠ .value '\'' "a\\'")
    let after := pieces.drop (before.length + 1)
    assemble ⟨"RB", none, some " it's\\*.rb", "3.1.2", "a\\' ~> 7", "x"⟩ =
      .ok ⟨.ruby, "rb", parts.filePattern, parts.runtime, parts.dependency,
        Script.combine .ruby parts⟩ ∧
    ∃ rest, (Script.combine .ruby parts).toList = Script.Piece.textOf before ++ '\'' :: rest ∧
      Script.scan .ruby '\'' rest = some ("a\\'".toList, Script.Piece.textOf after) := by
  have h : assemble ⟨"RB", none, some " it's\\*.rb", "3.1.2", "a\\' ~> 7", "x"⟩ =
      .ok ⟨.ruby, "rb", "it's\\*.rb", some ⟨"ruby", "3.1.2"⟩, some ⟨"a\\'", "~> 7"⟩,
        Script.combine .ruby
          ⟨"it's\\*.rb", some ⟨"ruby", "3.1.2"⟩, some ⟨"a\\'", "~> 7"⟩, "x"⟩⟩ := by rfl
  obtain ⟨_, _, hscan⟩ := literals_of_assemble _ _ h
  intro parts pieces before after
  have hp : pieces = before ++ .value '\'' "a\\'" :: after := by decide
  exact ⟨h, hscan before '\'' "a\\'" after hp⟩

end Request
end ScriptPress
