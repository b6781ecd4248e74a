import ScriptPress.Proofs.Language.Spelling
import ScriptPress.Proofs.Request.Assembly
import ScriptPress.Proofs.Script.Pieces

/-!
# Control characters in literals

The file pattern and the specification of a dependency are checked for control characters; the
runtime and the name of a dependency are only kept free of blanks. Both keep a literal on its line,
but a control character that is no blank gets through the second. Main statement: what each literal
of an assembled script is free of, and that no more can be said.
-/
namespace ScriptPress

/-! ### Fields of one character -/

namespace Requirement

theorem isWord_singleton {c : Char} (h : Text.isBlank c = false) : IsWord [c] := by
  refine ⟨List.cons_ne_nil c [], ?_⟩
  intro d hd
  rw [List.mem_singleton.mp hd]
  exact h

theorem ofRuntime_singleton (l : Language) {c : Char} (h : Text.isBlank c = false) :
    ofRuntime l (String.ofList [c]) =
      .ok (some ⟨l.runtimeName, String.ofList [c]⟩) := by
  have hspec := (isWord_singleton h).isSpec
  have htrim : Text.trim (String.ofList [c]).toList = [c] := by
    rw [String.toList_ofList]
    exact Text.trim_of_ends [c] hspec.head hspec.last
  refine (ofRuntime_eq_some_iff l _ _).mpr ⟨?_, ?_⟩
  · rw [htrim]
    exact isWord_singleton h
  · rw [Text.trimmed, htrim]

theorem ofDependency_singleton {c : Char} (h : Text.isBlank c = false) :
    ofDependency (String.ofList [c, ' ', '1']) =
      .ok (some ⟨String.ofList [c], String.ofList ['1']⟩) := by
  have hline : Text.hasControl (String.ofList ['1']) = false := by decide
  refine (ofDependency_eq_some_iff _ _).mpr ⟨?_, hline⟩
  simp only [String.toList_ofList]
  exact ⟨isWord_singleton h, (isWord_singleton (c := '1') rfl).isSpec, [], [' '], [], rfl,
    List.forall_mem_nil _, List.forall_mem_singleton.mpr rfl, List.forall_mem_nil _,
    List.cons_ne_nil ' ' []⟩

end Requirement

namespace Request

theorem assemble_singleton {c : Char} (h : Text.isBlank c = false) :
    assemble ⟨"ruby", none, none, String.ofList [c], String.ofList [c, ' ', '1'], ""⟩ =
      .ok ⟨.ruby, "rb", Language.defaultPattern "rb", some ⟨"ruby", String.ofList [c]⟩,
        some ⟨String.ofList [c], String.ofList ['1']⟩,
        Script.combine .ruby ⟨Language.defaultPattern "rb", some ⟨"ruby", String.ofList [c]⟩,
          some ⟨String.ofList [c], String.ofList ['1']⟩, ""⟩⟩ := by
  have hl : Language.resolve "ruby" = .ok .ruby := Language.resolve_id .ruby
  have hpattern : Text.hasControl (Language.defaultPattern "rb") = false := by decide
  exact (assemble_eq_ok_iff _ _).mpr ⟨hl, rfl, rfl, hpattern, Requirement.ofRuntime_singleton .ruby h,
    Requirement.ofDependency_singleton h, rfl⟩

/-! ### Literals -/

/-- What the literals of an assembled script are free of. No control character gets into the file
pattern or into the specification of the dependency. No blank, and so no control character that is
one, gets into the runtime or into the name of the dependency; every other character can get into
these two. -/
theorem controls_of_assemble :
    (∀ (r : Request) (s : Snippet), r.assemble = .ok s →
      (∀ c ∈ s.filePattern.toList, Text.isControl c = false) ∧
      (∀ runtime, s.runtime = some runtime → ∀ c ∈ runtime.spec.toList, Text.isBlank c = false) ∧
      ∀ dependency, s.dependency = some dependency →
        (∀ c ∈ dependency.subject.toList, Text.isBlank c = false) ∧
        ∀ c ∈ dependency.spec.toList, Text.isControl c = false) ∧
    ∀ c, Text.isBlank c = false →
      ∃ r s runtime dependency, assemble r = .ok s ∧
        s.runtime = some runtime ∧ c ∈ runtime.spec.toList ∧
        s.dependency = some dependency ∧ c ∈ dependency.subject.toList := by
  constructor
  · intro r s h
    obtain ⟨_, _, _, hpattern, hruntime, hdependency, _⟩ := (assemble_eq_ok_iff r s).mp h
    refine ⟨(Text.hasControl_eq_false_iff _).mp hpattern, ?_, ?_⟩
    · intro runtime hr
      rw [hr] at hruntime
      exact Requirement.not_blank_of_ofRuntime _ _ runtime hruntime
    · intro dependency hd
      rw [hd] at hdependency
      obtain ⟨hname, hspec⟩ := Requirement.of_ofDependency _ dependency hdependency
      exact ⟨hname, (Text.hasControl_eq_false_iff _).mp hspec⟩
  · intro c hblank
    have hmem : c ∈ (String.ofList [c]).toList := by
      rw [String.toList_ofList]
      exact List.mem_singleton_self c
    exact ⟨_, _, _, _, assemble_singleton hblank, rfl, hmem, rfl, hmem⟩

theorem controls_of_assemble_bell :
    let parts : Script.Parts := ⟨"*.rb", some ⟨"ruby", "3\x071"⟩, some ⟨"ra\x07ils", "7"⟩, "x"⟩
    assemble ⟨"ruby", none, some "*.rb", "3\x071", "ra\x07ils 7", "x"⟩ =
      .ok ⟨.ruby, "rb", parts.filePattern, parts.runtime, parts.dependency,
        Script.combine .ruby parts⟩ ∧
    (∀ c ∈ "*.rb".toList, Text.isControl c = false) ∧
    (∀ c ∈ "3\x071".toList, Text.isBlank c = false) ∧
    Text.isBlank '\x1b' = false ∧
    ∃ r s runtime dependency, assemble r = .ok s ∧
      s.runtime = some runtime ∧ '\x1b' ∈ runtime.spec.toList ∧
      s.dependency = some dependency ∧ '\x1b' ∈ dependency.subject.toList := by
  have h : assemble ⟨"ruby", none, some "*.rb", "3\x071", "ra\x07ils 7", "x"⟩ =
      .ok ⟨.ruby, "rb", "*.rb", some ⟨"ruby", "3\x071"⟩, some ⟨"ra\x07ils", "7"⟩,
        Script.combine .ruby
          ⟨"*.rb", some ⟨"ruby", "3\x071"⟩, some ⟨"ra\x07ils", "7"⟩, "x"⟩⟩ := by rfl
  obtain ⟨hfree, hfound⟩ := controls_of_assemble
  obtain ⟨hpattern, hruntime, _⟩ := hfree _ _ h
  exact ⟨h, hpattern, hruntime _ rfl, rfl, hfound '\x1b' rfl⟩

/-- The values that a script puts between quotes are not all free of control characters: a bell
gets into the runtime and into the name of the dependency. -/
theorem control_in_literals :
    ¬∀ (r : Request) (s : Snippet), r.assemble = .ok s →
      ∀ v ∈ Script.Parts.values ⟨s.filePattern, s.runtime, s.dependency, r.body⟩,
        ∀ c ∈ v.toList, Text.isControl c = false := by
  intro hfree
  have hassembled : assemble ⟨"ruby", none, none, "3\x071", "ra\x07ils 7", ""⟩ =
      .ok ⟨.ruby, "rb", Language.defaultPattern "rb", some ⟨"ruby", "3\x071"⟩,
        some ⟨"ra\x07ils", "7"⟩, Script.combine .ruby ⟨Language.defaultPattern "rb",
          some ⟨"ruby", "3\x071"⟩, some ⟨"ra\x07ils", "7"⟩, ""⟩⟩ := by rfl
  have hbell := hfree _ _ hassembled "3\x071" List.mem_cons_self '\x07' (by decide)
  exact absurd hbell (by decide)

end Request
end ScriptPress
