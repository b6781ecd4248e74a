import ScriptPress.Proofs.Request.Assembly
import ScriptPress.Proofs.Script.Lines

/-!
# Refused requests

What each field of a request has to meet, and the fault that it is refused with otherwise. The
fields are looked at in a fixed order, and the first that fails decides. Main statement: a request
is assembled exactly if every field passes, it is refused exactly for the first field that does not,
and its body has no say in either.
-/
namespace ScriptPress

/-- Two scripts with the same resolved fields and the same warnings about them. -/
structure Snippet.SameFields (s t : Snippet) : Prop where
  language : s.language = t.language
  extension : s.extension = t.extension
  filePattern : s.filePattern = t.filePattern
  runtime : s.runtime = t.runtime
  dependency : s.dependency = t.dependency
  warnings : s.warnings = t.warnings

namespace Request

open Requirement (IsWord Divides)

/-! ### What is asked of the fields -/

/-- The fields that decide whether a request is assembled. -/
inductive Stage where
  | language
  | extension
  | filePattern
  | runtimeVersion
  | dependencyVersion
  deriving DecidableEq, Repr

def Stage.earlier : Stage → List Stage
  | .language => []
  | .extension => [.language]
  | .filePattern => [.language, .extension]
  | .runtimeVersion => [.language, .extension, .filePattern]
  | .dependencyVersion => [.language, .extension, .filePattern, .runtimeVersion]

/-- The request is for this language and this extension of it. -/
def IsFor (r : Request) (l : Language) (extension : String) : Prop :=
  Language.resolve r.language = .ok l ∧ l.resolveExtension r.extension = .ok extension

/-- The pattern in force: the one given, without the blanks around it, or the default of the
extension when none or a blank one is given. -/
def PatternInForce (extension : String) (given : Option String) (pattern : String) : Prop :=
  ((∀ text, given = some text → Text.AllBlank text.toList) ∧
    pattern = Language.defaultPattern extension) ∨
  ∃ text, given = some text ∧ ¬Text.AllBlank text.toList ∧ pattern = Text.trimmed text

/-- What a field has to meet, the fields before it given. -/
def Passes (r : Request) : Stage → Prop
  | .language => ∃ l, Language.resolve r.language = .ok l
  | .extension => ∃ l extension, r.IsFor l extension
  | .filePattern => ∃ l extension pattern, r.IsFor l extension ∧
      PatternInForce extension r.filePattern pattern ∧
      ∀ c ∈ pattern.toList, Text.isControl c = false
  | .runtimeVersion => ∀ c ∈ Text.trim r.runtimeVersion.toList, Text.isBlank c = false
  | .dependencyVersion => Text.AllBlank r.dependencyVersion.toList ∨
      ∃ name spec, Divides r.dependencyVersion.toList name spec ∧
        ∀ c ∈ spec, Text.isControl c = false

inductive Reports (r : Request) : Stage → Fault → Prop where
  | language : Reports r .language (.unsupportedLanguage r.language)
  | extension {l : Language} {text : String} (hl : Language.resolve r.language = .ok l)
      (ht : r.extension = some text) :
      Reports r .extension (.unsupportedExtension l.id
        (String.ofList (Language.bareExtension text)) (", ".intercalate l.extensions))
  | filePattern {l : Language} {extension pattern : String} (hf : r.IsFor l extension)
      (hp : PatternInForce extension r.filePattern pattern) :
      Reports r .filePattern (.controlCharacter .filePattern pattern)
  | runtimeVersion : Reports r .runtimeVersion
      (.malformed .runtimeVersion r.runtimeVersion .singleVersion)
  | word (hw : IsWord (Text.trim r.dependencyVersion.toList)) : Reports r .dependencyVersion
      (.malformed .dependencyVersion r.dependencyVersion .nameAndVersion)
  | spec {name spec : List Char} (hd : Divides r.dependencyVersion.toList name spec) :
      Reports r .dependencyVersion (.controlCharacter .dependencyVersion (String.ofList spec))

/-! ### The single stages -/

theorem patternInForce_iff (extension : String) (given : Option String) (pattern : String) :
    PatternInForce extension given pattern ↔ pattern = patternOr extension given := by
  cases given with
  | none => simp [PatternInForce, patternOr]
  | some text =>
    have htext : PatternInForce extension (some text) pattern ↔
        (Text.AllBlank text.toList ∧ pattern = Language.defaultPattern extension) ∨
          ¬Text.AllBlank text.toList ∧ pattern = Text.trimmed text := by
      simp [PatternInForce]
    rw [htext, ← Text.trim_eq_nil_iff, patternOr]
    cases htrim : Text.trim text.toList with
    | nil => simp
    | cons c s => simp [Text.trimmed, htrim]

theorem IsFor.unique {r : Request} {l l' : Language} {e e' : String} (h : r.IsFor l e)
    (h' : r.IsFor l' e') : l = l' ∧ e = e' := by
  have hl : l = l' := Except.ok.inj (h.1.symm.trans h'.1)
  subst hl
  exact ⟨rfl, Except.ok.inj (h.2.symm.trans h'.2)⟩

theorem passes_extension_iff {r : Request} {l : Language}
    (hl : Language.resolve r.language = .ok l) :
    r.Passes .extension ↔ ∃ e, l.resolveExtension r.extension = .ok e := by
  constructor
  · rintro ⟨l', e, hl', he⟩
    rw [Except.ok.inj (hl.symm.trans hl')]
    exact ⟨e, he⟩
  · rintro ⟨e, he⟩
    exact ⟨l, e, hl, he⟩

theorem passes_filePattern_iff {r : Request} {l : Language} {e : String} (hf : r.IsFor l e) :
    r.Passes .filePattern ↔ Text.hasControl (patternOr e r.filePattern) = false := by
  rw [Text.hasControl_eq_false_iff]
  constructor
  · rintro ⟨l', e', pattern, hf', hp, hc⟩
    rw [(patternInForce_iff _ _ _).mp hp, ← (hf.unique hf').2] at hc
    exact hc
  · intro hc
    exact ⟨l, e, _, hf, (patternInForce_iff _ _ _).mpr rfl, hc⟩

theorem passes_runtimeVersion_iff (r : Request) (l : Language) :
    r.Passes .runtimeVersion ↔ ∃ runtime, Requirement.ofRuntime l r.runtimeVersion = .ok runtime := by
  constructor
  · intro h
    cases hr : Requirement.ofRuntime l r.runtimeVersion with
    | ok runtime => exact ⟨runtime, rfl⟩
    | error fault =>
      obtain ⟨⟨c, hc, hblank⟩, -⟩ := (Requirement.ofRuntime_eq_error_iff _ _ _).mp hr
      rw [h c hc] at hblank
      cases hblank
  · rintro ⟨runtime, hr⟩ c hc
    apply Bool.eq_false_iff.mpr
    intro hblank
    rw [Requirement.ofRuntime_of_gap l ⟨c, hc, hblank⟩] at hr
    cases hr

theorem passes_dependencyVersion_iff (r : Request) :
    r.Passes .dependencyVersion ↔
      ∃ dependency, Requirement.ofDependency r.dependencyVersion = .ok dependency := by
  constructor
  · rintro (hblank | ⟨name, spec, hdivides, hc⟩)
    · exact ⟨none, Requirement.ofDependency_of_blank hblank⟩
    · refine ⟨some ⟨String.ofList name, String.ofList spec⟩, ?_⟩
      rw [Requirement.ofDependency_eq_some_iff, Text.hasControl_eq_false_iff, String.toList_ofList,
        String.toList_ofList]
      exact ⟨hdivides, hc⟩
  · rintro ⟨dependency, hd⟩
    cases dependency with
    | none => exact Or.inl ((Requirement.ofDependency_eq_none_iff _).mp hd)
    | some q =>
      obtain ⟨hdivides, hc⟩ := (Requirement.ofDependency_eq_some_iff _ q).mp hd
      exact Or.inr ⟨_, _, hdivides, (Text.hasControl_eq_false_iff _).mp hc⟩

/-! ### All stages -/

theorem exists_assemble_iff (r : Request) : (∃ s, r.assemble = .ok s) ↔ ∀ stage, r.Passes stage := by
  constructor
  · rintro ⟨s, h⟩ stage
    obtain ⟨hl, he, hp, hc, hr, hd, -⟩ := (assemble_eq_ok_iff r s).mp h
    rw [hp] at hc
    cases stage with
    | language => exact ⟨s.language, hl⟩
    | extension => exact ⟨s.language, s.extension, hl, he⟩
    | filePattern => exact (passes_filePattern_iff ⟨hl, he⟩).mpr hc
    | runtimeVersion => exact (passes_runtimeVersion_iff r s.language).mpr ⟨s.runtime, hr⟩
    | dependencyVersion => exact (passes_dependencyVersion_iff r).mpr ⟨s.dependency, hd⟩
  · intro h
    obtain ⟨l, e, hf⟩ := h .extension
    have hc := (passes_filePattern_iff hf).mp (h .filePattern)
    obtain ⟨runtime, hr⟩ := (passes_runtimeVersion_iff r l).mp (h .runtimeVersion)
    obtain ⟨dependency, hd⟩ := (passes_dependencyVersion_iff r).mp (h .dependencyVersion)
    refine ⟨⟨l, e, patternOr e r.filePattern, runtime, dependency,
      Script.combine l.family ⟨patternOr e r.filePattern, runtime, dependency, r.body⟩⟩, ?_⟩
    exact (assemble_eq_ok_iff r _).mpr ⟨hf.1, hf.2, rfl, hc, hr, hd, rfl⟩

/-- The stage is the first that a request does not pass. -/
def FailsAt (r : Request) (stage : Stage) : Prop :=
  (∀ passed ∈ stage.earlier, r.Passes passed) ∧ ¬r.Passes stage

theorem exists_failsAt_of_error (r : Request) (fault : Fault) (h : r.assemble = .error fault) :
    ∃ stage, r.FailsAt stage ∧ r.Reports stage fault := by
  rcases (assemble_eq_error_iff r fault).mp h with
    h | ⟨l, hl, h | ⟨e, he, h | ⟨hc, h | ⟨runtime, hr, h⟩⟩⟩⟩
  · obtain ⟨hfails, rfl⟩ := (Language.resolve_eq_error_iff _ fault).mp h
    exact ⟨.language, ⟨List.forall_mem_nil _, hfails⟩, .language⟩
  · have hlanguage : r.Passes .language := ⟨l, hl⟩
    obtain ⟨hfails, text, ht, rfl⟩ := (Language.resolveExtension_eq_error_iff l _ fault).mp h
    refine ⟨.extension, ⟨?_, ?_⟩, .extension hl ht⟩
    · simpa [Stage.earlier] using hlanguage
    · rw [passes_extension_iff hl]
      exact hfails
  · have hlanguage : r.Passes .language := ⟨l, hl⟩
    have hextension : r.Passes .extension := ⟨l, e, hl, he⟩
    obtain ⟨hcontrol, rfl⟩ := (ensureSingleLine_eq_error_iff _ _ fault).mp h
    refine ⟨.filePattern, ⟨?_, ?_⟩, .filePattern ⟨hl, he⟩ ((patternInForce_iff _ _ _).mpr rfl)⟩
    · simpa [Stage.earlier] using ⟨hlanguage, hextension⟩
    · rw [passes_filePattern_iff ⟨hl, he⟩, hcontrol]
      exact Bool.noConfusion
  · have hlanguage : r.Passes .language := ⟨l, hl⟩
    have hextension : r.Passes .extension := ⟨l, e, hl, he⟩
    have hpattern : r.Passes .filePattern := (passes_filePattern_iff ⟨hl, he⟩).mpr hc
    obtain ⟨-, hfault⟩ := (Requirement.ofRuntime_eq_error_iff l _ fault).mp h
    rw [hfault]
    refine ⟨.runtimeVersion, ⟨?_, ?_⟩, .runtimeVersion⟩
    · simpa [Stage.earlier] using ⟨hlanguage, hextension, hpattern⟩
    · rw [passes_runtimeVersion_iff r l, h]
      rintro ⟨runtime, hr⟩
      cases hr
  · have hlanguage : r.Passes .language := ⟨l, hl⟩
    have hextension : r.Passes .extension := ⟨l, e, hl, he⟩
    have hpattern : r.Passes .filePattern := (passes_filePattern_iff ⟨hl, he⟩).mpr hc
    have hruntime : r.Passes .runtimeVersion := (passes_runtimeVersion_iff r l).mpr ⟨runtime, hr⟩
    refine ⟨.dependencyVersion, ⟨?_, ?_⟩, ?_⟩
    · simpa [Stage.earlier] using ⟨hlanguage, hextension, hpattern, hruntime⟩
    · rw [passes_dependencyVersion_iff, h]
      rintro ⟨dependency, hd⟩
      cases hd
    · rcases (Requirement.ofDependency_eq_error_iff _ fault).mp h with
        ⟨hw, rfl⟩ | ⟨name, spec, hd, -, rfl⟩
      · exact .word hw
      · exact .spec hd

/-- Once the pattern has passed, the versions decide. -/
theorem assemble_of_versions_error {r : Request} {fault : Fault} (hpattern : r.Passes .filePattern)
    (h : ∀ l, Requirement.ofRuntime l r.runtimeVersion = .error fault ∨
      ∃ runtime, Requirement.ofRuntime l r.runtimeVersion = .ok runtime ∧
        Requirement.ofDependency r.dependencyVersion = .error fault) :
    r.assemble = .error fault := by
  obtain ⟨l, e, hf⟩ : ∃ l e, r.IsFor l e := by
    obtain ⟨l, e, pattern, hf, -⟩ := hpattern
    exact ⟨l, e, hf⟩
  have hc := (passes_filePattern_iff hf).mp hpattern
  exact (assemble_eq_error_iff r fault).mpr
    (Or.inr ⟨l, hf.1, Or.inr ⟨e, hf.2, Or.inr ⟨hc, h l⟩⟩⟩)

theorem assemble_of_dependency_error {r : Request} {fault : Fault}
    (hearlier : ∀ passed ∈ Stage.dependencyVersion.earlier, r.Passes passed)
    (h : Requirement.ofDependency r.dependencyVersion = .error fault) :
    r.assemble = .error fault := by
  apply assemble_of_versions_error (hearlier .filePattern (by decide))
  intro l
  obtain ⟨runtime, hr⟩ :=
    (passes_runtimeVersion_iff r l).mp (hearlier .runtimeVersion (by decide))
  exact Or.inr ⟨runtime, hr, h⟩

theorem assemble_of_failsAt (r : Request) (stage : Stage) (fault : Fault) (hf : r.FailsAt stage)
    (hr : r.Reports stage fault) : r.assemble = .error fault := by
  obtain ⟨hearlier, hfails⟩ := hf
  cases hr with
  | language =>
    exact assemble_of_resolve_error r _ ((Language.resolve_eq_error_iff _ _).mpr ⟨hfails, rfl⟩)
  | extension hl ht =>
    rw [passes_extension_iff hl] at hfails
    exact assemble_of_resolveExtension_error r _ _ hl
      ((Language.resolveExtension_eq_error_iff _ _ _).mpr ⟨hfails, _, ht, rfl⟩)
  | filePattern hf hp =>
    rw [passes_filePattern_iff hf, Bool.not_eq_false] at hfails
    rw [(patternInForce_iff _ _ _).mp hp]
    have hline := (ensureSingleLine_eq_error_iff .filePattern _ _).mpr ⟨hfails, rfl⟩
    exact (assemble_eq_error_iff r _).mpr (Or.inr ⟨_, hf.1, Or.inr ⟨_, hf.2, Or.inl hline⟩⟩)
  | runtimeVersion =>
    apply assemble_of_versions_error (hearlier .filePattern (by decide))
    intro l
    have hgap : ∃ c ∈ Text.trim r.runtimeVersion.toList, Text.isBlank c = true := by
      simpa [Passes] using hfails
    exact Or.inl (Requirement.ofRuntime_of_gap l hgap)
  | word hw => exact assemble_of_dependency_error hearlier (Requirement.ofDependency_of_word hw)
  | @spec name spec hd =>
    have hcontrol : ∃ c ∈ spec, Text.isControl c = true := by
      by_contra hnone
      apply hfails
      refine Or.inr ⟨_, _, hd, ?_⟩
      intro c hc
      exact Bool.eq_false_iff.mpr fun htrue => hnone ⟨c, hc, htrue⟩
    exact assemble_of_dependency_error hearlier
      ((Requirement.ofDependency_eq_error_iff _ _).mpr (Or.inr ⟨_, _, hd, hcontrol, rfl⟩))

/-! ### The body and the text -/

theorem sameFields_of_withBody (r : Request) (body : String) :
    (∃ s t, r.assemble = .ok s ∧ assemble { r with body := body } = .ok t ∧ s.SameFields t) ∨
      ∃ fault, r.assemble = .error fault ∧ assemble { r with body := body } = .error fault := by
  rw [assemble_withBody r body]
  cases r.assemble with
  | ok s => exact Or.inl ⟨s, _, rfl, rfl, ⟨rfl, rfl, rfl, rfl, rfl, rfl⟩⟩
  | error fault => exact Or.inr ⟨fault, rfl, rfl⟩

theorem textOrEmpty_cases (r : Request) :
    (∃ s, r.assemble = .ok s ∧ r.textOrEmpty = s.text ∧ s.text ≠ "") ∨
      ∃ fault, r.assemble = .error fault ∧ r.textOrEmpty = "" := by
  cases h : r.assemble with
  | ok s =>
    obtain ⟨-, -, -, -, -, -, htext⟩ := (assemble_eq_ok_iff r s).mp h
    refine Or.inl ⟨s, rfl, ?_, ?_⟩
    · rw [textOrEmpty, h]
    · rw [htext]
      exact Script.combine_ne_empty _ _
  | error fault =>
    refine Or.inr ⟨fault, rfl, ?_⟩
    rw [textOrEmpty, h]

/-- A request is assembled exactly if all of its fields pass; else it is refused with the fault of
the first that fails, in the order of language, extension, file pattern, runtime and dependency. The
body has no say: with another body the same fields are resolved, with the same warnings, or the same
fault is reported. The text for showing is the text of the script, which is never empty, and is
empty exactly if there is no script. -/
theorem assemble_all_or_first_fault (r : Request) :
    ((∃ s, r.assemble = .ok s) ↔ ∀ stage, r.Passes stage) ∧
    (∀ fault, r.assemble = .error fault ↔ ∃ stage, r.FailsAt stage ∧ r.Reports stage fault) ∧
    (∀ body,
      (∃ s t, r.assemble = .ok s ∧ assemble { r with body := body } = .ok t ∧ s.SameFields t) ∨
        ∃ fault, r.assemble = .error fault ∧ assemble { r with body := body } = .error fault) ∧
    ((∃ s, r.assemble = .ok s ∧ r.textOrEmpty = s.text ∧ s.text ≠ "") ∨
      ∃ fault, r.assemble = .error fault ∧ r.textOrEmpty = "") := by
  refine ⟨exists_assemble_iff r, ?_, sameFields_of_withBody r, textOrEmpty_cases r⟩
  intro fault
  constructor
  · exact exists_failsAt_of_error r fault
  · rintro ⟨stage, hfails, hreports⟩
    exact assemble_of_failsAt r stage fault hfails hreports

/-- A bad pattern is reported before a bad runtime and a bad dependency. -/
example : assemble ⟨"ruby", none, some "a\u0000b", "3 1", "rails", ""⟩ =
    .error (.controlCharacter .filePattern "a\u0000b") := by rfl

end Request
end ScriptPress
