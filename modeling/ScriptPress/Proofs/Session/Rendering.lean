import ScriptPress.Proofs.Language.Spelling
import ScriptPress.Proofs.Request.Refusal
import ScriptPress.Proofs.Session.Provenance

/-!
# Scripts of a session

A session is rendered through a request, in which its language and its extension are texts again.
Whatever was done to the session, the request resolves back to both of them. Main statement:
`render_resolves_back`; only the pattern and the two versions can stand in the way of the script.
-/
namespace ScriptPress.Session

theorem isFor_request {s : Session} (h : s.extension ∈ s.language.extensions) :
    s.request.IsFor s.language s.extension :=
  ⟨Language.resolve_id s.language, Language.resolveExtension_of_mem s.language s.extension h⟩

/-- The default pattern of an extension can stand in a literal. -/
theorem control_defaultPattern {l : Language} {e : String} (h : e ∈ l.extensions) :
    ∀ c ∈ (Language.defaultPattern e).toList, Text.isControl c = false := by
  have hall : ∀ e ∈ l.extensions, Text.hasControl (Language.defaultPattern e) = false := by
    cases l <;> decide
  exact (Text.hasControl_eq_false_iff _).mp (hall e h)

theorem patternOr_request (s : Session) :
    (Text.AllBlank s.filePattern.toList →
      Request.patternOr s.extension s.request.filePattern = Language.defaultPattern s.extension) ∧
    (¬Text.AllBlank s.filePattern.toList →
      Request.patternOr s.extension s.request.filePattern = Text.trimmed s.filePattern) := by
  obtain ⟨hblank, hp⟩ | ⟨text, htext, hfull, hp⟩ :=
    (Request.patternInForce_iff s.extension (some s.filePattern) _).mpr rfl
  · have hall := hblank s.filePattern rfl
    exact ⟨fun _ => hp, fun hnot => absurd hall hnot⟩
  · obtain rfl : s.filePattern = text := Option.some.inj htext
    exact ⟨fun hall => absurd hall hfull, fun _ => hp⟩

/-- The pattern passes exactly if what is given of it has no control character: the default never
has one. -/
theorem passes_filePattern_request {s : Session} (h : s.extension ∈ s.language.extensions) :
    s.request.Passes .filePattern ↔
      ∀ c ∈ Text.trim s.filePattern.toList, Text.isControl c = false := by
  rw [Request.passes_filePattern_iff (isFor_request h), Text.hasControl_eq_false_iff]
  by_cases hblank : Text.AllBlank s.filePattern.toList
  · rw [(patternOr_request s).1 hblank, (Text.trim_eq_nil_iff _).mpr hblank]
    exact ⟨fun _ => List.forall_mem_nil _, fun _ => control_defaultPattern h⟩
  · rw [(patternOr_request s).2 hblank, Text.toList_trimmed]

/-- Every session that can be reached is rendered as what it is. It is never refused for its
language or its extension: it has a script exactly if its pattern, without the blanks around it, has
no control character and its two versions can be read. The script is for the language and the
extension of the session; its pattern is the one of the session without the blanks around it, or the
default of the extension when that leaves nothing; and it holds the body of the session. -/
theorem render_resolves_back (l : Language) (ops : List Operation) :
    let now := (start l).run ops
    (∀ fault, now.render = .error fault →
      (∀ id, fault ≠ .unsupportedLanguage id) ∧
        ∀ language extension expected, fault ≠ .unsupportedExtension language extension expected) ∧
    ((∃ snippet, now.render = .ok snippet) ↔
      (∀ c ∈ Text.trim now.filePattern.toList, Text.isControl c = false) ∧
      (∃ runtime, Requirement.ofRuntime now.language now.runtimeVersion = .ok runtime) ∧
      ∃ dependency, Requirement.ofDependency now.dependencyVersion = .ok dependency) ∧
    ∀ snippet, now.render = .ok snippet →
      snippet.language = now.language ∧ snippet.extension = now.extension ∧
      (Text.AllBlank now.filePattern.toList →
        snippet.filePattern = Language.defaultPattern now.extension) ∧
      (¬Text.AllBlank now.filePattern.toList →
        snippet.filePattern = Text.trimmed now.filePattern) ∧
      Requirement.ofRuntime now.language now.runtimeVersion = .ok snippet.runtime ∧
      Requirement.ofDependency now.dependencyVersion = .ok snippet.dependency ∧
      snippet.text = Script.combine now.language.family
        ⟨snippet.filePattern, snippet.runtime, snippet.dependency, now.body⟩ := by
  intro now
  have hmem : now.extension ∈ now.language.extensions := extension_mem_run_start l ops
  have hfor := isFor_request hmem
  have hlanguage : now.request.Passes .language := ⟨now.language, hfor.1⟩
  have hextension : now.request.Passes .extension := ⟨now.language, now.extension, hfor⟩
  refine ⟨?_, ?_, ?_⟩
  · intro fault hfault
    obtain ⟨stage, ⟨-, hfails⟩, hreports⟩ := Request.exists_failsAt_of_error now.request fault hfault
    cases hreports with
    | language => exact absurd hlanguage hfails
    | extension => exact absurd hextension hfails
    | _ => exact ⟨nofun, nofun⟩
  · have hpattern := passes_filePattern_request hmem
    have hruntime := Request.passes_runtimeVersion_iff now.request now.language
    have hdependency := Request.passes_dependencyVersion_iff now.request
    refine (Request.exists_assemble_iff now.request).trans ⟨fun h => ?_, ?_⟩
    · exact ⟨hpattern.mp (h .filePattern), hruntime.mp (h .runtimeVersion),
        hdependency.mp (h .dependencyVersion)⟩
    · rintro ⟨hp, hr, hd⟩ stage
      cases stage with
      | language => exact hlanguage
      | extension => exact hextension
      | filePattern => exact hpattern.mpr hp
      | runtimeVersion => exact hruntime.mpr hr
      | dependencyVersion => exact hdependency.mpr hd
  · intro snippet hsnippet
    obtain ⟨hl, he, hp, -, hr, hd, htext⟩ := (Request.assemble_eq_ok_iff _ _).mp hsnippet
    obtain ⟨hll, hee⟩ := hfor.unique ⟨hl, he⟩
    rw [← hee] at hp
    rw [← hll] at hr htext
    refine ⟨hll.symm, hee.symm, fun hblank => ?_, fun hfull => ?_, hr, hd, htext⟩
    · exact hp.trans ((patternOr_request now).1 hblank)
    · exact hp.trans ((patternOr_request now).2 hfull)

/-- A blank pattern is the default of the extension that was taken, not of the language, and the
extension that was refused leaves no trace. -/
example : (((start .typeScript).run [.setExtension "TSX", .setExtension "rb",
    .setFilePattern " "]).render.map Snippet.filePattern) = .ok "**/*.tsx" := by rfl

end ScriptPress.Session
