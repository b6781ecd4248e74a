import ScriptPress.Proofs.Requirement.Grammar
import ScriptPress.Request

/-!
# Assembling a request

What it takes for a request to be assembled, field by field, and what the accepted fields are free
of. Main statement: `assemble_eq_ok_iff`; every later fact about an assembled script starts from it.
-/
namespace ScriptPress

theorem bind_eq_ok_iff {ε α β : Type} (x : Except ε α) (f : α → Except ε β) (b : β) :
    (x >>= f) = .ok b ↔ ∃ a, x = .ok a ∧ f a = .ok b := by
  cases x with
  | error e =>
    constructor
    · intro h
      cases h
    · rintro ⟨a, ha, _⟩
      cases ha
  | ok a =>
    constructor
    · intro h
      exact ⟨a, rfl, h⟩
    · rintro ⟨a', ha, h⟩
      cases ha
      exact h

theorem bind_eq_error_iff {ε α β : Type} (x : Except ε α) (f : α → Except ε β) (e : ε) :
    (x >>= f) = .error e ↔ x = .error e ∨ ∃ a, x = .ok a ∧ f a = .error e := by
  cases x with
  | error e' =>
    constructor
    · intro h
      cases h
      exact Or.inl rfl
    · rintro (h | ⟨a, ha, _⟩)
      · cases h
        rfl
      · cases ha
  | ok a =>
    constructor
    · intro h
      exact Or.inr ⟨a, rfl, h⟩
    · rintro (h | ⟨a', ha, h⟩)
      · cases h
      · cases ha
        exact h

/-! ### Requirements -/

namespace Requirement

theorem not_blank_of_ofRuntime (l : Language) (raw : String) (q : Requirement)
    (h : ofRuntime l raw = .ok (some q)) : ∀ c ∈ q.spec.toList, Text.isBlank c = false := by
  obtain ⟨hword, rfl⟩ := (ofRuntime_eq_some_iff l raw q).mp h
  rw [Text.toList_trimmed]
  exact hword.2

/-- A requirement read from a dependency field: the name ends before the first blank, and the
specification has no control character. -/
theorem of_ofDependency (raw : String) (q : Requirement) (h : ofDependency raw = .ok (some q)) :
    (∀ c ∈ q.subject.toList, Text.isBlank c = false) ∧ Text.hasControl q.spec = false := by
  obtain ⟨hdivides, hline⟩ := (ofDependency_eq_some_iff raw q).mp h
  exact ⟨hdivides.isWord.2, hline⟩

end Requirement

/-! ### Requests -/

namespace Request

/-- A request is assembled exactly when each of its fields is resolved, one after the other. -/
theorem assemble_eq_ok_iff (r : Request) (s : Snippet) :
    r.assemble = .ok s ↔
      Language.resolve r.language = .ok s.language ∧
      s.language.resolveExtension r.extension = .ok s.extension ∧
      s.filePattern = patternOr s.extension r.filePattern ∧
      Text.hasControl s.filePattern = false ∧
      Requirement.ofRuntime s.language r.runtimeVersion = .ok s.runtime ∧
      Requirement.ofDependency r.dependencyVersion = .ok s.dependency ∧
      s.text = Script.combine s.language.family
        ⟨s.filePattern, s.runtime, s.dependency, r.body⟩ := by
  simp only [assemble, bind_eq_ok_iff]
  constructor
  · rintro ⟨l, hl, e, he, u, hu, runtime, hr, dependency, hd, h⟩
    have hs := Except.ok.inj h
    subst hs
    exact ⟨hl, he, rfl, (ensureSingleLine_eq_ok_iff _ _).mp hu, hr, hd, rfl⟩
  · rintro ⟨hl, he, hp, hc, hr, hd, ht⟩
    rw [hp] at hc
    refine ⟨s.language, hl, s.extension, he, (), (ensureSingleLine_eq_ok_iff _ _).mpr hc,
      s.runtime, hr, s.dependency, hd, ?_⟩
    obtain ⟨language, extension, filePattern, runtime, dependency, text⟩ := s
    dsimp only at hp ht
    subst hp
    subst ht
    rfl

theorem exists_script (r : Request) (h : r.assemble.toOption.isSome = true) :
    ∃ s, r.assemble = .ok s := by
  cases hassembled : r.assemble with
  | ok s => exact ⟨s, rfl⟩
  | error fault =>
    rw [hassembled] at h
    cases h

theorem assemble_eq_error_iff (r : Request) (fault : Fault) :
    r.assemble = .error fault ↔
      Language.resolve r.language = .error fault ∨
      ∃ l, Language.resolve r.language = .ok l ∧
        (l.resolveExtension r.extension = .error fault ∨
        ∃ e, l.resolveExtension r.extension = .ok e ∧
          (ensureSingleLine .filePattern (patternOr e r.filePattern) = .error fault ∨
          Text.hasControl (patternOr e r.filePattern) = false ∧
            (Requirement.ofRuntime l r.runtimeVersion = .error fault ∨
            ∃ runtime, Requirement.ofRuntime l r.runtimeVersion = .ok runtime ∧
              Requirement.ofDependency r.dependencyVersion = .error fault))) := by
  simp only [assemble, bind_eq_error_iff]
  constructor
  · rintro (h | ⟨l, hl, h | ⟨e, he, h | ⟨u, hu, h | ⟨runtime, hr, h | ⟨dependency, hd, h⟩⟩⟩⟩⟩)
    · exact Or.inl h
    · exact Or.inr ⟨l, hl, Or.inl h⟩
    · exact Or.inr ⟨l, hl, Or.inr ⟨e, he, Or.inl h⟩⟩
    · have hc := (ensureSingleLine_eq_ok_iff _ _).mp hu
      exact Or.inr ⟨l, hl, Or.inr ⟨e, he, Or.inr ⟨hc, Or.inl h⟩⟩⟩
    · have hc := (ensureSingleLine_eq_ok_iff _ _).mp hu
      exact Or.inr ⟨l, hl, Or.inr ⟨e, he, Or.inr ⟨hc, Or.inr ⟨runtime, hr, h⟩⟩⟩⟩
    · cases h
  · rintro (h | ⟨l, hl, h | ⟨e, he, h | ⟨hc, h⟩⟩⟩)
    · exact Or.inl h
    · exact Or.inr ⟨l, hl, Or.inl h⟩
    · exact Or.inr ⟨l, hl, Or.inr ⟨e, he, Or.inl h⟩⟩
    · have hu := (ensureSingleLine_eq_ok_iff .filePattern _).mpr hc
      refine Or.inr ⟨l, hl, Or.inr ⟨e, he, Or.inr ⟨(), hu, ?_⟩⟩⟩
      rcases h with h | ⟨runtime, hr, h⟩
      · exact Or.inl h
      · exact Or.inr ⟨runtime, hr, Or.inl h⟩

/-- The body is never looked into: another body changes the text alone. -/
theorem assemble_withBody (r : Request) (body : String) :
    assemble { r with body := body } = r.assemble.map fun s => { s with
      text := Script.combine s.language.family ⟨s.filePattern, s.runtime, s.dependency, body⟩ } := by
  cases h : r.assemble with
  | ok s =>
    obtain ⟨hl, he, hp, hc, hr, hd, -⟩ := (assemble_eq_ok_iff r s).mp h
    exact (assemble_eq_ok_iff _ _).mpr ⟨hl, he, hp, hc, hr, hd, rfl⟩
  | error fault =>
    rw [assemble_eq_error_iff] at h
    exact (assemble_eq_error_iff _ fault).mpr h

/-- Requests whose fields resolve alike are assembled alike, faults included. -/
theorem assemble_congr (r q : Request)
    (hlanguage : Language.resolve r.language = Language.resolve q.language)
    (hextension : ∀ l, Language.resolve q.language = .ok l →
      l.resolveExtension r.extension = l.resolveExtension q.extension)
    (hpattern : ∀ l e, Language.resolve q.language = .ok l → l.resolveExtension q.extension = .ok e →
      patternOr e r.filePattern = patternOr e q.filePattern)
    (hruntime : r.runtimeVersion = q.runtimeVersion)
    (hdependency : r.dependencyVersion = q.dependencyVersion) (hbody : r.body = q.body) :
    r.assemble = q.assemble := by
  simp only [assemble, hlanguage, hruntime, hdependency, hbody]
  cases hl : Language.resolve q.language with
  | error fault => rfl
  | ok l =>
    show (l.resolveExtension r.extension >>= _) = (l.resolveExtension q.extension >>= _)
    rw [hextension l hl]
    cases he : l.resolveExtension q.extension with
    | error fault => rfl
    | ok e =>
      have hp := hpattern l e hl he
      simp only [bind, Except.bind, hp]

theorem assemble_of_resolve_error (r : Request) (fault : Fault)
    (h : Language.resolve r.language = .error fault) : r.assemble = .error fault := by
  rw [assemble, h]
  rfl

theorem assemble_of_resolveExtension_error (r : Request) (l : Language) (fault : Fault)
    (hl : Language.resolve r.language = .ok l)
    (he : l.resolveExtension r.extension = .error fault) : r.assemble = .error fault := by
  rw [assemble, hl]
  show (l.resolveExtension r.extension >>= _) = _
  rw [he]
  rfl

end Request
end ScriptPress
