import ScriptPress.Proofs.Requirement.Grammar

/-!
# How a dependency field divides

A dependency field divides into a name and a specification in one way at most, so that what is read
from it is what its grammar says and nothing else. Main statement: a field is blank, a lone word or
divides, and each of its results and each of its faults comes from one of these alone.
-/
namespace ScriptPress.Requirement

open Text (isBlank AllBlank)

/-- One word with blanks around it, and nothing else. -/
def IsLoneWord (raw : List Char) : Prop :=
  ∃ before word after, raw = before ++ word ++ after ∧ AllBlank before ∧ IsWord word ∧
    AllBlank after

theorem isWord_trim_iff (raw : List Char) : IsWord (Text.trim raw) ↔ IsLoneWord raw := by
  constructor
  · intro h
    obtain ⟨before, after, hraw, hbefore, hafter⟩ := Text.exists_append_trim raw
    exact ⟨before, Text.trim raw, after, hraw, hbefore, h, hafter⟩
  · rintro ⟨before, word, after, rfl, hbefore, hword, hafter⟩
    have hspec := hword.isSpec
    rw [Text.trim_between before word after hbefore hafter hspec.head hspec.last]
    exact hword

/-! ### One division at most -/

theorem Divides.unique {raw name spec name' spec' : List Char} (h : Divides raw name spec)
    (h' : Divides raw name' spec') : name = name' ∧ spec = spec' := by
  obtain ⟨hname, hspec⟩ := h.cut
  obtain ⟨hname', hspec'⟩ := h'.cut
  exact ⟨hname.symm.trans hname', hspec.symm.trans hspec'⟩

/-! ### Faults apart -/

theorem ofDependency_eq_malformed_iff (raw text : String) (field : Field) (form : Form) :
    ofDependency raw = .error (.malformed field text form) ↔
      IsLoneWord raw.toList ∧ field = .dependencyVersion ∧ text = raw ∧
        form = .nameAndVersion := by
  rw [ofDependency_eq_error_iff, isWord_trim_iff]
  constructor
  · rintro (⟨hword, hfault⟩ | ⟨name, spec, -, -, hfault⟩)
    · cases hfault
      exact ⟨hword, rfl, rfl, rfl⟩
    · cases hfault
  · rintro ⟨hword, rfl, rfl, rfl⟩
    exact Or.inl ⟨hword, rfl⟩

theorem ofDependency_eq_controlCharacter_iff (raw text : String) (field : Field) :
    ofDependency raw = .error (.controlCharacter field text) ↔
      field = .dependencyVersion ∧ ∃ name, Divides raw.toList name text.toList ∧
        ∃ c ∈ text.toList, Text.isControl c = true := by
  rw [ofDependency_eq_error_iff]
  constructor
  · rintro (⟨-, hfault⟩ | ⟨name, spec, hdivides, hcontrol, hfault⟩)
    · cases hfault
    · cases hfault
      rw [String.toList_ofList]
      exact ⟨rfl, name, hdivides, hcontrol⟩
  · rintro ⟨rfl, name, hdivides, hcontrol⟩
    refine Or.inr ⟨name, text.toList, hdivides, hcontrol, ?_⟩
    rw [String.ofList_toList]

theorem Divides.ne_empty {raw : List Char} {q : Requirement}
    (h : Divides raw q.subject.toList q.spec.toList) : q.subject ≠ "" ∧ q.spec ≠ "" := by
  constructor
  · intro hempty
    exact h.isWord.1 (String.toList_eq_nil_iff.mpr hempty)
  · intro hempty
    exact h.isSpec.ne_nil (String.toList_eq_nil_iff.mpr hempty)

/-- A dependency field is read as its grammar says. It asks for nothing exactly if it is blank. It
asks for a specification of a name exactly if it divides into the two and no control character is in
the specification; it divides in one way at most, and neither part is empty. It is malformed exactly
if it is a lone word, and the fault shows it as it stands; it holds a control character exactly if
it divides and one is in the specification, which the fault shows. There is no other fault. -/
theorem ofDependency_iff_grammar (raw : String) :
    (ofDependency raw = .ok none ↔ AllBlank raw.toList) ∧
    (∀ q, ofDependency raw = .ok (some q) ↔
      Divides raw.toList q.subject.toList q.spec.toList ∧
        ∀ c ∈ q.spec.toList, Text.isControl c = false) ∧
    (∀ name spec name' spec', Divides raw.toList name spec → Divides raw.toList name' spec' →
      name = name' ∧ spec = spec') ∧
    (∀ q, ofDependency raw = .ok (some q) → q.subject ≠ "" ∧ q.spec ≠ "") ∧
    (∀ field text form, ofDependency raw = .error (.malformed field text form) ↔
      IsLoneWord raw.toList ∧ field = .dependencyVersion ∧ text = raw ∧
        form = .nameAndVersion) ∧
    (∀ field text, ofDependency raw = .error (.controlCharacter field text) ↔
      field = .dependencyVersion ∧ ∃ name, Divides raw.toList name text.toList ∧
        ∃ c ∈ text.toList, Text.isControl c = true) ∧
    ∀ fault, ofDependency raw = .error fault →
      (∃ field text form, fault = .malformed field text form) ∨
        ∃ field text, fault = .controlCharacter field text := by
  refine ⟨ofDependency_eq_none_iff raw, fun q => ?_, fun _ _ _ _ h h' => h.unique h',
    fun q hq => ((ofDependency_eq_some_iff raw q).mp hq).1.ne_empty,
    fun field text form => ofDependency_eq_malformed_iff raw text field form,
    fun field text => ofDependency_eq_controlCharacter_iff raw text field, ?_⟩
  · rw [ofDependency_eq_some_iff, Text.hasControl_eq_false_iff]
  · intro fault hfault
    rcases (ofDependency_eq_error_iff raw fault).mp hfault with
      ⟨-, hfault⟩ | ⟨name, spec, -, -, hfault⟩
    · exact Or.inl ⟨_, _, _, hfault⟩
    · exact Or.inr ⟨_, _, hfault⟩

/-- U+0085 is a blank and a control character: it can separate, and not stand in a specification. -/
example : ofDependency "rails\u0085~> 7" = .ok (some ⟨"rails", "~> 7"⟩) ∧
    ofDependency "rails ~>\u00857" =
      .error (.controlCharacter .dependencyVersion "~>\u00857") := by
  constructor <;> rfl

end ScriptPress.Requirement
