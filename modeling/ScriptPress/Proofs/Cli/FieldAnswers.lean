import ScriptPress.Proofs.Cli.Answers
import ScriptPress.Proofs.Language.Spelling

/-!
# Questions for the fields

The first part of a dialogue asks for the language, the extension, the file pattern and the versions.
Main statement: `ends_askFields`, which inverts its log: what is asked for is what the options do not
spare, and what was answered is kept.
-/
namespace ScriptPress
namespace Cli

def askFields (o : PromptOptions) : Run Session := do
  let language ← askLanguage o
  let s ← askExtension o (Session.start language)
  let s ← askFilePattern o s
  askVersions o s

theorem askSession_eq (limit : Nat) (o : PromptOptions) :
    askSession limit o = (askFields o >>= askBody limit o) := by
  simp only [askSession, askFields, Run.bind_assoc]

theorem ends_askLanguage (o : PromptOptions) (l : Language) (log : List Happening)
    (h : (askLanguage o).Ends log (.ok l)) :
    (∀ e ∈ log, Concerns ["Select a language"] e) ∧ languageGiven o log = some l ∧
      (choiceIn log "Select a language").isSome = o.language.isNone := by
  unfold askLanguage at h
  unfold languageGiven
  split at h
  · simp only [Run.ends_ofFault_bind_iff, Run.ends_tell_bind_iff, Run.ends_pure_iff] at h
    obtain ⟨found, hfound, _, ⟨rfl, rfl⟩, rfl⟩ := h
    simp [Concerns, Except.toOption, choiceIn, Happening.choice?, *]
  · simp only [Run.ends_answer_bind_iff, Run.ends_pure_iff] at h
    obtain ⟨i, -, _, ⟨rfl, rfl⟩, rfl⟩ := h
    have hi : i.val < Language.all.length := i.isLt
    simp [Concerns, choiceIn, Happening.choice?, *]

/-- The extension of a language in force after an answer to the choice of extensions. -/
def extensionGiven (l : Language) (log : List Happening) : String :=
  ((choiceIn log "Select a file extension").bind fun i => l.extensions[i]?).getD l.extension

theorem ends_askExtension (o : PromptOptions) (l : Language) (s : Session) (log : List Happening)
    (h : (askExtension o (Session.start l)).Ends log (.ok s)) :
    (∀ e ∈ log, Concerns ["Select a file extension"] e) ∧ extensionGiven l log ∈ l.extensions ∧
      (∃ revision, s = Session.fresh l (extensionGiven l log) revision) ∧
      (choiceIn log "Select a file extension").isSome =
        (!o.yes && decide (l.extensions.length ≠ 1)) := by
  have hl : (Session.start l).language = l := rfl
  simp only [askExtension, hl] at h
  unfold extensionGiven
  split at h
  · rename_i hspared
    obtain ⟨rfl, rfl⟩ := (Run.ends_pure_iff _ s log).mp h
    refine ⟨by simp, l.extension_mem, ⟨0, rfl⟩, ?_⟩
    show false = _
    obtain hone | hyes := hspared
    · simp [hone]
    · simp [hyes]
  · rename_i hspared
    obtain ⟨hone, hyes⟩ := not_or.mp hspared
    obtain ⟨i, -, rest, hrest, rfl⟩ := (Run.ends_answer_bind_iff _ _ log s).mp h
    obtain ⟨hset, rfl⟩ := (Run.ends_ofFault_iff _ s rest).mp hrest
    have hi : i.val < l.extensions.length := Nat.lt_of_lt_of_eq i.isLt (List.length_map _)
    have hmem : l.extensions[i.val] ∈ l.extensions := List.getElem_mem hi
    simp only [Session.setExtension, hl, List.getElem?_eq_getElem hi, Option.getD_some,
      l.resolveExtension_of_mem _ hmem, Except.ok.injEq] at hset
    have hchosen : choiceIn [.answered (.choice "Select a file extension"
        ((Session.start l).language.extensions.map ("." ++ ·))) i] "Select a file extension" =
          some i.val := rfl
    rw [hchosen, Option.bind_some, List.getElem?_eq_getElem hi, Option.getD_some]
    refine ⟨by simp [Concerns], hmem, ⟨_, hset.symm⟩, ?_⟩
    simp [hone, hyes]

theorem ends_askFilePattern (o : PromptOptions) (s t : Session) (log : List Happening)
    (h : (askFilePattern o s).Ends log (.ok t)) :
    (∀ e ∈ log, Concerns ["File pattern"] e) ∧
      t = s.setFilePattern ((textIn log "File pattern").getD s.filePattern) ∧
      (textIn log "File pattern").isSome = !o.yes := by
  unfold askFilePattern at h
  split at h
  · rename_i hyes
    obtain ⟨rest, hrest, rfl⟩ := (Run.ends_tell_bind_iff _ _ log t).mp h
    obtain ⟨rfl, rfl⟩ := (Run.ends_pure_iff s t rest).mp hrest
    simp [Concerns, textIn, Happening.text?, Session.setFilePattern, hyes]
  · rename_i hno
    obtain ⟨pattern, -, rest, hrest, rfl⟩ := (Run.ends_entry_bind_iff _ _ log t).mp h
    obtain ⟨rfl, rfl⟩ := (Run.ends_pure_iff _ t rest).mp hrest
    rw [textIn_answered, if_pos rfl]
    exact ⟨by simp [Concerns], rfl, by simp [hno]⟩

theorem problemOf_eq_none_iff {α : Type} (x : Except Fault α) :
    problemOf x = none ↔ ∃ a, x = .ok a := by
  cases x <;> simp [problemOf]

theorem ends_askVersions (o : PromptOptions) (s t : Session) (log : List Happening)
    (hruntime : s.runtimeVersion = "") (hdependency : s.dependencyVersion = "")
    (h : (askVersions o s).Ends log (.ok t)) :
    (∀ e ∈ log, Concerns [(runtimeEntry s.language).title, (dependencyEntry s.language).title] e) ∧
      t = { s with
        runtimeVersion := (textIn log (runtimeEntry s.language).title).getD ""
        dependencyVersion := (textIn log (dependencyEntry s.language).title).getD "" } ∧
      (∃ q, Requirement.ofRuntime s.language t.runtimeVersion = .ok q) ∧
      (∃ q, Requirement.ofDependency t.dependencyVersion = .ok q) ∧
      (textIn log (runtimeEntry s.language).title).isSome = !o.yes ∧
      (textIn log (dependencyEntry s.language).title).isSome = !o.yes := by
  unfold askVersions at h
  split at h
  · rename_i hyes
    obtain ⟨rfl, rfl⟩ := (Run.ends_pure_iff s t log).mp h
    obtain ⟨language, extension, pattern, runtime, dependency, examples, body, revision⟩ := t
    dsimp only at hruntime hdependency
    subst hruntime hdependency
    rw [hyes]
    exact ⟨by simp, rfl, ⟨none, rfl⟩, ⟨none, rfl⟩, rfl, rfl⟩
  · rename_i hno
    obtain ⟨runtime, hr, _, h₁, rfl⟩ := (Run.ends_entry_bind_iff _ _ log t).mp h
    obtain ⟨dependency, hd, _, h₂, rfl⟩ := (Run.ends_entry_bind_iff _ _ _ t).mp h₁
    obtain ⟨rfl, rfl⟩ := (Run.ends_pure_iff _ t _).mp h₂
    have htitles : (runtimeEntry s.language).title ≠ (dependencyEntry s.language).title := by
      cases s.language <;> decide
    rw [textIn_answered, if_pos rfl, textIn_answered, if_neg htitles, textIn_answered, if_pos rfl,
      Bool.eq_false_iff.mpr hno]
    refine ⟨by simp [Concerns], rfl, ?_, ?_, rfl, rfl⟩
    · exact (problemOf_eq_none_iff _).mp hr.2
    · exact (problemOf_eq_none_iff _).mp hd.2

/-- The titles of the questions before the body. -/
def fieldTitles (l : Language) : List String :=
  ["Select a language", "Select a file extension", "File pattern", (runtimeEntry l).title,
    (dependencyEntry l).title]

/-- What is known of a session and its log before the body is asked for: the fields are those that
were answered, and nothing was read or sent. -/
structure FieldsGiven (o : PromptOptions) (log : List Happening) (s : Session) : Prop where
  language : languageGiven o log = some s.language
  extension : s.extension = extensionGiven s.language log
  extension_mem : s.extension ∈ s.language.extensions
  filePattern :
    s.filePattern = (textIn log "File pattern").getD (Language.defaultPattern s.extension)
  runtimeVersion : s.runtimeVersion = (textIn log (runtimeEntry s.language).title).getD ""
  dependencyVersion : s.dependencyVersion = (textIn log (dependencyEntry s.language).title).getD ""
  runtime_reads : ∃ q, Requirement.ofRuntime s.language s.runtimeVersion = .ok q
  dependency_reads : ∃ q, Requirement.ofDependency s.dependencyVersion = .ok q
  asked : FieldsAsked o s.language log
  concerns : ∀ e ∈ log, Concerns (fieldTitles s.language) e
  examples : s.examples = Examples.initial
  body : s.body = ""

theorem Concerns.mono {titles more : List String} (hsub : titles ⊆ more) {e : Happening}
    (h : Concerns titles e) : Concerns more e := by
  cases e with
  | answered q a =>
    cases q with
    | choice title items => exact hsub h
    | entry e => exact hsub h
    | confirmation title initial => exact h
  | _ => exact h

theorem ends_askFields (o : PromptOptions) (s : Session) (log : List Happening)
    (h : (askFields o).Ends log (.ok s)) : FieldsGiven o log s := by
  simp only [askFields, Run.ends_bind_iff] at h
  obtain ⟨l, log₁, _, h₁, ⟨s₂, log₂, _, h₂, ⟨s₃, log₃, log₄, h₃, h₄, rfl⟩, rfl⟩, rfl⟩ := h
  obtain ⟨hc₁, hlanguage, hasked₁⟩ := ends_askLanguage o l log₁ h₁
  obtain ⟨hc₂, hmem, ⟨revision, rfl⟩, hasked₂⟩ := ends_askExtension o l s₂ log₂ h₂
  obtain ⟨hc₃, rfl, hasked₃⟩ := ends_askFilePattern o _ s₃ log₃ h₃
  obtain ⟨hc₄, rfl, hruntime, hdependency, hasked₄, hasked₅⟩ :=
    ends_askVersions o _ s log₄ rfl rfl h₄
  replace hc₄ : ∀ e ∈ log₄, Concerns [(runtimeEntry l).title, (dependencyEntry l).title] e := hc₄
  have htitles : ∀ title ∈ ["Select a language", "Select a file extension", "File pattern"],
      title ∉ [(runtimeEntry l).title, (dependencyEntry l).title] := by cases l <;> decide
  have hversions : ∀ title ∈ [(runtimeEntry l).title, (dependencyEntry l).title],
      title ∉ ["Select a language"] ∧ title ∉ ["Select a file extension"] ∧
        title ∉ ["File pattern"] := by cases l <;> decide
  -- each title is asked in one part only, so it is looked up in the whole log as in that part
  have look₁ := (lookups_of_concerns hc₁).1
  have look₂ := (lookups_of_concerns hc₂).1
  have look₃ := (lookups_of_concerns hc₃).1
  have look₄ := fun title ht => (lookups_of_concerns hc₄).1 title (htitles title ht)
  have hchosen : choiceIn (log₁ ++ (log₂ ++ (log₃ ++ log₄))) "Select a language" =
      choiceIn log₁ "Select a language" := by
    have h₂ := (look₂ "Select a language" (by decide)).1
    have h₃ := (look₃ "Select a language" (by decide)).1
    have h₄ := (look₄ "Select a language" (by decide)).1
    simp only [choiceIn_append, h₂, h₃, h₄, Option.or_none]
  have hextension : choiceIn (log₁ ++ (log₂ ++ (log₃ ++ log₄))) "Select a file extension" =
      choiceIn log₂ "Select a file extension" := by
    have h₁ := (look₁ "Select a file extension" (by decide)).1
    have h₃ := (look₃ "Select a file extension" (by decide)).1
    have h₄ := (look₄ "Select a file extension" (by decide)).1
    simp only [choiceIn_append, h₁, h₃, h₄, Option.or_none, Option.none_or]
  have hpattern : textIn (log₁ ++ (log₂ ++ (log₃ ++ log₄))) "File pattern" =
      textIn log₃ "File pattern" := by
    have h₁ := (look₁ "File pattern" (by decide)).2
    have h₂ := (look₂ "File pattern" (by decide)).2
    have h₄ := (look₄ "File pattern" (by decide)).2
    simp only [textIn_append, h₁, h₂, h₄, Option.or_none, Option.none_or]
  have hversion : ∀ title ∈ [(runtimeEntry l).title, (dependencyEntry l).title],
      textIn (log₁ ++ (log₂ ++ (log₃ ++ log₄))) title = textIn log₄ title := by
    intro title ht
    obtain ⟨ht₁, ht₂, ht₃⟩ := hversions title ht
    simp only [textIn_append, (look₁ _ ht₁).2, (look₂ _ ht₂).2, (look₃ _ ht₃).2, Option.none_or]
  have hgiven : extensionGiven l (log₁ ++ (log₂ ++ (log₃ ++ log₄))) = extensionGiven l log₂ := by
    rw [extensionGiven, hextension, extensionGiven]
  have hruntimeGiven := hversion (runtimeEntry l).title (by simp)
  have hdependencyGiven := hversion (dependencyEntry l).title (by simp)
  constructor
  · unfold languageGiven at hlanguage ⊢
    rw [hchosen]
    exact hlanguage
  · exact hgiven.symm
  · exact hmem
  · rw [hpattern]
    rfl
  · exact congrArg (Option.getD · "") hruntimeGiven.symm
  · exact congrArg (Option.getD · "") hdependencyGiven.symm
  · exact hruntime
  · exact hdependency
  · exact ⟨hchosen ▸ hasked₁, hextension ▸ hasked₂, hpattern ▸ hasked₃, hruntimeGiven ▸ hasked₄,
      hdependencyGiven ▸ hasked₅⟩
  · intro e he
    simp only [List.mem_append] at he
    obtain he | he | he | he := he
    · exact (hc₁ e he).mono (by simp [fieldTitles])
    · exact (hc₂ e he).mono (by simp [fieldTitles])
    · exact (hc₃ e he).mono (by simp [fieldTitles])
    · exact (hc₄ e he).mono (List.subset_append_right
        ["Select a language", "Select a file extension", "File pattern"] _)
  · rfl
  · rfl

end Cli
end ScriptPress
