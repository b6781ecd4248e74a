import ScriptPress.Request

/-!
# Resolved spellings

What the resolvers give is spelled so that they take it again: identifiers, extensions and default
patterns are read back as themselves. Main statements: an extension that is resolved is one of the
language's, and each of these resolves to itself.
-/
namespace ScriptPress

namespace Language

theorem resolve_id (l : Language) : resolve l.id = .ok l := by
  cases l <;> rfl

theorem mem_of_resolveExtension (l : Language) (requested : Option String) (e : String)
    (h : l.resolveExtension requested = .ok e) : e ∈ l.extensions := by
  cases requested with
  | none =>
    rw [resolveExtension, Except.ok.injEq] at h
    rw [← h]
    exact extension_mem l
  | some text =>
    rw [resolveExtension] at h
    cases hspelled : l.extension? text with
    | none => simp [hspelled] at h
    | some found =>
      simp only [hspelled, Except.ok.injEq] at h
      rw [← h]
      unfold extension? at hspelled
      split at hspelled
      · rw [← Option.some.inj hspelled]
        exact extension_mem l
      · exact List.mem_of_find?_eq_some hspelled

theorem resolveExtension_of_mem (l : Language) (e : String) (h : e ∈ l.extensions) :
    l.resolveExtension (some e) = .ok e := by
  have hall : ∀ e ∈ l.extensions, l.extension? e = some e := by cases l <;> decide
  rw [resolveExtension, hall e h]

theorem trim_defaultPattern (l : Language) (e : String) (h : e ∈ l.extensions) :
    Text.trim (defaultPattern e).toList = (defaultPattern e).toList := by
  have hall : ∀ e ∈ l.extensions,
      Text.trim (defaultPattern e).toList = (defaultPattern e).toList := by cases l <;> decide
  exact hall e h

end Language

namespace Request

theorem patternOr_defaultPattern (l : Language) (e : String) (h : e ∈ l.extensions) :
    patternOr e (some (Language.defaultPattern e)) = patternOr e none := by
  have hne : (Language.defaultPattern e).toList ≠ [] := by
    simp [Language.defaultPattern]
  have hnone : patternOr e none = Language.defaultPattern e := rfl
  rw [hnone]
  simp only [patternOr, Language.trim_defaultPattern l e h]
  cases hp : (Language.defaultPattern e).toList with
  | nil => exact absurd hp hne
  | cons c s =>
    show String.ofList (c :: s) = Language.defaultPattern e
    rw [← hp, String.ofList_toList]

end Request
end ScriptPress
