import ScriptPress.Proofs.Language.Spelling
import ScriptPress.Proofs.Request.Assembly

/-!
# The normal form of a request

A script shows what each field of its request was resolved to. Main statement: these values, written
back as a request with the same body, are resolved to themselves and give the script again, text
included.
-/
namespace ScriptPress

/-! ### The single fields -/

namespace Requirement

def written (q : Requirement) : String := q.subject ++ " " ++ q.spec

theorem divides_written {q : Requirement} (hs : IsWord q.subject.toList)
    (hv : IsSpec q.spec.toList) : Divides q.written.toList q.subject.toList q.spec.toList where
  isWord := hs
  isSpec := hv
  layout := by
    refine ⟨[], [' '], [], ?_, List.forall_mem_nil _, List.forall_mem_singleton.mpr rfl,
      List.forall_mem_nil _, List.cons_ne_nil ' ' []⟩
    simp [written]

theorem ofDependency_written {raw : String} {dependency : Option Requirement}
    (h : ofDependency raw = .ok dependency) :
    ofDependency ((dependency.map written).getD "") = .ok dependency := by
  cases dependency with
  | none => rfl
  | some q =>
    obtain ⟨hdivides, hline⟩ := (ofDependency_eq_some_iff raw q).mp h
    exact (ofDependency_eq_some_iff q.written q).mpr
      ⟨divides_written hdivides.isWord hdivides.isSpec, hline⟩

theorem ofRuntime_spec {l : Language} {raw : String} {runtime : Option Requirement}
    (h : ofRuntime l raw = .ok runtime) :
    ofRuntime l ((runtime.map spec).getD "") = .ok runtime := by
  cases runtime with
  | none => rfl
  | some q =>
    obtain ⟨hword, rfl⟩ := (ofRuntime_eq_some_iff l raw q).mp h
    refine (ofRuntime_eq_some_iff l (Text.trimmed raw) _).mpr ⟨?_, ?_⟩
    · rw [Text.toList_trimmed, Text.trim_trim]
      exact hword
    · rw [Text.trimmed_trimmed]

end Requirement

namespace Request

theorem patternOr_patternOr {l : Language} {e : String} (he : e ∈ l.extensions)
    (given : Option String) : patternOr e (some (patternOr e given)) = patternOr e given := by
  have hdefault : patternOr e (some (Language.defaultPattern e)) = Language.defaultPattern e :=
    patternOr_defaultPattern l e he
  cases given with
  | none => exact hdefault
  | some text =>
    cases htrim : Text.trim text.toList with
    | nil =>
      have hblank : patternOr e (some text) = Language.defaultPattern e := by
        rw [patternOr, htrim]
      rw [hblank, hdefault]
    | cons c s =>
      have hgiven : patternOr e (some text) = String.ofList (c :: s) := by
        rw [patternOr, htrim]
      rw [hgiven, patternOr, String.toList_ofList, ← htrim, Text.trim_trim, htrim]

end Request

/-! ### Scripts -/

/-- The request that the resolved fields of a script make up, with a body. -/
def Snippet.rebuilt (s : Snippet) (body : String) : Request where
  language := s.language.id
  extension := some s.extension
  filePattern := some s.filePattern
  runtimeVersion := (s.runtime.map Requirement.spec).getD ""
  dependencyVersion := (s.dependency.map Requirement.written).getD ""
  body := body

/-- The fields that a request is resolved to are resolved to themselves: the request rebuilt from
them gives the same script, which is laid out from nothing else. -/
theorem Request.assemble_rebuilt (r : Request) (s : Snippet) (h : r.assemble = .ok s) :
    (s.rebuilt r.body).assemble = .ok s ∧
      s.text = Script.combine s.language.family
        ⟨s.filePattern, s.runtime, s.dependency, r.body⟩ := by
  obtain ⟨-, he, hp, hc, hr, hd, htext⟩ := (assemble_eq_ok_iff r s).mp h
  refine ⟨?_, htext⟩
  have hextension := Language.mem_of_resolveExtension s.language _ _ he
  have hpattern : s.filePattern = patternOr s.extension (some s.filePattern) := by
    rw [hp, patternOr_patternOr hextension]
  exact (assemble_eq_ok_iff (s.rebuilt r.body) s).mpr
    ⟨Language.resolve_id s.language, Language.resolveExtension_of_mem s.language _ hextension,
      hpattern, hc, Requirement.ofRuntime_spec hr, Requirement.ofDependency_written hd, htext⟩

theorem Request.assemble_rebuilt_blanks :
    let r : Request := ⟨" JS ", some "\t..JSX", some " \u3000", "\u00a0 18 ",
      "\u0085@a/b \t\u2003 ^4 ||  5 \n", "x"⟩
    let parts : Script.Parts := ⟨Language.defaultPattern "jsx", some ⟨"node", "18"⟩,
      some ⟨"@a/b", "^4 ||  5"⟩, "x"⟩
    let s : Snippet := ⟨.javaScript, "jsx", parts.filePattern, parts.runtime, parts.dependency,
      Script.combine .ecmaScript parts⟩
    r.assemble = .ok s ∧ (s.rebuilt "x").assemble = .ok s := by
  intro r parts s
  have hl : Language.resolve " JS " = .ok .javaScript := by rfl
  have he : Language.javaScript.resolveExtension (some "\t..JSX") = .ok "jsx" := by rfl
  have hp : Language.defaultPattern "jsx" = patternOr "jsx" (some " \u3000") := by rfl
  have hr : Requirement.ofRuntime .javaScript "\u00a0 18 " = .ok (some ⟨"node", "18"⟩) := by rfl
  have hd : Requirement.ofDependency "\u0085@a/b \t\u2003 ^4 ||  5 \n" =
      .ok (some ⟨"@a/b", "^4 ||  5"⟩) := by rfl
  have h : r.assemble = .ok s :=
    (assemble_eq_ok_iff r s).mpr ⟨hl, he, hp, by decide, hr, hd, rfl⟩
  exact ⟨h, (assemble_rebuilt r s h).1⟩

end ScriptPress
