import Mathlib.Data.List.Basic
import Mathlib.Data.List.TakeWhile
import ScriptPress.Requirement
import ScriptPress.Text.Split

/-!
# The grammar of the version fields

What the two version fields of a request may hold, said without the functions that read them: a
dependency field holds blanks only, a word alone, or a name and a specification with blanks between;
a runtime field holds blanks only or one word. Main statements: each field is read exactly as its
grammar says, with its faults.
-/
namespace ScriptPress.Requirement

open Text (isBlank AllBlank)

/-- A word: one character or more, and no blank among them. -/
def IsWord (s : List Char) : Prop := s ≠ [] ∧ ∀ c ∈ s, isBlank c = false

/-- A specification: one character or more, with no blank at either end. -/
structure IsSpec (s : List Char) : Prop where
  ne_nil : s ≠ []
  head : ∀ c, s.head? = some c → isBlank c = false
  last : ∀ c, s.getLast? = some c → isBlank c = false

/-- A dependency field that divides into a name and a specification. -/
structure Divides (raw name spec : List Char) : Prop where
  isWord : IsWord name
  isSpec : IsSpec spec
  layout : ∃ before between after,
    raw = before ++ (name ++ between ++ spec) ++ after ∧
      AllBlank before ∧ AllBlank between ∧ AllBlank after ∧ between ≠ []

theorem IsWord.isSpec {s : List Char} (h : IsWord s) : IsSpec s where
  ne_nil := h.1
  head := fun c hc => h.2 c (List.mem_of_mem_head? hc)
  last := fun c hc => h.2 c (List.mem_of_getLast? hc)

theorem isSpec_trim {s : List Char} (h : Text.trim s ≠ []) : IsSpec (Text.trim s) where
  ne_nil := h
  head := Text.not_blank_of_head?_trim s
  last := Text.not_blank_of_getLast?_trim s

/-! ### A name and the rest -/

theorem IsWord.append {name rest : List Char} (hn : IsWord name) (hr : rest ≠ [])
    (hl : ∀ c, rest.getLast? = some c → isBlank c = false) : IsSpec (name ++ rest) where
  ne_nil := by
    intro h
    exact hn.1 (List.append_eq_nil_iff.mp h).1
  head := by
    intro c hc
    cases hname : name with
    | nil => exact absurd hname hn.1
    | cons d s =>
      rw [hname] at hc
      exact hn.isSpec.head c (by rw [hname]; exact hc)
  last := by
    intro c hc
    rw [List.getLast?_append_of_ne_nil name hr] at hc
    exact hl c hc

theorem Divides.trim {raw name spec : List Char} (h : Divides raw name spec) :
    ∃ between, Text.trim raw = name ++ (between ++ spec) ∧ AllBlank between ∧ between ≠ [] := by
  obtain ⟨before, between, after, hraw, hbefore, hbetween, hafter, hne⟩ := h.layout
  have hlast := List.getLast?_append_of_ne_nil between h.isSpec.ne_nil
  have hrest : between ++ spec ≠ [] := fun hnil => hne (List.append_eq_nil_iff.mp hnil).1
  have hwhole : IsSpec (name ++ (between ++ spec)) := by
    apply h.isWord.append hrest
    rw [hlast]
    exact h.isSpec.last
  refine ⟨between, ?_, hbetween, hne⟩
  rw [hraw, List.append_assoc name]
  exact Text.trim_between before _ after hbefore hafter hwhole.head hwhole.last

/-- The name ends at the first blank. -/
theorem cut_word {name : List Char} (rest : List Char) (hn : IsWord name)
    (hr : ∀ c, rest.head? = some c → isBlank c = true) :
    (name ++ rest).takeWhile (!isBlank ·) = name ∧ (name ++ rest).dropWhile (!isBlank ·) = rest := by
  have hword : ∀ c ∈ name, (!isBlank c) = true := by
    intro c hc
    rw [hn.2 c hc, Bool.not_false]
  have hstops : Text.Stops (!isBlank ·) rest := by
    intro c hc
    simp [hr c hc]
  exact Text.cut_append hword hstops

theorem Divides.cut {raw name spec : List Char} (h : Divides raw name spec) :
    (Text.trim raw).takeWhile (!isBlank ·) = name ∧
      Text.trimStart ((Text.trim raw).dropWhile (!isBlank ·)) = spec := by
  obtain ⟨between, htrim, hbetween, hne⟩ := h.trim
  have hhead : ∀ c, (between ++ spec).head? = some c → isBlank c = true := by
    intro c hc
    rw [List.head?_append, List.head?_eq_some_head hne, Option.some_or] at hc
    rw [← Option.some.inj hc]
    exact hbetween _ (List.head_mem hne)
  obtain ⟨hname, hrest⟩ := cut_word (between ++ spec) h.isWord hhead
  rw [htrim, hname, hrest, Text.trimStart_blank_append hbetween]
  exact ⟨rfl, Text.trimStart_of_head? spec h.isSpec.head⟩

theorem not_blank_of_mem_takeWhile {s : List Char} {c : Char}
    (h : c ∈ s.takeWhile (!isBlank ·)) : isBlank c = false := by
  have hc := Text.forall_mem_takeWhile (!isBlank ·) s c h
  rwa [Bool.not_eq_true'] at hc

theorem isSpec_trimStart {s : List Char} (hne : s ≠ [])
    (hl : ∀ c, s.getLast? = some c → isBlank c = false) : IsSpec (Text.trimStart s) := by
  have hcut : s.takeWhile isBlank ++ Text.trimStart s = s := List.takeWhile_append_dropWhile
  have hspec : Text.trimStart s ≠ [] := by
    intro hnil
    have hall : AllBlank s := List.dropWhile_eq_nil_iff.mp hnil
    have hblank := hall (s.getLast hne) (List.getLast_mem hne)
    rw [hl _ (List.getLast?_eq_some_getLast hne)] at hblank
    cases hblank
  refine ⟨hspec, Text.not_blank_of_head?_trimStart s, ?_⟩
  intro c hc
  apply hl
  rw [← hcut, List.getLast?_append_of_ne_nil _ hspec]
  exact hc

/-- A text without blanks at its ends is a word, or a word, blanks and such a text again. -/
theorem IsSpec.word_or_divides {s : List Char} (h : IsSpec s) :
    IsWord s ∨ ∃ name spec, Divides s name spec := by
  have hcut := List.takeWhile_append_dropWhile (p := (!isBlank ·)) (l := s)
  have hword : ∀ c ∈ s.takeWhile (!isBlank ·), isBlank c = false :=
    fun c hc => not_blank_of_mem_takeWhile hc
  cases hrest : s.dropWhile (!isBlank ·) with
  | nil =>
    rw [hrest, List.append_nil] at hcut
    rw [hcut] at hword
    exact Or.inl ⟨h.ne_nil, hword⟩
  | cons blank rest =>
    rw [hrest] at hcut
    have hblank : isBlank blank = true := by
      have hhead := List.head?_dropWhile_not (!isBlank ·) s
      rw [hrest] at hhead
      simpa using hhead
    have hname : s.takeWhile (!isBlank ·) ≠ [] := by
      intro hnil
      rw [hnil, List.nil_append] at hcut
      have hfalse := h.head blank (by rw [← hcut]; rfl)
      rw [hblank] at hfalse
      cases hfalse
    have hlast : ∀ c, (blank :: rest).getLast? = some c → isBlank c = false := by
      intro c hc
      apply h.last
      rw [← hcut, List.getLast?_append_of_ne_nil _ (List.cons_ne_nil blank rest)]
      exact hc
    have hspaces : (blank :: rest).takeWhile isBlank ++ Text.trimStart (blank :: rest) =
        blank :: rest := List.takeWhile_append_dropWhile
    refine Or.inr ⟨s.takeWhile (!isBlank ·), Text.trimStart (blank :: rest), ⟨hname, hword⟩,
      isSpec_trimStart (List.cons_ne_nil blank rest) hlast, [], (blank :: rest).takeWhile isBlank,
      [], ?_, List.forall_mem_nil _, Text.allBlank_takeWhile _, List.forall_mem_nil _, ?_⟩
    · rw [List.nil_append, List.append_nil, List.append_assoc, hspaces, hcut]
    · rw [List.takeWhile_cons_of_pos hblank]
      exact List.cons_ne_nil _ _

theorem Divides.between_blanks {before s after name spec : List Char} (h : Divides s name spec)
    (hb : AllBlank before) (ha : AllBlank after) : Divides (before ++ s ++ after) name spec := by
  obtain ⟨before', between, after', rfl, hbefore, hbetween, hafter, hne⟩ := h.layout
  refine ⟨h.isWord, h.isSpec, before ++ before', between, after' ++ after, ?_, hb.append hbefore,
    hbetween, hafter.append ha, hne⟩
  simp only [List.append_assoc]

/-- Every field is blank, one word with blanks around it, or divides. -/
theorem blank_or_word_or_divides (raw : List Char) :
    AllBlank raw ∨ IsWord (Text.trim raw) ∨ ∃ name spec, Divides raw name spec := by
  by_cases hnil : Text.trim raw = []
  · exact Or.inl ((Text.trim_eq_nil_iff raw).mp hnil)
  · right
    rcases (isSpec_trim hnil).word_or_divides with hword | ⟨name, spec, h⟩
    · exact Or.inl hword
    · right
      obtain ⟨before, after, hraw, hbefore, hafter⟩ := Text.exists_append_trim raw
      rw [hraw]
      exact ⟨name, spec, h.between_blanks hbefore hafter⟩

/-! ### Dependency fields -/

theorem ofDependency_of_blank {raw : String} (h : AllBlank raw.toList) :
    ofDependency raw = .ok none := by
  rw [ofDependency, (Text.trim_eq_nil_iff raw.toList).mpr h]

theorem ofDependency_of_word {raw : String} (h : IsWord (Text.trim raw.toList)) :
    ofDependency raw = .error (.malformed .dependencyVersion raw .nameAndVersion) := by
  have hcut := cut_word [] h (by simp)
  rw [List.append_nil] at hcut
  unfold ofDependency
  cases htrim : Text.trim raw.toList with
  | nil => exact absurd htrim h.1
  | cons c s =>
    rw [htrim] at hcut
    simp only [hcut.2]

theorem ofDependency_of_divides {raw : String} {name spec : List Char}
    (h : Divides raw.toList name spec) :
    ofDependency raw = (ensureSingleLine .dependencyVersion (String.ofList spec)).map
      fun _ => some ⟨String.ofList name, String.ofList spec⟩ := by
  obtain ⟨hname, hspec⟩ := h.cut
  unfold ofDependency
  cases htrim : Text.trim raw.toList with
  | nil =>
    rw [htrim] at hname
    exact absurd hname.symm h.isWord.1
  | cons c s =>
    rw [htrim] at hname hspec
    cases hrest : (c :: s).dropWhile (!isBlank ·) with
    | nil =>
      rw [hrest] at hspec
      exact absurd hspec.symm h.isSpec.ne_nil
    | cons blank rest =>
      rw [hrest] at hspec
      simp only [hname, hrest, hspec]
      cases ensureSingleLine .dependencyVersion (String.ofList spec) with
      | error fault => rfl
      | ok u => rfl

/-- The four ways in which a dependency field is read. -/
theorem ofDependency_cases (raw : String) :
    (AllBlank raw.toList ∧ ofDependency raw = .ok none) ∨
    (IsWord (Text.trim raw.toList) ∧
      ofDependency raw = .error (.malformed .dependencyVersion raw .nameAndVersion)) ∨
    (∃ q, Divides raw.toList q.subject.toList q.spec.toList ∧ Text.hasControl q.spec = false ∧
      ofDependency raw = .ok (some q)) ∨
    ∃ name spec, Divides raw.toList name spec ∧ (∃ c ∈ spec, Text.isControl c = true) ∧
      ofDependency raw = .error (.controlCharacter .dependencyVersion (String.ofList spec)) := by
  rcases blank_or_word_or_divides raw.toList with hblank | hword | ⟨name, spec, hdivides⟩
  · exact Or.inl ⟨hblank, ofDependency_of_blank hblank⟩
  · exact Or.inr (Or.inl ⟨hword, ofDependency_of_word hword⟩)
  · have hread := ofDependency_of_divides hdivides
    cases hcontrol : Text.hasControl (String.ofList spec) with
    | false =>
      rw [(ensureSingleLine_eq_ok_iff _ _).mpr hcontrol] at hread
      refine Or.inr (Or.inr (Or.inl ⟨⟨String.ofList name, String.ofList spec⟩, ?_, hcontrol, hread⟩))
      rw [String.toList_ofList, String.toList_ofList]
      exact hdivides
    | true =>
      rw [(ensureSingleLine_eq_error_iff _ _ _).mpr ⟨hcontrol, rfl⟩] at hread
      rw [Text.hasControl_iff, String.toList_ofList] at hcontrol
      exact Or.inr (Or.inr (Or.inr ⟨name, spec, hdivides, hcontrol, hread⟩))

theorem ofDependency_eq_none_iff (raw : String) :
    ofDependency raw = .ok none ↔ AllBlank raw.toList := by
  refine ⟨?_, ofDependency_of_blank⟩
  intro h
  rcases ofDependency_cases raw with
    ⟨hblank, -⟩ | ⟨-, hread⟩ | ⟨q, -, -, hread⟩ | ⟨name, spec, -, -, hread⟩
  · exact hblank
  · rw [hread] at h
    cases h
  · rw [hread] at h
    cases h
  · rw [hread] at h
    cases h

theorem ofDependency_eq_some_iff (raw : String) (q : Requirement) :
    ofDependency raw = .ok (some q) ↔
      Divides raw.toList q.subject.toList q.spec.toList ∧ Text.hasControl q.spec = false := by
  constructor
  · intro h
    rcases ofDependency_cases raw with
      ⟨-, hread⟩ | ⟨-, hread⟩ | ⟨q', hdivides, hline, hread⟩ | ⟨name, spec, -, -, hread⟩
    · rw [hread] at h
      cases h
    · rw [hread] at h
      cases h
    · rw [hread] at h
      cases h
      exact ⟨hdivides, hline⟩
    · rw [hread] at h
      cases h
  · rintro ⟨hdivides, hline⟩
    rw [ofDependency_of_divides hdivides, String.ofList_toList, String.ofList_toList,
      (ensureSingleLine_eq_ok_iff _ _).mpr hline]
    rfl

theorem ofDependency_eq_error_iff (raw : String) (fault : Fault) :
    ofDependency raw = .error fault ↔
      (IsWord (Text.trim raw.toList) ∧
        fault = .malformed .dependencyVersion raw .nameAndVersion) ∨
      ∃ name spec, Divides raw.toList name spec ∧ (∃ c ∈ spec, Text.isControl c = true) ∧
        fault = .controlCharacter .dependencyVersion (String.ofList spec) := by
  constructor
  · intro h
    rcases ofDependency_cases raw with
      ⟨-, hread⟩ | ⟨hword, hread⟩ | ⟨q, -, -, hread⟩ | ⟨name, spec, hdivides, hcontrol, hread⟩
    · rw [hread] at h
      cases h
    · rw [hread] at h
      exact Or.inl ⟨hword, (Except.error.inj h).symm⟩
    · rw [hread] at h
      cases h
    · rw [hread] at h
      exact Or.inr ⟨name, spec, hdivides, hcontrol, (Except.error.inj h).symm⟩
  · rintro (⟨hword, rfl⟩ | ⟨name, spec, hdivides, hcontrol, rfl⟩)
    · exact ofDependency_of_word hword
    · have hline : Text.hasControl (String.ofList spec) = true := by
        rw [Text.hasControl_iff, String.toList_ofList]
        exact hcontrol
      rw [ofDependency_of_divides hdivides,
        (ensureSingleLine_eq_error_iff _ _ _).mpr ⟨hline, rfl⟩]
      rfl

/-! ### Runtime fields -/

theorem ofRuntime_of_blank (l : Language) {raw : String} (h : AllBlank raw.toList) :
    ofRuntime l raw = .ok none := by
  rw [ofRuntime, (Text.trim_eq_nil_iff raw.toList).mpr h]
  rfl

theorem ofRuntime_of_word (l : Language) {raw : String} (h : IsWord (Text.trim raw.toList)) :
    ofRuntime l raw = .ok (some ⟨l.runtimeName, Text.trimmed raw⟩) := by
  have hempty : ¬(Text.trim raw.toList).isEmpty = true := by
    rw [List.isEmpty_iff]
    exact h.1
  have hblank : ¬(Text.trim raw.toList).any isBlank = true := by
    rw [Bool.not_eq_true, List.any_eq_false]
    intro c hc
    rw [h.2 c hc]
    exact Bool.false_ne_true
  rw [ofRuntime, if_neg hempty, if_neg hblank]
  rfl

theorem ofRuntime_of_gap (l : Language) {raw : String}
    (h : ∃ c ∈ Text.trim raw.toList, isBlank c = true) :
    ofRuntime l raw = .error (.malformed .runtimeVersion raw .singleVersion) := by
  obtain ⟨c, hc, hblank⟩ := h
  have hempty : ¬(Text.trim raw.toList).isEmpty = true := by
    rw [List.isEmpty_iff]
    exact List.ne_nil_of_mem hc
  rw [ofRuntime, if_neg hempty, if_pos (List.any_eq_true.mpr ⟨c, hc, hblank⟩)]

theorem blank_or_word_or_gap (raw : List Char) :
    AllBlank raw ∨ IsWord (Text.trim raw) ∨ ∃ c ∈ Text.trim raw, isBlank c = true := by
  by_cases hnil : Text.trim raw = []
  · exact Or.inl ((Text.trim_eq_nil_iff raw).mp hnil)
  · right
    by_cases hgap : ∃ c ∈ Text.trim raw, isBlank c = true
    · exact Or.inr hgap
    · left
      refine ⟨hnil, ?_⟩
      intro c hc
      exact Bool.eq_false_iff.mpr fun hblank => hgap ⟨c, hc, hblank⟩

theorem ofRuntime_eq_some_iff (l : Language) (raw : String) (q : Requirement) :
    ofRuntime l raw = .ok (some q) ↔
      IsWord (Text.trim raw.toList) ∧ q = ⟨l.runtimeName, Text.trimmed raw⟩ := by
  constructor
  · intro h
    rcases blank_or_word_or_gap raw.toList with hblank | hword | hgap
    · rw [ofRuntime_of_blank l hblank] at h
      cases h
    · rw [ofRuntime_of_word l hword] at h
      cases h
      exact ⟨hword, rfl⟩
    · rw [ofRuntime_of_gap l hgap] at h
      cases h
  · rintro ⟨hword, rfl⟩
    exact ofRuntime_of_word l hword

theorem ofRuntime_eq_error_iff (l : Language) (raw : String) (fault : Fault) :
    ofRuntime l raw = .error fault ↔
      (∃ c ∈ Text.trim raw.toList, isBlank c = true) ∧
        fault = .malformed .runtimeVersion raw .singleVersion := by
  constructor
  · intro h
    rcases blank_or_word_or_gap raw.toList with hblank | hword | hgap
    · rw [ofRuntime_of_blank l hblank] at h
      cases h
    · rw [ofRuntime_of_word l hword] at h
      cases h
    · rw [ofRuntime_of_gap l hgap] at h
      exact ⟨hgap, (Except.error.inj h).symm⟩
  · rintro ⟨hgap, rfl⟩
    exact ofRuntime_of_gap l hgap

end ScriptPress.Requirement
