import ScriptPress.Requirement.Advice

/-!
# The grammar of gem requirements

A gem requirement is a series of parts with commas between. A part is a comparison, which may be
left out, then blanks, then a version. Only the first operator of a list is taken off a part, and no
other is tried. Main statement: this accepts the parts that have some reading by the grammar, as a
part has one reading at most.
-/
namespace ScriptPress.Version

open Text (isBlank AllBlank IsSeries)

/-! ### Versions -/

/-- Segments of ASCII letters and digits with dots between, a digit first. -/
def IsGemVersion (v : List Char) : Prop :=
  (∃ c rest, v = c :: rest ∧ c.isDigit = true) ∧
    IsSeries '.' (fun segment => segment ≠ [] ∧ ∀ c ∈ segment, c.isAlphanum = true) v

theorem isGemSegment_iff (s : List Char) :
    isGemSegment s = true ↔ s ≠ [] ∧ ∀ c ∈ s, c.isAlphanum = true := by
  unfold isGemSegment
  rw [Bool.and_eq_true, List.all_eq_true]
  cases s with
  | nil => simp
  | cons c s => simp

theorem isGemVersion_iff (v : List Char) : isGemVersion v = true ↔ IsGemVersion v := by
  unfold isGemVersion IsGemVersion
  rw [Bool.and_eq_true, List.all_eq_true, Text.isSeries_iff]
  simp only [isGemSegment_iff]
  cases v with
  | nil => simp
  | cons c v => simp

theorem not_blank_of_isAlphanum {c : Char} (h : c.isAlphanum = true) : isBlank c = false := by
  unfold Char.isAlphanum Char.isAlpha Char.isUpper Char.isLower Char.isDigit at h
  simp only [Bool.or_eq_true, Bool.and_eq_true, decide_eq_true_eq, ge_iff_le,
    UInt32.le_iff_toNat_le] at h
  change ((65 ≤ c.toNat ∧ c.toNat ≤ 90) ∨ (97 ≤ c.toNat ∧ c.toNat ≤ 122)) ∨
    (48 ≤ c.toNat ∧ c.toNat ≤ 57) at h
  unfold isBlank
  simp
  omega

theorem IsGemVersion.head {v : List Char} (h : IsGemVersion v) (c : Char)
    (hc : v.head? = some c) : isBlank c = false := by
  obtain ⟨⟨d, rest, rfl, hd⟩, -⟩ := h
  obtain rfl := Option.some.inj hc
  exact not_blank_of_isAlphanum (by simp [Char.isAlphanum, hd])

theorem IsGemVersion.last {v : List Char} (h : IsGemVersion v) (c : Char)
    (hc : v.getLast? = some c) : isBlank c = false := by
  obtain ⟨-, pieces, hne, rfl, hpieces⟩ := h
  have hmem := List.mem_of_getLast? hc
  rcases Text.mem_joinWith _ pieces c hmem with hdot | ⟨piece, hpiece, hin⟩
  · obtain rfl := List.mem_singleton.mp hdot
    rfl
  · exact not_blank_of_isAlphanum ((hpieces piece hpiece).2.2 c hin)

theorem isGemVersion_trim_iff (rest : List Char) :
    isGemVersion (Text.trim rest) = true ↔
      ∃ before v after, rest = before ++ v ++ after ∧ AllBlank before ∧ IsGemVersion v ∧
        AllBlank after := by
  rw [isGemVersion_iff]
  constructor
  · intro h
    obtain ⟨before, after, hrest, hbefore, hafter⟩ := Text.exists_append_trim rest
    exact ⟨before, Text.trim rest, after, hrest, hbefore, h, hafter⟩
  · rintro ⟨before, v, after, rfl, hbefore, hv, hafter⟩
    rw [Text.trim_between before v after hbefore hafter hv.head hv.last]
    exact hv

/-! ### Operators -/

def gemComparisons : List String := ["", "~>", ">=", "<=", "!=", "=", ">", "<"]

def isComparisonSign (c : Char) : Bool :=
  c == '~' || c == '>' || c == '<' || c == '!' || c == '='

/-- The part starts with a comparison, and that is what is taken off. -/
theorem exists_comparison (part : List Char) :
    ∃ op ∈ gemComparisons, part = op.toList ++ withoutGemOperator part := by
  unfold withoutGemOperator
  cases hfind : gemOperators.findSome? fun op => after? op part with
  | none => exact ⟨"", List.mem_cons_self, rfl⟩
  | some rest =>
    obtain ⟨op, hop, hafter⟩ := List.exists_of_findSome?_eq_some hfind
    obtain ⟨name, hname, rfl⟩ := List.mem_map.mp hop
    exact ⟨name, List.mem_cons_of_mem _ hname, (after?_eq_some_iff _ _ _).mp hafter⟩

/-- What does not go on with a sign is what is left behind a comparison: a longer operator cannot
stand there, and a shorter one comes later in the list. -/
theorem withoutGemOperator_append {op : String} (hop : op ∈ gemComparisons) (rest : List Char)
    (hrest : ∀ c, rest.head? = some c → isComparisonSign c = false) :
    withoutGemOperator (op.toList ++ rest) = rest := by
  cases rest with
  | nil =>
    simp only [gemComparisons, List.mem_cons, List.not_mem_nil, or_false] at hop
    rcases hop with rfl | rfl | rfl | rfl | rfl | rfl | rfl | rfl <;> rfl
  | cons c rest =>
    have hc := hrest c rfl
    simp only [isComparisonSign, Bool.or_eq_false_iff, beq_eq_false_iff_ne] at hc
    simp only [gemComparisons, List.mem_cons, List.not_mem_nil, or_false] at hop
    rcases hop with rfl | rfl | rfl | rfl | rfl | rfl | rfl | rfl <;>
      simp [withoutGemOperator, gemOperators, after?, hc, Ne.symm]

theorem not_sign_of_version {rest : List Char} (h : isGemVersion (Text.trim rest) = true) (c : Char)
    (hc : rest.head? = some c) : isComparisonSign c = false := by
  have hplain : isBlank c = true ∨ c.isDigit = true := by
    obtain ⟨before, v, after, rfl, hbefore, ⟨⟨d, more, rfl, hd⟩, -⟩, -⟩ :=
      (isGemVersion_trim_iff rest).mp h
    cases before with
    | nil =>
      obtain rfl := Option.some.inj hc
      exact Or.inr hd
    | cons b before =>
      obtain rfl := Option.some.inj hc
      exact Or.inl (hbefore b List.mem_cons_self)
  rw [← Bool.not_eq_true]
  intro hsign
  simp only [isComparisonSign, Bool.or_eq_true, beq_iff_eq] at hsign
  rcases hsign with (((rfl | rfl) | rfl) | rfl) | rfl <;> revert hplain <;> decide

/-! ### Parts -/

def IsGemPart (part : List Char) : Prop :=
  ∃ op ∈ gemComparisons, ∃ blanks v,
    part = op.toList ++ blanks ++ v ∧ AllBlank blanks ∧ IsGemVersion v

/-- To take off the first operator that fits accepts what some comparison accepts. -/
theorem isGemPart_iff_exists (part : List Char) :
    isGemPart part = true ↔ ∃ op ∈ gemComparisons, ∃ rest,
      part = op.toList ++ rest ∧ isGemVersion (Text.trim rest) = true := by
  constructor
  · intro h
    obtain ⟨op, hop, hpart⟩ := exists_comparison part
    exact ⟨op, hop, withoutGemOperator part, hpart, h⟩
  · rintro ⟨op, hop, rest, rfl, hversion⟩
    have hrest := withoutGemOperator_append hop rest (not_sign_of_version hversion)
    rw [isGemPart, hrest]
    exact hversion

theorem comparison_unique {op op' : String} {rest rest' : List Char} (hop : op ∈ gemComparisons)
    (hop' : op' ∈ gemComparisons) (heq : op.toList ++ rest = op'.toList ++ rest')
    (h : isGemVersion (Text.trim rest) = true) (h' : isGemVersion (Text.trim rest') = true) :
    op = op' ∧ rest = rest' := by
  have hrest := withoutGemOperator_append hop rest (not_sign_of_version h)
  have hrest' := withoutGemOperator_append hop' rest' (not_sign_of_version h')
  rw [heq, hrest'] at hrest
  subst hrest
  exact ⟨String.toList_inj.mp (List.append_cancel_right heq), rfl⟩

theorem isGemPart_trim_iff (part : List Char) :
    isGemPart (Text.trim part) = true ↔ IsGemPart (Text.trim part) := by
  rw [isGemPart_iff_exists]
  constructor
  · rintro ⟨op, hop, rest, hpart, hversion⟩
    obtain ⟨blanks, v, after, rfl, hblanks, hv, hafter⟩ := (isGemVersion_trim_iff rest).mp hversion
    have hnone : after = [] := by
      cases hlast : after.getLast? with
      | none => exact List.getLast?_eq_none_iff.mp hlast
      | some c =>
        have hend : (Text.trim part).getLast? = some c := by
          rw [hpart, ← List.append_assoc, List.getLast?_append, hlast]
          rfl
        have hblank := hafter c (List.mem_of_getLast? hlast)
        rw [Text.not_blank_of_getLast?_trim part c hend] at hblank
        cases hblank
    rw [hnone, List.append_nil, ← List.append_assoc] at hpart
    exact ⟨op, hop, blanks, v, hpart, hblanks, hv⟩
  · rintro ⟨op, hop, blanks, v, hpart, hblanks, hv⟩
    refine ⟨op, hop, blanks ++ v, ?_, ?_⟩
    · rw [hpart, List.append_assoc]
    · exact (isGemVersion_trim_iff _).mpr
        ⟨blanks, v, [], (List.append_nil _).symm, hblanks, hv, List.forall_mem_nil _⟩

/-- There is no advice on a Ruby dependency exactly if its specification is a gem requirement. A part
of one can be tried with every comparison or with the first that fits alone; no part has readings
with two. -/
theorem dependencyAdvice_ruby_eq_none_iff (r : Requirement) :
    (r.dependencyAdvice .ruby = none ↔
      IsSeries ',' (fun part => IsGemPart (Text.trim part)) r.spec.toList) ∧
    (∀ part, isGemPart part = true ↔ ∃ op ∈ gemComparisons, ∃ rest,
      part = op.toList ++ rest ∧ isGemVersion (Text.trim rest) = true) ∧
    ∀ op ∈ gemComparisons, ∀ op' ∈ gemComparisons, ∀ rest rest' : List Char,
      op.toList ++ rest = op'.toList ++ rest' → isGemVersion (Text.trim rest) = true →
      isGemVersion (Text.trim rest') = true → op = op' ∧ rest = rest' := by
  refine ⟨?_, isGemPart_iff_exists, fun op hop op' hop' rest rest' heq h h' =>
    comparison_unique hop hop' heq h h'⟩
  have hadvice : r.dependencyAdvice .ruby = none ↔ isGemRequirement r.spec.toList = true := by
    by_cases h : isGemRequirement r.spec.toList = true <;>
      simp [Requirement.dependencyAdvice, Requirement.isUsual, h]
  rw [hadvice, isGemRequirement, List.all_eq_true, Text.isSeries_iff]
  simp only [isGemPart_trim_iff]

/-- Any blank can stand behind an operator, and no part can be empty. -/
example : Requirement.dependencyAdvice .ruby ⟨"rails", ">=\u30006.1.rc1 ,<8"⟩ = none ∧
    Requirement.dependencyAdvice .ruby ⟨"rails", ">= 6.1,"⟩ =
      some "'>= 6.1,' does not look like a version requirement for rails" := by
  decide +kernel

end ScriptPress.Version
