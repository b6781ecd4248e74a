import Mathlib.Data.List.Basic
import ScriptPress.Text.Ending
import ScriptPress.Text.Split

/-!
# Texts without the line breaks at their end

A text is in one way only a text that does not end in a line break, and line breaks. Main statement:
cutting off the line breaks at the end gives the former (`dropLineEnds_eq_iff`); so what is left is
the same for texts that differ in these line breaks alone (`dropLineEnds_inj`), and its last line
holds something.
-/
namespace ScriptPress.Text

/-- A text of line breaks only; the empty text is one. -/
def AllLineEnds (s : List Char) : Prop := ∀ c ∈ s, c = '\n' ∨ c = '\r'

/-- A text that ends in another character than a line break; the empty text ends in none. -/
def EndsInText (s : List Char) : Prop := s = [] ∨ ∃ c, s.getLast? = some c ∧ c ≠ '\n' ∧ c ≠ '\r'

theorem isLineEnd_iff (c : Char) : isLineEnd c = true ↔ c = '\n' ∨ c = '\r' := by
  rw [isLineEnd, Bool.or_eq_true, beq_iff_eq, beq_iff_eq]

theorem endsInText_iff (s : List Char) : EndsInText s ↔ Stops isLineEnd s.reverse := by
  have hother : ∀ c, isLineEnd c = false ↔ c ≠ '\n' ∧ c ≠ '\r' := by
    intro c
    rw [← Bool.not_eq_true, isLineEnd_iff, not_or]
  unfold EndsInText Stops
  simp only [List.head?_reverse, hother]
  cases hlast : s.getLast? with
  | none => simp [List.getLast?_eq_none_iff.mp hlast]
  | some c =>
    have hne : s ≠ [] := by
      intro hnil
      rw [hnil] at hlast
      cases hlast
    simp [hne]

/-- A text is divided in one way only into what ends in text and the line breaks behind it. -/
theorem dropLineEnds_append {s t : List Char} (hs : EndsInText s) (ht : AllLineEnds t) :
    dropLineEnds (s ++ t) = s := by
  have hends : ∀ c ∈ t.reverse, isLineEnd c = true := by
    intro c hc
    exact (isLineEnd_iff c).mpr (ht c (List.mem_reverse.mp hc))
  have hcut := (cut_append hends ((endsInText_iff s).mp hs)).2
  rw [dropLineEnds, dropEndWhile, List.reverse_append, hcut, List.reverse_reverse]

theorem endsInText_dropLineEnds (text : List Char) : EndsInText (dropLineEnds text) := by
  rw [endsInText_iff, dropLineEnds, dropEndWhile, List.reverse_reverse]
  exact stops_dropWhile isLineEnd text.reverse

theorem dropLineEnds_eq_iff (text s : List Char) :
    dropLineEnds text = s ↔ ∃ t, text = s ++ t ∧ AllLineEnds t ∧ EndsInText s := by
  constructor
  · intro h
    obtain ⟨t, htext, ht⟩ := exists_append_dropLineEnds text
    rw [h] at htext
    rw [← h]
    refine ⟨t, ?_, fun c hc => (isLineEnd_iff c).mp (ht c hc), endsInText_dropLineEnds text⟩
    rw [h]
    exact htext
  · intro h
    obtain ⟨t, htext, ht, hs⟩ := h
    rw [htext]
    exact dropLineEnds_append hs ht

theorem dropLineEnds_of_endsInText {s : List Char} (h : EndsInText s) : dropLineEnds s = s := by
  rw [dropLineEnds_eq_iff]
  exact ⟨[], (List.append_nil s).symm, List.forall_mem_nil _, h⟩

/-- Texts that differ in nothing but the line breaks at their ends. -/
def AlikeButLineEnds (a b : List Char) : Prop :=
  ∃ s t u, a = s ++ t ∧ b = s ++ u ∧ AllLineEnds t ∧ AllLineEnds u

theorem dropLineEnds_append_lineEnds (s : List Char) {t : List Char} (ht : AllLineEnds t) :
    dropLineEnds (s ++ t) = dropLineEnds s := by
  obtain ⟨u, hs, hu, hends⟩ := (dropLineEnds_eq_iff s _).mp rfl
  rw [dropLineEnds_eq_iff]
  refine ⟨u ++ t, ?_, List.forall_mem_append.mpr ⟨hu, ht⟩, hends⟩
  rw [← List.append_assoc, ← hs]

theorem dropLineEnds_inj (a b : List Char) :
    dropLineEnds a = dropLineEnds b ↔ AlikeButLineEnds a b := by
  constructor
  · intro h
    obtain ⟨t, ha, ht, -⟩ := (dropLineEnds_eq_iff a _).mp h
    obtain ⟨u, hb, hu, -⟩ := (dropLineEnds_eq_iff b _).mp rfl
    exact ⟨dropLineEnds b, t, u, ha, hb, ht, hu⟩
  · intro h
    obtain ⟨s, t, u, rfl, rfl, ht, hu⟩ := h
    rw [dropLineEnds_append_lineEnds s ht, dropLineEnds_append_lineEnds s hu]

theorem dropLineEnds_eq_nil_iff (text : List Char) : dropLineEnds text = [] ↔ AllLineEnds text := by
  rw [dropLineEnds_eq_iff]
  constructor
  · intro h
    obtain ⟨t, htext, ht, -⟩ := h
    rw [htext]
    exact ht
  · intro h
    exact ⟨text, rfl, h, .inl rfl⟩

/-! ### Texts of source files -/

theorem toList_withoutLineEnds (text : String) :
    (withoutLineEnds text).toList = dropLineEnds text.toList := String.toList_ofList

theorem withoutLineEnds_eq_iff (text s : String) :
    withoutLineEnds text = s ↔
      ∃ t, text.toList = s.toList ++ t ∧ AllLineEnds t ∧ EndsInText s.toList := by
  rw [← dropLineEnds_eq_iff, ← toList_withoutLineEnds, String.toList_inj]

/-- Line breaks inside a text stay, of every kind. -/
example : withoutLineEnds "a\r\n\n\rb\r\n\n" = "a\r\n\n\rb" := by decide

theorem withoutLineEnds_inj (a b : String) :
    withoutLineEnds a = withoutLineEnds b ↔ AlikeButLineEnds a.toList b.toList := by
  rw [← dropLineEnds_inj, ← toList_withoutLineEnds, ← toList_withoutLineEnds, String.toList_inj]

theorem withoutLineEnds_eq_empty_iff (text : String) :
    withoutLineEnds text = "" ↔ AllLineEnds text.toList := by
  rw [← dropLineEnds_eq_nil_iff, ← toList_withoutLineEnds, String.toList_eq_nil_iff]

theorem withoutLineEnds_idem (text : String) :
    withoutLineEnds (withoutLineEnds text) = withoutLineEnds text := by
  rw [← String.toList_inj, toList_withoutLineEnds, toList_withoutLineEnds]
  exact dropLineEnds_of_endsInText (endsInText_dropLineEnds text.toList)

/-! ### The last line -/

theorem eq_sep_of_getLast?_flatMap {sep c : Char} {pieces : List (List Char)}
    (h : (pieces.flatMap (· ++ [sep])).getLast? = some c) : c = sep := by
  obtain rfl | ⟨front, piece, rfl⟩ := pieces.eq_nil_or_concat
  · cases h
  · rw [List.concat_eq_append, List.flatMap_append, List.flatMap_singleton, ← List.append_assoc,
      List.getLast?_concat] at h
    exact (Option.some.inj h).symm

theorem getLast?_splitOn {sep c : Char} {s : List Char} (h : s.getLast? = some c) (hc : c ≠ sep) :
    ∃ piece, (splitOn sep s).getLast? = some piece ∧ piece.getLast? = some c := by
  obtain hnil | ⟨front, piece, hpieces⟩ := (splitOn sep s).eq_nil_or_concat
  · exact absurd hnil (splitOn_ne_nil sep s)
  rw [List.concat_eq_append] at hpieces
  have htext : s = front.flatMap (· ++ [sep]) ++ piece := by
    have hjoin := joinWith_append [sep] front (List.cons_ne_nil piece [])
    rw [← hpieces, joinWith_splitOn] at hjoin
    exact hjoin
  refine ⟨piece, ?_, ?_⟩
  · rw [hpieces]
    exact List.getLast?_concat
  · by_cases hne : piece = []
    · rw [htext, hne, List.append_nil] at h
      exact absurd (eq_sep_of_getLast?_flatMap h) hc
    · rw [htext, List.getLast?_append_of_ne_nil _ hne] at h
      exact h

end ScriptPress.Text
