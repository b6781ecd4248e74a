/-!
# Cutting a text at separators

`splitOn sep` cuts at every `sep` and `joinWith sep` puts the separators back. Main statements:
joining what was split gives the text again, every piece is free of the separator, and splitting
what was joined from such pieces gives the pieces again. So the pieces of a text are those of the one
series that it is. A cut where a kind of character stops is the only one there is (`cut_unique`).
-/
namespace ScriptPress.Text

/-- The pieces between the separators; a text without one is a single piece. -/
def splitOn (sep : Char) : List Char → List (List Char)
  | [] => [[]]
  | c :: s =>
    if c = sep then [] :: splitOn sep s
    else
      match splitOn sep s with
      | [] => [[c]]
      | piece :: rest => (c :: piece) :: rest

def joinWith (sep : List Char) : List (List Char) → List Char
  | [] => []
  | [piece] => piece
  | piece :: next :: rest => piece ++ sep ++ joinWith sep (next :: rest)

theorem mem_joinWith (sep : List Char) (pieces : List (List Char)) (c : Char)
    (h : c ∈ joinWith sep pieces) : c ∈ sep ∨ ∃ piece ∈ pieces, c ∈ piece := by
  induction pieces with
  | nil => exact absurd h List.not_mem_nil
  | cons piece rest ih =>
    cases rest with
    | nil => exact Or.inr ⟨piece, List.mem_cons_self, h⟩
    | cons next rest =>
      rw [joinWith, List.mem_append, List.mem_append] at h
      rcases h with (h | h) | h
      · exact Or.inr ⟨piece, List.mem_cons_self, h⟩
      · exact Or.inl h
      · rcases ih h with h | ⟨q, hq, hc⟩
        · exact Or.inl h
        · exact Or.inr ⟨q, List.mem_cons_of_mem _ hq, hc⟩

theorem mem_joinWith_of_mem (sep : List Char) {pieces : List (List Char)} {piece : List Char}
    {c : Char} (hp : piece ∈ pieces) (hc : c ∈ piece) : c ∈ joinWith sep pieces := by
  induction pieces with
  | nil => exact absurd hp List.not_mem_nil
  | cons first rest ih =>
    have hfirst : c ∈ first ∨ c ∈ joinWith sep rest := by
      rcases List.mem_cons.mp hp with rfl | hrest
      · exact Or.inl hc
      · exact Or.inr (ih hrest)
    cases rest with
    | nil =>
      rcases hfirst with h | h
      · exact h
      · exact absurd h List.not_mem_nil
    | cons next rest =>
      rw [joinWith, List.mem_append, List.mem_append]
      rcases hfirst with h | h
      · exact Or.inl (Or.inl h)
      · exact Or.inr h

theorem splitOn_ne_nil (sep : Char) (s : List Char) : splitOn sep s ≠ [] := by
  cases s with
  | nil => simp [splitOn]
  | cons c s =>
    by_cases h : c = sep
    · simp [splitOn, h]
    · simp only [splitOn, h, ite_false]
      split <;> simp

theorem joinWith_splitOn (sep : Char) (s : List Char) : joinWith [sep] (splitOn sep s) = s := by
  induction s with
  | nil => rfl
  | cons c s ih =>
    by_cases h : c = sep
    · subst h
      simp only [splitOn, ite_true]
      cases hs : splitOn c s with
      | nil => exact absurd hs (splitOn_ne_nil c s)
      | cons piece rest =>
        rw [hs] at ih
        simp [joinWith, ih]
    · simp only [splitOn, h, ite_false]
      cases hs : splitOn sep s with
      | nil => exact absurd hs (splitOn_ne_nil sep s)
      | cons piece rest =>
        rw [hs] at ih
        cases rest with
        | nil =>
          simp only [joinWith] at ih
          simp [joinWith, ih]
        | cons next rest =>
          simp only [joinWith] at ih
          simp [joinWith, ← ih]

theorem not_mem_of_mem_splitOn (sep : Char) (s piece : List Char) (h : piece ∈ splitOn sep s) :
    sep ∉ piece := by
  induction s generalizing piece with
  | nil =>
    simp only [splitOn, List.mem_singleton] at h
    simp [h]
  | cons c s ih =>
    by_cases hc : c = sep
    · simp only [splitOn, hc, ite_true, List.mem_cons] at h
      rcases h with h | h
      · simp [h]
      · exact ih piece h
    · simp only [splitOn, hc, ite_false] at h
      cases hs : splitOn sep s with
      | nil => exact absurd hs (splitOn_ne_nil sep s)
      | cons first rest =>
        rw [hs] at h ih
        simp only [List.mem_cons] at h ih
        rcases h with h | h
        · rw [h, List.mem_cons, not_or]
          exact ⟨fun e => hc e.symm, ih first (Or.inl rfl)⟩
        · exact ih piece (Or.inr h)

theorem splitOn_of_not_mem (sep : Char) (s : List Char) (h : sep ∉ s) : splitOn sep s = [s] := by
  induction s with
  | nil => rfl
  | cons c s ih =>
    rw [List.mem_cons, not_or] at h
    rw [splitOn, if_neg (Ne.symm h.1), ih h.2]

theorem splitOn_append (sep : Char) (s rest : List Char) (h : sep ∉ s) :
    splitOn sep (s ++ sep :: rest) = s :: splitOn sep rest := by
  induction s with
  | nil => rw [List.nil_append, splitOn, if_pos rfl]
  | cons c s ih =>
    rw [List.mem_cons, not_or] at h
    rw [List.cons_append, splitOn, if_neg (Ne.symm h.1), ih h.2]

theorem splitOn_joinWith (sep : Char) (pieces : List (List Char)) (hne : pieces ≠ [])
    (h : ∀ piece ∈ pieces, sep ∉ piece) : splitOn sep (joinWith [sep] pieces) = pieces := by
  induction pieces with
  | nil => exact absurd rfl hne
  | cons piece rest ih =>
    have hp : sep ∉ piece := h piece List.mem_cons_self
    cases rest with
    | nil => exact splitOn_of_not_mem sep piece hp
    | cons next rest =>
      have hr := ih (List.cons_ne_nil next rest) fun q hq => h q (List.mem_cons_of_mem piece hq)
      rw [joinWith, List.append_assoc, List.singleton_append, splitOn_append sep piece _ hp, hr]

/-- A text is a series of such pieces with the separator between them; there is at least one. -/
def IsSeries (sep : Char) (ok : List Char → Prop) (s : List Char) : Prop :=
  ∃ pieces, pieces ≠ [] ∧ s = joinWith [sep] pieces ∧ ∀ piece ∈ pieces, sep ∉ piece ∧ ok piece

theorem isSeries_iff (sep : Char) (ok : List Char → Prop) (s : List Char) :
    IsSeries sep ok s ↔ ∀ piece ∈ splitOn sep s, ok piece := by
  constructor
  · intro h
    obtain ⟨pieces, hne, rfl, hpieces⟩ := h
    rw [splitOn_joinWith sep pieces hne fun piece hp => (hpieces piece hp).1]
    exact fun piece hp => (hpieces piece hp).2
  · intro h
    refine ⟨splitOn sep s, splitOn_ne_nil sep s, (joinWith_splitOn sep s).symm, ?_⟩
    exact fun piece hp => ⟨not_mem_of_mem_splitOn sep s piece hp, h piece hp⟩

theorem isSeries_and_iff (sep : Char) (q : Char → Prop) (ok : List Char → Prop) (s : List Char) :
    IsSeries sep (fun piece => (∀ c ∈ piece, q c) ∧ ok piece) s ↔
      IsSeries sep ok s ∧ ∀ c ∈ s, c = sep ∨ q c := by
  constructor
  · intro h
    obtain ⟨pieces, hne, rfl, hpieces⟩ := h
    refine ⟨⟨pieces, hne, rfl, fun piece hp => ⟨(hpieces piece hp).1, (hpieces piece hp).2.2⟩⟩, ?_⟩
    intro c hc
    rcases mem_joinWith [sep] pieces c hc with hsep | ⟨piece, hp, hin⟩
    · exact Or.inl (List.mem_singleton.mp hsep)
    · exact Or.inr ((hpieces piece hp).2.1 c hin)
  · intro h
    obtain ⟨⟨pieces, hne, rfl, hpieces⟩, hall⟩ := h
    refine ⟨pieces, hne, rfl, fun piece hp => ⟨(hpieces piece hp).1, ?_, (hpieces piece hp).2⟩⟩
    intro c hc
    rcases hall c (mem_joinWith_of_mem [sep] hp hc) with rfl | hq
    · exact absurd hc (hpieces piece hp).1
    · exact hq

/-- There is one piece more than there are separators. -/
theorem length_splitOn (sep : Char) (s : List Char) :
    (splitOn sep s).length = s.count sep + 1 := by
  induction s with
  | nil => rfl
  | cons c s ih =>
    by_cases h : c = sep
    · rw [splitOn, if_pos h, List.length_cons, ih, h, List.count_cons_self]
    · rw [splitOn, if_neg h, List.count_cons_of_ne h, ← ih]
      cases hs : splitOn sep s with
      | nil => exact absurd hs (splitOn_ne_nil sep s)
      | cons piece rest => rfl

theorem joinWith_append (sep : List Char) (pieces : List (List Char)) {rest : List (List Char)}
    (h : rest ≠ []) :
    joinWith sep (pieces ++ rest) = pieces.flatMap (· ++ sep) ++ joinWith sep rest := by
  induction pieces with
  | nil => rfl
  | cons piece pieces ih =>
    have hne : pieces ++ rest ≠ [] := fun hnil => h (List.append_eq_nil_iff.mp hnil).2
    rw [List.cons_append, List.flatMap_cons, List.append_assoc, ← ih]
    cases hp : pieces ++ rest with
    | nil => exact absurd hp hne
    | cons next more => rfl

/-! ### Cutting at the first character of another kind -/

section Cutting

variable {α : Type} {p q : α → Bool}

def Stops (p : α → Bool) (rest : List α) : Prop := ∀ c, rest.head? = some c → p c = false

theorem stops_nil (p : α → Bool) : Stops p [] := by
  intro c hc
  cases hc

theorem stops_cons {c : α} (s : List α) (h : p c = false) : Stops p (c :: s) := by
  intro d hd
  rw [← Option.some.inj hd]
  exact h

theorem Stops.mono {rest : List α} (h : Stops q rest) (hpq : ∀ c, p c = true → q c = true) :
    Stops p rest := by
  intro c hc
  rw [← Bool.not_eq_true]
  intro hp
  have hq := h c hc
  rw [hpq c hp] at hq
  cases hq

theorem takeWhile_of_stops {rest : List α} (h : Stops p rest) : rest.takeWhile p = [] := by
  cases rest with
  | nil => rfl
  | cons c rest => exact List.takeWhile_cons_of_neg (by simp [h c rfl])

theorem dropWhile_of_stops {rest : List α} (h : Stops p rest) : rest.dropWhile p = rest := by
  cases rest with
  | nil => rfl
  | cons c rest => exact List.dropWhile_cons_of_neg (by simp [h c rfl])

theorem cut_append {s rest : List α} (hs : ∀ c ∈ s, p c = true) (hr : Stops p rest) :
    (s ++ rest).takeWhile p = s ∧ (s ++ rest).dropWhile p = rest := by
  rw [List.takeWhile_append_of_pos hs, List.dropWhile_append_of_pos hs, takeWhile_of_stops hr,
    dropWhile_of_stops hr, List.append_nil]
  exact ⟨rfl, rfl⟩

/-- A text is cut in one way only into what is of this kind and a rest that does not go on with it. -/
theorem cut_unique {s s' rest rest' : List α} (hs : ∀ c ∈ s, p c = true) (hr : Stops p rest)
    (hs' : ∀ c ∈ s', p c = true) (hr' : Stops p rest') (h : s ++ rest = s' ++ rest') :
    s = s' ∧ rest = rest' := by
  obtain ⟨htake, hdrop⟩ := cut_append hs hr
  obtain ⟨htake', hdrop'⟩ := cut_append hs' hr'
  rw [h, htake'] at htake
  rw [h, hdrop'] at hdrop
  exact ⟨htake.symm, hdrop.symm⟩

theorem stops_dropWhile (p : α → Bool) (s : List α) : Stops p (s.dropWhile p) := by
  intro c hc
  have hhead := List.head?_dropWhile_not p s
  rw [hc] at hhead
  simpa using hhead

theorem forall_mem_takeWhile (p : α → Bool) (s : List α) : ∀ c ∈ s.takeWhile p, p c = true :=
  List.all_eq_true.mp List.all_takeWhile

end Cutting

end ScriptPress.Text
