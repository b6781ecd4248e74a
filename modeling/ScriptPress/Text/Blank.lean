/-!
# White space

The characters with the Unicode property White_Space, and cutting them off the ends of a text.
Main statements: a trimmed text neither starts nor ends with a blank, trimming twice is trimming
once, and what is cut off are the blanks around the text.
-/
namespace ScriptPress.Text

/-- The 25 characters with the Unicode property White_Space. -/
def isBlank (c : Char) : Bool :=
  let n := c.toNat
  (9 ≤ n && n ≤ 13) || n == 0x20 || n == 0x85 || n == 0xA0 || n == 0x1680 ||
  (0x2000 ≤ n && n ≤ 0x200A) || n == 0x2028 || n == 0x2029 || n == 0x202F || n == 0x205F ||
  n == 0x3000

/-! ### Cutting at the ends -/

def dropEndWhile (p : Char → Bool) (s : List Char) : List Char :=
  (s.reverse.dropWhile p).reverse

def trimStart (s : List Char) : List Char := s.dropWhile isBlank

def trimEnd (s : List Char) : List Char := dropEndWhile isBlank s

def trim (s : List Char) : List Char := trimEnd (trimStart s)

theorem trimStart_cons (c : Char) (s : List Char) :
    trimStart (c :: s) = if isBlank c then trimStart s else c :: s := by
  simp only [trimStart, List.dropWhile_cons]

theorem dropEndWhile_append (p : Char → Bool) (s : List Char) :
    dropEndWhile p s ++ (s.reverse.takeWhile p).reverse = s := by
  have h := List.takeWhile_append_dropWhile (p := p) (l := s.reverse)
  have h' := congrArg List.reverse h
  rw [List.reverse_append, List.reverse_reverse] at h'
  exact h'

/-! ### What is left -/

theorem not_blank_of_head?_trimStart (s : List Char) (c : Char)
    (h : (trimStart s).head? = some c) : isBlank c = false := by
  induction s with
  | nil => cases h
  | cons d s ih =>
    rw [trimStart_cons] at h
    by_cases hd : isBlank d = true
    · rw [if_pos hd] at h
      exact ih h
    · rw [if_neg hd] at h
      cases h
      exact Bool.eq_false_iff.mpr hd

theorem not_blank_of_getLast?_trimEnd (s : List Char) (c : Char)
    (h : (trimEnd s).getLast? = some c) : isBlank c = false := by
  rw [trimEnd, dropEndWhile, List.getLast?_reverse] at h
  exact not_blank_of_head?_trimStart s.reverse c h

theorem trimStart_of_head? (s : List Char) (h : ∀ c, s.head? = some c → isBlank c = false) :
    trimStart s = s := by
  cases s with
  | nil => rfl
  | cons c s => rw [trimStart_cons, h c rfl, if_neg Bool.false_ne_true]

theorem trimEnd_of_getLast? (s : List Char) (h : ∀ c, s.getLast? = some c → isBlank c = false) :
    trimEnd s = s := by
  have hr : trimStart s.reverse = s.reverse := by
    apply trimStart_of_head?
    intro c hc
    rw [List.head?_reverse] at hc
    exact h c hc
  have he : trimEnd s = (trimStart s.reverse).reverse := rfl
  rw [he, hr, List.reverse_reverse]

theorem trimEnd_isPrefix (s : List Char) : trimEnd s <+: s :=
  ⟨_, dropEndWhile_append isBlank s⟩

theorem not_blank_of_head?_trim (s : List Char) (c : Char) (h : (trim s).head? = some c) :
    isBlank c = false := by
  obtain ⟨t, ht⟩ := trimEnd_isPrefix (trimStart s)
  have hs : (trimStart s).head? = some c := by
    rw [← ht]
    cases hc : trimEnd (trimStart s) with
    | nil =>
      rw [trim, hc] at h
      cases h
    | cons d r =>
      rw [trim, hc] at h
      exact h
  exact not_blank_of_head?_trimStart s c hs

theorem not_blank_of_getLast?_trim (s : List Char) (c : Char) (h : (trim s).getLast? = some c) :
    isBlank c = false :=
  not_blank_of_getLast?_trimEnd (trimStart s) c h

theorem trim_of_ends (s : List Char) (hh : ∀ c, s.head? = some c → isBlank c = false)
    (hl : ∀ c, s.getLast? = some c → isBlank c = false) : trim s = s := by
  rw [trim, trimStart_of_head? s hh, trimEnd_of_getLast? s hl]

theorem trim_trim (s : List Char) : trim (trim s) = trim s :=
  trim_of_ends (trim s) (not_blank_of_head?_trim s) (not_blank_of_getLast?_trim s)

def trimmed (s : String) : String := String.ofList (trim s.toList)

theorem toList_trimmed (s : String) : (trimmed s).toList = trim s.toList := String.toList_ofList

theorem trimmed_trimmed (s : String) : trimmed (trimmed s) = trimmed s := by
  rw [trimmed, toList_trimmed, trim_trim, trimmed]

/-! ### Texts between blanks -/

def AllBlank (s : List Char) : Prop := ∀ c ∈ s, isBlank c = true

theorem allBlank_takeWhile (s : List Char) : AllBlank (s.takeWhile isBlank) :=
  List.all_eq_true.mp List.all_takeWhile

theorem AllBlank.reverse {s : List Char} (h : AllBlank s) : AllBlank s.reverse := by
  intro c hc
  exact h c (List.mem_reverse.mp hc)

theorem AllBlank.append {s t : List Char} (hs : AllBlank s) (ht : AllBlank t) :
    AllBlank (s ++ t) := by
  intro c hc
  rcases List.mem_append.mp hc with hc | hc
  · exact hs c hc
  · exact ht c hc

theorem trimStart_blank_append {before : List Char} (h : AllBlank before) (s : List Char) :
    trimStart (before ++ s) = trimStart s :=
  List.dropWhile_append_of_pos h

theorem trimStart_of_allBlank {s : List Char} (h : AllBlank s) : trimStart s = [] := by
  have happend := trimStart_blank_append h []
  rw [List.append_nil] at happend
  exact happend

theorem trimEnd_append_blank (s : List Char) {after : List Char} (h : AllBlank after) :
    trimEnd (s ++ after) = trimEnd s := by
  have hdrop := trimStart_blank_append h.reverse s.reverse
  rw [trimEnd, trimEnd, dropEndWhile, dropEndWhile, List.reverse_append]
  exact congrArg List.reverse hdrop

/-- Blanks around a text with other ends are what trimming cuts off. -/
theorem trim_between (before s after : List Char) (hb : AllBlank before) (ha : AllBlank after)
    (hh : ∀ c, s.head? = some c → isBlank c = false)
    (hl : ∀ c, s.getLast? = some c → isBlank c = false) : trim (before ++ s ++ after) = s := by
  rw [trim, List.append_assoc, trimStart_blank_append hb]
  cases s with
  | nil =>
    rw [List.nil_append, trimStart_of_allBlank ha]
    rfl
  | cons c s =>
    have hstart : trimStart (c :: s ++ after) = c :: s ++ after := trimStart_of_head? _ hh
    rw [hstart, trimEnd_append_blank _ ha, trimEnd_of_getLast? _ hl]

theorem exists_append_trim (s : List Char) :
    ∃ before after, s = before ++ trim s ++ after ∧ AllBlank before ∧ AllBlank after := by
  refine ⟨s.takeWhile isBlank, ((trimStart s).reverse.takeWhile isBlank).reverse, ?_,
    allBlank_takeWhile s, (allBlank_takeWhile _).reverse⟩
  have hend : trim s ++ ((trimStart s).reverse.takeWhile isBlank).reverse = trimStart s :=
    dropEndWhile_append isBlank (trimStart s)
  rw [List.append_assoc, hend]
  exact List.takeWhile_append_dropWhile.symm

theorem trim_eq_nil_iff (s : List Char) : trim s = [] ↔ AllBlank s := by
  constructor
  · intro h
    obtain ⟨before, after, hs, hbefore, hafter⟩ := exists_append_trim s
    rw [h, List.append_nil] at hs
    rw [hs]
    exact hbefore.append hafter
  · intro h
    rw [trim, trimStart_of_allBlank h]
    rfl

end ScriptPress.Text
