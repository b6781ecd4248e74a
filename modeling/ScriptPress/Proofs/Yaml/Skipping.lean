import ScriptPress.Proofs.Yaml.Quoted
import ScriptPress.Yaml.Token

/-!
# JSON blanks between tokens

What JSON allows between its signs is passed over on the way to the next token, with one exception:
outside of flow collections a tab may not stand where a key may start. Main statement:
`toNextToken_blanks`.
-/
namespace ScriptPress.Yaml.Scanner

def skips (flow keyAllowed : Bool) : List Char → Bool
  | [] => true
  | x :: s =>
    if x == '\n' || x == '\r' then skips flow (keyAllowed || !flow) s
    else (x == ' ' || ((flow || !keyAllowed) && x == '\t')) && skips flow keyAllowed s

theorem skips_flow (keyAllowed : Bool) (s : List Char) (h : ∀ x ∈ s, Json.isSpace x = true) :
    skips true keyAllowed s = true := by
  induction s with
  | nil => rfl
  | cons x s ih =>
    have hs := ih fun y hy => h y (List.mem_cons_of_mem _ hy)
    simp only [skips, Bool.not_true, Bool.or_false, Bool.true_or, Bool.true_and, hs]
    obtain rfl | rfl | rfl | rfl := Json.cases_of_isSpace (h x List.mem_cons_self) <;> rfl

def startsToken (s : List Char) : Prop :=
  ∀ x ∈ s.head?, x ≠ ' ' ∧ x ≠ '\t' ∧ x ≠ '#' ∧ x ≠ '\ufeff' ∧ isBreak x = false

/-- Blanks on one line, and a line break and what comes after it if that is not all. -/
theorem exists_line (flow keyAllowed : Bool) (ws : List Char)
    (h : skips flow keyAllowed ws = true) :
    ∃ line more, ws = line ++ more ∧
      (∀ x ∈ line, (x == ' ' || ((flow || !keyAllowed) && x == '\t')) = true) ∧
      skips flow keyAllowed more = true ∧
      (more = [] ∨ ∃ x rest, more = x :: rest ∧ (x = '\n' ∨ x = '\r')) := by
  induction ws with
  | nil => exact ⟨[], [], rfl, by simp, rfl, .inl rfl⟩
  | cons x ws ih =>
    have hall := h
    rw [skips] at h
    by_cases hx : (x == '\n' || x == '\r') = true
    · exact ⟨[], x :: ws, rfl, by simp, hall, .inr ⟨x, ws, rfl, by simpa using hx⟩⟩
    · rw [if_neg hx, Bool.and_eq_true] at h
      obtain ⟨line, more, rfl, hline, hmore, hend⟩ := ih h.2
      refine ⟨x :: line, more, rfl, ?_, hmore, hend⟩
      intro y hy
      obtain rfl | hy := List.mem_cons.mp hy
      · exact h.1
      · exact hline y hy

theorem lineBreak_blanks (flow keyAllowed : Bool) (x : Char) (rest tail : List Char) (c : Cursor)
    (hx : x = '\n' ∨ x = '\r') (hrest : c.rest = x :: (rest ++ tail))
    (h : skips flow keyAllowed (x :: rest) = true) (htail : startsToken tail) :
    ∃ more, (c.lineBreak.2).rest = more ++ tail ∧ more.length ≤ rest.length ∧
      skips flow (keyAllowed || !flow) more = true := by
  have hskips : skips flow (keyAllowed || !flow) rest = true := by
    rw [skips, if_pos (by simpa using hx)] at h
    exact h
  unfold Cursor.lineBreak
  rw [hrest]
  split
  · -- CR and LF are one line break
    rename_i after hcons
    have hafter : '\n' :: after = rest ++ tail := (List.cons.inj hcons).2.symm
    cases rest with
    | nil =>
      have hbreak := (htail '\n' (by rw [← List.nil_append tail, ← hafter]; rfl)).2.2.2.2
      exact absurd hbreak (by decide)
    | cons y rest =>
      obtain ⟨rfl, rfl⟩ := List.cons.inj hafter
      refine ⟨rest, rfl, Nat.le_succ _, ?_⟩
      rw [skips, if_pos (by decide)] at hskips
      simpa [Bool.or_assoc] using hskips
  · rename_i hcons
    obtain ⟨rfl, rfl⟩ := List.cons.inj hcons
    have hone : ¬(x = '\u2028' ∨ x = '\u2029') := by
      obtain rfl | rfl := hx <;> decide
    have hbreak : isBreak x = true := by
      obtain rfl | rfl := hx <;> decide
    rw [if_neg hone, if_pos hbreak]
    exact ⟨rest, rfl, Nat.le_refl _, hskips⟩
  · rename_i hnil
    cases hnil

/-- Blanks are passed over to the next token. The cursor moves on within its line if they have no
line break, and then no key becomes possible. -/
theorem toNextToken_blanks (n : Nat) (s : Scanner) (ws tail : List Char)
    (hrest : s.cursor.rest = ws ++ tail) (hskips : skips s.flow s.keyAllowed ws = true)
    (htail : startsToken tail) (hn : ws.length < n) :
    ∃ c keyAllowed, s.toNextToken n = { s with cursor := c, keyAllowed := keyAllowed } ∧
      c.rest = tail ∧
      ((∀ x ∈ ws, isBreak x = false) →
        c = s.cursor.steps ws.length ∧ keyAllowed = s.keyAllowed) ∧
      (s.flow = true → keyAllowed = s.keyAllowed) := by
  induction n generalizing s ws with
  | zero => exact absurd hn (Nat.not_lt_zero _)
  | succ n ih =>
    obtain ⟨line, more, rfl, hline, hmore, hend⟩ := exists_line s.flow s.keyAllowed ws hskips
    have hstop : ∀ x ∈ (more ++ tail).head?, x ≠ ' ' ∧ x ≠ '\t' ∧ x ≠ '#' ∧ x ≠ '\ufeff' := by
      intro x hx
      obtain rfl | ⟨y, rest, rfl, hy⟩ := hend
      · obtain ⟨h₁, h₂, h₃, h₄, -⟩ := htail x hx
        exact ⟨h₁, h₂, h₃, h₄⟩
      · obtain rfl : y = x := Option.some.inj hx
        obtain rfl | rfl := hy <;> decide
    rw [List.append_assoc] at hrest
    have hmark : ¬(s.cursor.mark.index = 0 ∧ s.cursor.sees '\ufeff' = true) := by
      rintro ⟨-, hsees⟩
      have hhead : s.cursor.rest.head? = some '\ufeff' := by simpa [Cursor.sees] using hsees
      rw [hrest] at hhead
      cases line with
      | nil => exact (hstop '\ufeff' hhead).2.2.2 rfl
      | cons y line =>
        obtain rfl : y = '\ufeff' := Option.some.inj hhead
        simpa using hline '\ufeff' List.mem_cons_self
    have htaken : (s.cursor.rest.takeWhile fun x =>
        x == ' ' || ((s.flow || !s.keyAllowed) && x == '\t')) = line := by
      rw [hrest, List.takeWhile_append_of_pos hline]
      cases hcases : more ++ tail with
      | nil => simp
      | cons x rest =>
        obtain ⟨hspace, htab, -⟩ := hstop x (by rw [hcases]; rfl)
        simp [hspace, htab]
    have hafter := Cursor.steps_rest s.cursor line (more ++ tail) hrest
    have hcomment : (s.cursor.steps line.length).sees '#' = false := by
      rw [Cursor.sees, hafter]
      cases hcases : more ++ tail with
      | nil => rfl
      | cons x rest =>
        obtain ⟨-, -, hsign, -⟩ := hstop x (by rw [hcases]; rfl)
        simpa using hsign
    rw [toNextToken]
    simp only [if_neg hmark, Cursor.skipWhile, htaken, hcomment, Bool.false_eq_true, if_false]
    rw [hafter]
    obtain rfl | ⟨x, rest, rfl, hx⟩ := hend
    · have hnobreak : ([] ++ tail : List Char).head?.any isBreak = false := by
        cases tail with
        | nil => rfl
        | cons x tail => exact (htail x rfl).2.2.2.2
      rw [hnobreak, List.append_nil]
      exact ⟨_, s.keyAllowed, rfl, hafter, fun _ => ⟨rfl, rfl⟩, fun _ => rfl⟩
    · have hbreak : isBreak x = true := by
        obtain rfl | rfl := hx <;> decide
      have hhead : ((x :: rest) ++ tail).head?.any isBreak = true := hbreak
      obtain ⟨left, hleft, hlength, hleftSkips⟩ :=
        lineBreak_blanks s.flow s.keyAllowed x rest tail (s.cursor.steps line.length) hx hafter
          hmore htail
      have hfuel : left.length < n := by
        simp only [List.length_append, List.length_cons] at hn
        omega
      obtain ⟨c, keyAllowed, hresult, hc, -, hflow⟩ :=
        ih { s with
          cursor := (s.cursor.steps line.length).lineBreak.2
          keyAllowed := s.keyAllowed || !s.flow } left hleft hleftSkips hfuel
      rw [hhead, if_pos rfl]
      refine ⟨c, keyAllowed, hresult, hc, fun hall => ?_, fun hs => ?_⟩
      · have hno := hall x (by simp)
        rw [hbreak] at hno
        cases hno
      · have hkept := hflow hs
        rw [hs] at hkept
        simpa using hkept

theorem read_blanks (n : Nat) (g : Gap) (ws tail : List Char) (c : Cursor)
    (hrest : c.rest = ws ++ tail) (hskips : skips true false ws = true) (htail : startsToken tail)
    (hn : ws.length ≤ n) :
    ∃ gap c', g.read 0 n c = .ok (gap, c') ∧ c'.rest = tail := by
  induction n generalizing g ws c with
  | zero =>
    obtain rfl : ws = [] := List.length_eq_zero_iff.mp (Nat.le_zero.mp hn)
    exact ⟨g, c, rfl, hrest⟩
  | succ n ih =>
    cases ws with
    | nil =>
      refine ⟨g, c, ?_, hrest⟩
      rw [Gap.read, hrest, List.nil_append]
      cases tail with
      | nil => rfl
      | cons x tail =>
        obtain ⟨hspace, htab, -, -, hbreak⟩ := htail x rfl
        simp [isBlank, hspace, htab, hbreak]
    | cons x ws =>
      have hlength : ws.length ≤ n := by simpa using hn
      have hcases := hskips
      rw [skips] at hcases
      rw [Gap.read, hrest]
      split at hcases
      · rename_i hx
        have hx' : x = '\n' ∨ x = '\r' := by simpa using hx
        obtain ⟨left, hleft, hleftLength, hleftSkips⟩ :=
          lineBreak_blanks true false x ws tail c hx' hrest hskips htail
        have hblank : isBlank x = false := by
          obtain rfl | rfl := hx' <;> decide
        have hbreak : isBreak x = true := by
          obtain rfl | rfl := hx' <;> decide
        simp only [List.cons_append, hblank, Bool.false_eq_true, if_false, hbreak, if_true]
        exact ih _ left _ hleft hleftSkips (Nat.le_trans hleftLength hlength)
      · simp only [Bool.true_or, Bool.not_false, Bool.true_and, Bool.and_eq_true] at hcases
        have hblank : isBlank x = true := hcases.1
        have hstep : c.step.rest = ws ++ tail := by rw [Cursor.step, hrest]; rfl
        simp only [List.cons_append, hblank, if_true, Nat.not_lt_zero, decide_false,
          Bool.and_false, Bool.false_and, Bool.false_eq_true, if_false]
        exact ih _ ws _ hstep hcases.2 hlength

theorem blank_or_break_of_isSpace {c : Char} (h : Json.isSpace c = true) :
    (isBlank c || isBreak c) = true := by
  obtain rfl | rfl | rfl | rfl := Json.cases_of_isSpace h <;> decide

theorem readAll_blanks (ws tail : List Char) (c : Cursor) (hrest : c.rest = ws ++ tail)
    (hws : ∀ y ∈ ws, Json.isSpace y = true) (htail : startsToken tail) :
    ∃ gap c', Gap.readAll 0 Gap.none c = .ok (gap, c') ∧ c'.rest = tail := by
  have hall : ∀ y ∈ ws, (isBlank y || isBreak y) = true :=
    fun y hy => blank_or_break_of_isSpace (hws y hy)
  refine read_blanks _ Gap.none ws tail c hrest (skips_flow false ws hws) htail ?_
  rw [hrest, List.takeWhile_append_of_pos hall, List.length_append]
  omega

end ScriptPress.Yaml.Scanner
