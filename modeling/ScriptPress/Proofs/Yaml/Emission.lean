import ScriptPress.Proofs.Yaml.Skipping

/-!
# What a scanner emits

Tokens wait while the first of them may still turn out to start a key. What is read at the cursor
does not depend on how many of them have passed already, so statements about reading are made for
any tokens that wait; `emits_of_fetch` is the invariant that carries this. It covers the states
outside of block collections, which are all that a text of one flow collection has.
-/
namespace ScriptPress.Yaml.Scanner

/-! ### Candidates -/

/-- A candidate as long as it can still become a key at a mark. -/
def current (m : Mark) (k : Option Candidate) : Option Candidate :=
  k.filter fun k => !Candidate.isStale k m

def isOptional (k : Option Candidate) : Bool := k.all fun k => !k.required

theorem isOptional_current (m : Mark) (k : Option Candidate) (h : isOptional k = true) :
    isOptional (current m k) = true := by
  cases k with
  | none => rfl
  | some k =>
    unfold current
    cases hstale : Candidate.isStale k m
    · simpa [Option.filter, hstale] using h
    · simp [Option.filter, hstale, isOptional]

theorem fresh_of_optional (s : Scanner) (ks : List (Option Candidate))
    (h : ks.all isOptional = true) : s.fresh ks = .ok (ks.map (current s.mark)) := by
  induction ks with
  | nil => rfl
  | cons k ks ih =>
    rw [List.all_cons, Bool.and_eq_true] at h
    have hrest := ih h.2
    cases k with
    | none =>
      rw [fresh, hrest]
      rfl
    | some k =>
      have hrequired : k.required = false := by simpa [isOptional] using h.1
      rw [fresh, hrest]
      simp only [giveUp, hrequired, Bool.false_eq_true, if_false, List.map_cons, current,
        Option.filter]
      by_cases hstale : Candidate.isStale k s.mark = true
      · simp [hstale]
      · simp [hstale]

theorem dropStale_of_optional (s : Scanner) (h : s.candidates.all isOptional = true) :
    s.dropStale = .ok { s with candidates := s.candidates.map (current s.mark) } := by
  rw [dropStale, fresh_of_optional s _ h]
  rfl

/-! ### Emission -/

/-- Whether the tokens to come are these, in at most so many steps. -/
def Emits (cost : Nat) (s : Scanner) (tokens : List Token) : Prop :=
  ∀ n, cost ≤ n → ∃ placed, s.run n = (placed, none) ∧ placed.map Placed.token = tokens

theorem Emits.done (s : Scanner) (hwaiting : s.waiting = []) (hended : s.ended = true) :
    Emits 1 s [] := by
  intro n hn
  obtain ⟨n, rfl⟩ := Nat.exists_eq_add_of_le' hn
  refine ⟨[], ?_, rfl⟩
  rw [run, hwaiting]
  simp [hended]

theorem Emits.fetch {cost : Nat} {s s' : Scanner} {tokens : List Token} (hwaiting : s.waiting = [])
    (hended : s.ended = false) (hfetch : s.fetch = .ok s') (h : Emits cost s' tokens) :
    Emits (cost + 1) s tokens := by
  intro n hn
  obtain ⟨n, rfl⟩ := Nat.exists_eq_add_of_le' (Nat.le_trans (Nat.le_add_left 1 cost) hn)
  obtain ⟨placed, hrun, hplaced⟩ := h n (by omega)
  refine ⟨placed, ?_, hplaced⟩
  rw [run, hwaiting]
  simp [hended, hfetch, hrun]

/-- While the first waiting token may start a key, reading goes on behind it. -/
theorem Emits.wait {cost : Nat} {s t s' : Scanner} {p : Placed} {waiting : List Placed}
    {tokens : List Token} (hwaiting : s.waiting = p :: waiting) (hstale : s.dropStale = .ok t)
    (hopen : t.firstIsOpen = true) (hfetch : t.fetch = .ok s') (h : Emits cost s' tokens) :
    Emits (cost + 1) s tokens := by
  intro n hn
  obtain ⟨n, rfl⟩ := Nat.exists_eq_add_of_le' (Nat.le_trans (Nat.le_add_left 1 cost) hn)
  obtain ⟨placed, hrun, hplaced⟩ := h n (by omega)
  refine ⟨placed, ?_, hplaced⟩
  rw [run, hwaiting]
  simp [hstale, hopen, hfetch, hrun]

theorem Emits.pop {cost : Nat} {s t : Scanner} {p : Placed} {waiting : List Placed}
    {tokens : List Token} (hwaiting : s.waiting = p :: waiting) (hstale : s.dropStale = .ok t)
    (hopen : t.firstIsOpen = false)
    (h : Emits cost { t with waiting := waiting, first := t.first + 1 } tokens) :
    Emits (cost + 1) s (p.token :: tokens) := by
  intro n hn
  obtain ⟨n, rfl⟩ := Nat.exists_eq_add_of_le' (Nat.le_trans (Nat.le_add_left 1 cost) hn)
  obtain ⟨placed, hrun, hplaced⟩ := h n (by omega)
  refine ⟨p :: placed, ?_, by rw [List.map_cons, hplaced]⟩
  rw [run, hwaiting]
  simp [hstale, hopen, hrun]

theorem Emits.mono {cost cost' : Nat} {s : Scanner} {tokens : List Token} (h : Emits cost s tokens)
    (hcost : cost ≤ cost') : Emits cost' s tokens := fun n hn => h n (Nat.le_trans hcost hn)

/-! ### States -/

/-- A state outside of block collections, with the candidates of the open braces and that of the
block level. -/
def reading (c : Cursor) (waiting : List Placed) (first : Nat) (inner : List (Option Candidate))
    (outer : Option Candidate) (keyAllowed : Bool) : Scanner :=
  ⟨c, waiting, first, inner ++ [outer], -1, [], keyAllowed, false⟩

theorem dropStale_reading (c : Cursor) (waiting : List Placed) (first : Nat)
    (inner : List (Option Candidate)) (outer : Option Candidate) (keyAllowed : Bool)
    (hinner : inner.all isOptional = true) (houter : isOptional outer = true) :
    (reading c waiting first inner outer keyAllowed).dropStale =
      .ok (reading c waiting first (inner.map (current c.mark)) (current c.mark outer)
        keyAllowed) := by
  rw [dropStale_of_optional _ (by simp [reading, hinner, houter])]
  simp [reading, mark]

theorem unroll_reading (c : Cursor) (waiting : List Placed) (first : Nat)
    (inner : List (Option Candidate)) (outer : Option Candidate) (keyAllowed : Bool)
    (column : Int) :
    (reading c waiting first inner outer keyAllowed).unroll column =
      reading c waiting first inner outer keyAllowed := by
  unfold unroll
  split <;> rfl

/-- Blanks of JSON take a state to one at the next token; the candidates that they make stale are
gone then. -/
theorem advance_reading (c : Cursor) (waiting : List Placed) (first : Nat)
    (inner : List (Option Candidate)) (outer : Option Candidate) (keyAllowed : Bool)
    (ws tail : List Char) (hrest : c.rest = ws ++ tail)
    (hskips : skips (reading c waiting first inner outer keyAllowed).flow keyAllowed ws = true)
    (htail : startsToken tail) (hinner : inner.all isOptional = true)
    (houter : isOptional outer = true) :
    ∃ c' keyAllowed', c'.rest = tail ∧
      ((reading c waiting first inner outer keyAllowed).toNextToken (c.rest.length + 1)).dropStale =
        .ok (reading c' waiting first (inner.map (current c'.mark)) (current c'.mark outer)
          keyAllowed') ∧
      ((∀ x ∈ ws, isBreak x = false) → c' = c.steps ws.length) ∧
      ((reading c waiting first inner outer keyAllowed).flow = true →
        keyAllowed' = keyAllowed) := by
  have hfuel : ws.length < c.rest.length + 1 := by
    rw [hrest, List.length_append]
    omega
  obtain ⟨c', keyAllowed', hnext, hc', hline, hflow⟩ := toNextToken_blanks (c.rest.length + 1)
    (reading c waiting first inner outer keyAllowed) ws tail hrest hskips htail hfuel
  refine ⟨c', keyAllowed', hc', ?_, fun hno => (hline hno).1, hflow⟩
  rw [hnext]
  exact dropStale_reading c' waiting first inner outer keyAllowed' hinner houter

/-! ### Fetching -/

/-- The tokens in front pass one by one or all wait, so what is fetched at the cursor may be taken
to be fetched with any of them waiting. Those behind them wait for an inner candidate to be
settled. -/
theorem emits_of_fetch (c : Cursor) (behind : List Placed) {number : Nat} (cost : Nat)
    (inner : List (Option Candidate)) (keyAllowed : Bool) (tokens : List Token)
    (hinner : inner.all isOptional = true) (hfresh : inner.map (current c.mark) = inner)
    (hbehind : behind = [] ∨ ∃ k, some k ∈ inner ∧ k.number = number)
    (h : ∀ waiting first outer, first + waiting.length = number → isOptional outer = true →
      ∃ s, (reading c (waiting ++ behind) first inner outer keyAllowed).fetch = .ok s ∧
        Emits (cost + waiting.length) s (waiting.map Placed.token ++ tokens))
    (waiting : List Placed) (first : Nat) (outer : Option Candidate)
    (hnumber : first + waiting.length = number) (houter : isOptional outer = true) :
    Emits (cost + 1 + waiting.length) (reading c (waiting ++ behind) first inner outer keyAllowed)
      (waiting.map Placed.token ++ tokens) := by
  induction waiting generalizing first outer with
  | nil =>
    -- with nothing in front, the inner candidate alone keeps the first token
    cases behind with
    | nil =>
      obtain ⟨s, hfetch, hs⟩ := h [] first outer hnumber houter
      exact Emits.fetch rfl rfl hfetch hs
    | cons p behind =>
      obtain hnil | ⟨k, hk, hfirst⟩ := hbehind
      · cases hnil
      · have hdrop := dropStale_reading c (p :: behind) first inner outer keyAllowed hinner houter
        rw [hfresh] at hdrop
        have hopen :
            (reading c (p :: behind) first inner (current c.mark outer) keyAllowed).firstIsOpen =
              true := by
          refine List.any_eq_true.mpr ⟨some k, List.mem_append_left _ hk, ?_⟩
          simpa [reading, hfirst] using hnumber.symm
        obtain ⟨s, hfetch, hs⟩ :=
          h [] first (current c.mark outer) hnumber (isOptional_current _ _ houter)
        exact Emits.wait rfl hdrop hopen hfetch hs
  | cons p waiting ih =>
    have houter' := isOptional_current c.mark outer houter
    have hdrop := dropStale_reading c (p :: waiting ++ behind) first inner outer keyAllowed hinner
      houter
    rw [hfresh] at hdrop
    -- the candidate of the block level may keep the first token, and with it all of them
    cases hopen : (reading c (p :: waiting ++ behind) first inner (current c.mark outer)
      keyAllowed).firstIsOpen with
    | true =>
      obtain ⟨s, hfetch, hs⟩ := h (p :: waiting) first (current c.mark outer) hnumber houter'
      exact (Emits.wait rfl hdrop hopen hfetch hs).mono (by omega)
    | false =>
      have hrest := ih (first + 1) (current c.mark outer)
        (by rw [← hnumber, List.length_cons]; omega) houter'
      exact Emits.pop rfl hdrop hopen hrest

/-! ### The end of a text -/

theorem emits_ended (c : Cursor) (waiting : List Placed) (first : Nat) :
    Emits (waiting.length + 1) ⟨c, waiting, first, [none], -1, [], false, true⟩
      (waiting.map Placed.token) := by
  induction waiting generalizing first with
  | nil => exact Emits.done _ rfl rfl
  | cons p waiting ih => exact Emits.pop rfl rfl rfl (ih (first + 1))

theorem fetchEnd_reading (c : Cursor) (waiting : List Placed) (first : Nat)
    (outer : Option Candidate) (keyAllowed : Bool) (houter : isOptional outer = true) :
    ∃ c' m, (reading c waiting first [] outer keyAllowed).fetchEnd =
      .ok ⟨c', waiting ++ [⟨.streamEnd, m, m⟩], first, [none], -1, [], false, true⟩ := by
  cases outer with
  | none => exact ⟨_, _, rfl⟩
  | some k =>
    obtain ⟨number, began, required⟩ := k
    obtain rfl : required = false := by simpa [isOptional] using houter
    exact ⟨_, _, rfl⟩

theorem fetch_end (c : Cursor) (waiting : List Placed) (first : Nat) (outer : Option Candidate)
    (hblanks : skips false false c.rest = true) (houter : isOptional outer = true) :
    ∃ c' m, (reading c waiting first [] outer false).fetch =
      .ok ⟨c', waiting ++ [⟨.streamEnd, m, m⟩], first, [none], -1, [], false, true⟩ := by
  obtain ⟨c', keyAllowed, hc', hready, -⟩ := advance_reading c waiting first [] outer false
    c.rest [] (List.append_nil _).symm hblanks (by simp [startsToken]) rfl houter
  have hcursor (o : Option Candidate) :
      (reading c' waiting first [] o keyAllowed).cursor = c' := rfl
  rw [fetch, show (reading c waiting first [] outer false).cursor = c from rfl, hready]
  simp only [bind, Except.bind, List.map_nil]
  rw [unroll_reading, hcursor, hc']
  exact fetchEnd_reading c' waiting first _ keyAllowed (isOptional_current _ _ houter)

theorem emits_end (c : Cursor) (waiting : List Placed) (first : Nat) (outer : Option Candidate)
    (hblanks : skips false false c.rest = true) (houter : isOptional outer = true) :
    Emits (3 + waiting.length) (reading c waiting first [] outer false)
      (waiting.map Placed.token ++ [.streamEnd]) := by
  have hfetch (waiting : List Placed) (first : Nat) (outer : Option Candidate)
      (houter : isOptional outer = true) :
      ∃ s, (reading c (waiting ++ []) first [] outer false).fetch = .ok s ∧
        Emits (2 + waiting.length) s (waiting.map Placed.token ++ [.streamEnd]) := by
    obtain ⟨c', m, hfetch⟩ := fetch_end c waiting first outer hblanks houter
    have hended := emits_ended c' (waiting ++ [⟨.streamEnd, m, m⟩]) first
    rw [List.map_append] at hended
    rw [List.append_nil]
    exact ⟨_, hfetch, hended.mono (by simp; omega)⟩
  have hemits := emits_of_fetch c [] 2 [] false [.streamEnd] rfl rfl (.inl rfl)
    (fun waiting first outer _ => hfetch waiting first outer) waiting first outer rfl houter
  rwa [List.append_nil] at hemits

end ScriptPress.Yaml.Scanner
