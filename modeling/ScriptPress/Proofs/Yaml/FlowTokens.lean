import ScriptPress.Proofs.Yaml.Emission

/-!
# The tokens of a JSON object

Inside the braces of a JSON object the scanner goes from sign to sign; only the token of a name
waits for its colon, which makes it a key. The object is read from its end to its start: each
statement says what a text becomes if what comes after it becomes some tokens. Main statement:
`tokens_object`.
-/
namespace ScriptPress.Yaml.Scanner

/-! ### Signs -/

/-- What the sign of a JSON object is read with inside its braces. -/
def readSign (s : Scanner) (x : Char) : Except Fault Scanner :=
  if x = '"' then s.fetchQuoted .doubleQuoted
  else if x = ':' then s.fetchValue
  else if x = ',' then s.fetchFlowEntry
  else if x = '\x7d' then s.fetchFlowEnd .flowMappingEnd
  else s.fetchPlain

theorem atDocumentSign_of_head (c : Cursor) (sign x : Char) (after : List Char)
    (hrest : c.rest = x :: after) (hx : x ≠ sign) : c.atDocumentSign sign = false := by
  unfold Cursor.atDocumentSign
  rw [hrest]
  cases after with
  | nil => simp
  | cons y after =>
    cases after with
    | nil => simp
    | cons z after => simp [hx]

/-- Inside the braces the next token is read from the next sign, past all blanks. -/
theorem fetch_inFlow (c : Cursor) (waiting : List Placed) (first : Nat)
    (inner outer : Option Candidate) (keyAllowed : Bool) (ws after : List Char) (x : Char)
    (hinner : isOptional inner = true) (houter : isOptional outer = true)
    (hrest : c.rest = ws ++ x :: after) (hws : ∀ y ∈ ws, Json.isSpace y = true)
    (hx : x ∈ ['"', ':', ',', '\x7d', 'n']) :
    ∃ c', c'.rest = x :: after ∧
      ((∀ y ∈ ws, isBreak y = false) → c' = c.steps ws.length) ∧
      (reading c waiting first [inner] outer keyAllowed).fetch =
        (reading c' waiting first [current c'.mark inner] (current c'.mark outer)
          keyAllowed).readSign x := by
  have hstarts : startsToken (x :: after) := by
    intro y hy
    obtain rfl : x = y := Option.some.inj hy
    simp only [List.mem_cons, List.not_mem_nil, or_false] at hx
    obtain rfl | rfl | rfl | rfl | rfl := hx <;> decide
  obtain ⟨c', ka, hc', hready, hline, hkept⟩ := advance_reading c waiting first [inner] outer
    keyAllowed ws (x :: after) hrest (skips_flow keyAllowed ws hws) hstarts (by simp [hinner])
    houter
  obtain rfl : ka = keyAllowed := hkept rfl
  refine ⟨c', hc', hline, ?_⟩
  have hcursor (i o : Option Candidate) : (reading c' waiting first [i] o ka).cursor = c' := rfl
  have hflow (i o : Option Candidate) : (reading c' waiting first [i] o ka).flow = true := rfl
  have hminus := atDocumentSign_of_head c' '-' x after hc' (by
    rintro rfl
    simp at hx)
  have hdot := atDocumentSign_of_head c' '.' x after hc' (by
    rintro rfl
    simp at hx)
  rw [fetch, show (reading c waiting first [inner] outer ka).cursor = c from rfl, hready]
  simp only [bind, Except.bind, List.map_cons, List.map_nil]
  rw [unroll_reading, hcursor, hc']
  simp only [hminus, hdot, hflow, Bool.false_eq_true, if_false, true_or, and_true, Bool.not_true,
    and_false]
  -- the signs are told apart in another order than in `fetch`
  simp only [List.mem_cons, List.not_mem_nil, or_false] at hx
  obtain rfl | rfl | rfl | rfl | rfl := hx <;>
    simp [readSign, startsPlain, isBlank, isBreak, isFlowSign]

/-- Whether inside the braces a text becomes these tokens, whatever waits in front of them. -/
def Reads (keyAllowed : Bool) (text : List Char) (tokens : List Token) : Prop :=
  ∀ c waiting first outer, c.rest = text → isOptional outer = true →
    Emits (2 * text.length + 3 + waiting.length) (reading c waiting first [none] outer keyAllowed)
      (waiting.map Placed.token ++ tokens)

theorem reads_of_sign {keyAllowed : Bool} {ws : List Char} (x : Char) (after : List Char)
    {tokens : List Token}
    (hws : ∀ y ∈ ws, Json.isSpace y = true) (hx : x ∈ ['"', ':', ',', '\x7d', 'n'])
    (h : ∀ c waiting first outer, c.rest = x :: after → isOptional outer = true →
      ∃ s, (reading c waiting first [none] outer keyAllowed).readSign x = .ok s ∧
        Emits (2 * after.length + 4 + waiting.length) s (waiting.map Placed.token ++ tokens)) :
    Reads keyAllowed (ws ++ x :: after) tokens := by
  intro c waiting first outer hrest houter
  have hemits := emits_of_fetch c [] (2 * after.length + 4) [none] keyAllowed tokens rfl rfl
    (.inl rfl)
    (fun waiting first outer _ houter => by
      obtain ⟨c', hc', -, hfetch⟩ := fetch_inFlow c waiting first none outer keyAllowed ws after x
        rfl houter hrest hws hx
      obtain ⟨s, hs, hemits⟩ := h c' waiting first (current c'.mark outer) hc'
        (isOptional_current _ _ houter)
      exact ⟨s, by rw [List.append_nil, hfetch]; exact hs, hemits⟩)
    waiting first outer rfl houter
  rw [List.append_nil] at hemits
  exact hemits.mono (by simp only [List.length_append, List.length_cons]; omega)

theorem reading_rest_step {c : Cursor} {x : Char} {after : List Char} (h : c.rest = x :: after) :
    (c.steps 1).rest = after := by
  rw [Cursor.steps, h]
  rfl

/-! ### Signs of a JSON object -/

theorem Reads.behind {keyAllowed : Bool} {text : List Char} {tokens : List Token}
    (h : Reads keyAllowed text tokens) (c : Cursor) (waiting pushed : List Placed) (first : Nat)
    (outer : Option Candidate) (hrest : c.rest = text) (houter : isOptional outer = true) :
    Emits (2 * text.length + 3 + waiting.length + pushed.length)
      (reading c (waiting ++ pushed) first [none] outer keyAllowed)
      (waiting.map Placed.token ++ (pushed.map Placed.token ++ tokens)) := by
  have hemits := h c (waiting ++ pushed) first outer hrest houter
  rw [List.map_append, List.append_assoc] at hemits
  exact hemits.mono (by rw [List.length_append]; omega)

theorem Reads.comma {keyAllowed : Bool} {ws text : List Char} {tokens : List Token}
    (h : Reads true text tokens) (hws : ∀ y ∈ ws, Json.isSpace y = true) :
    Reads keyAllowed (ws ++ ',' :: text) (.flowEntry :: tokens) := by
  refine reads_of_sign ',' text hws (by decide) fun c waiting first outer hrest houter => ?_
  refine ⟨reading (c.steps 1) (waiting ++ [⟨.flowEntry, c.mark, (c.steps 1).mark⟩]) first [none]
    outer true, rfl, ?_⟩
  exact (h.behind (c.steps 1) waiting [_] first outer (reading_rest_step hrest) houter).mono
    (by simp only [List.length_cons, List.length_nil]; omega)

/-- A string where no key may start. -/
theorem Reads.string {ws text xs : List Char} {gs : List Json.Glyph} {tokens : List Token}
    (h : Reads false text tokens) (hws : ∀ y ∈ ws, Json.isSpace y = true)
    (hgs : ∀ g ∈ gs, isStringGlyph g = true) (hxs : gs.mapM Json.Glyph.char? = some xs) :
    Reads false (ws ++ (Json.stringText gs ++ text)) (.scalar xs .doubleQuoted :: tokens) := by
  refine reads_of_sign '"' ((gs.flatMap Json.Glyph.text ++ ['"']) ++ text) hws (by decide)
    fun c waiting first outer hrest houter => ?_
  have hquoted := quoted_string gs xs text c hxs hgs hrest
  have hafter := Cursor.steps_rest c (Json.stringText gs) text hrest
  refine ⟨reading (c.steps (Json.stringText gs).length)
    (waiting ++ [⟨.scalar xs .doubleQuoted, c.mark, (c.steps (Json.stringText gs).length).mark⟩])
    first [none] outer false, ?_, ?_⟩
  · show fetchQuoted _ _ = _
    rw [fetchQuoted]
    show (do
      let scalar ← quoted false c
      _ : Except Fault Scanner) = _
    rw [hquoted]
    rfl
  · exact (h.behind _ waiting [_] first outer hafter houter).mono
      (by simp only [List.length_append, List.length_cons, List.length_nil]; omega)

/-! ### The word `null` -/

theorem plainWord_null (text : List Char)
    (h : ∀ x ∈ text.head?, (isBlank x || isBreak x) = true ∨ x = ',' ∨ x = '\x7d') :
    plainWord true ('n' :: 'u' :: 'l' :: 'l' :: text) = (4, false) := by
  have hend : plainWord true text = (0, false) := by
    cases text with
    | nil => rfl
    | cons x text =>
      rw [plainWord]
      obtain hx | rfl | rfl := h x rfl
      · simp [hx]
      · rfl
      · rfl
  simp [plainWord, hend, isBlank, isBreak, isFlowSign]

/-- The word is read together with the blanks up to the next sign. -/
theorem plain_null (ws text : List Char) (x : Char) (c : Cursor)
    (hrest : c.rest = 'n' :: 'u' :: 'l' :: 'l' :: (ws ++ x :: text))
    (hws : ∀ y ∈ ws, Json.isSpace y = true) (hx : x = ',' ∨ x = '\x7d') :
    ∃ stop c' broken, plain true 0 c = .ok ⟨['n', 'u', 'l', 'l'], stop, c', broken⟩ ∧
      c'.rest = x :: text := by
  have hstarts : startsToken (x :: text) := by
    intro y hy
    obtain rfl : x = y := Option.some.inj hy
    obtain rfl | rfl := hx <;> decide
  have hafter : (c.steps 4).rest = ws ++ x :: text := by
    rw [Cursor.steps, hrest]
    rfl
  obtain ⟨gap, c', hgap, hc'⟩ := readAll_blanks ws (x :: text) (c.steps 4) hafter hws hstarts
  have hword : plainWord true c.rest = (4, false) := by
    rw [hrest]
    refine plainWord_null _ fun y hy => ?_
    cases ws with
    | nil =>
      obtain rfl : x = y := Option.some.inj hy
      exact .inr hx
    | cons w ws =>
      obtain rfl : w = y := Option.some.inj hy
      exact .inl (blank_or_break_of_isSpace (hws w List.mem_cons_self))
  have hend : plainWord true c'.rest = (0, false) := by
    rw [hc', plainWord]
    obtain rfl | rfl := hx <;> rfl
  have hseparator (d : Cursor) (y : Char) (after : List Char) (hd : d.rest = y :: after)
      (hminus : y ≠ '-') (hdot : y ≠ '.') : d.atDocumentSeparator = false := by
    rw [Cursor.atDocumentSeparator, atDocumentSign_of_head d '-' y after hd hminus,
      atDocumentSign_of_head d '.' y after hd hdot]
    rfl
  have hfirst := hseparator c 'n' _ hrest (by decide) (by decide)
  have hsecond := hseparator c' x text hc' (by obtain rfl | rfl := hx <;> decide)
    (by obtain rfl | rfl := hx <;> decide)
  have hsign : c.sees '#' = false := by
    rw [Cursor.sees, hrest]
    rfl
  have hsign' : c'.sees '#' = false := by
    rw [Cursor.sees, hc']
    obtain rfl | rfl := hx <;> rfl
  have htake : c.rest.take 4 = ['n', 'u', 'l', 'l'] := by rw [hrest]; rfl
  obtain ⟨n, hn⟩ : ∃ n, c.rest.length + 1 = n + 2 :=
    ⟨c.rest.length - 1, by rw [hrest]; simp only [List.length_cons]; omega⟩
  refine ⟨(c.steps 4).mark, c', gap.broken, ?_, hc'⟩
  rw [plain, hn, plainFrom]
  simp only [hfirst, hsign, hword, hgap, htake, Bool.or_self, Bool.false_eq_true, if_false,
    Bool.not_true, Bool.false_and, Nat.reduceEqDiff]
  rw [plainFrom]
  simp only [hsecond, hsign', hend, Bool.or_self, Bool.false_eq_true, if_false, if_true]
  rfl

theorem Reads.null {ws blanks text : List Char} {x : Char} {tokens : List Token}
    (h : ∀ keyAllowed, Reads keyAllowed (x :: text) tokens)
    (hws : ∀ y ∈ ws, Json.isSpace y = true) (hblanks : ∀ y ∈ blanks, Json.isSpace y = true)
    (hx : x = ',' ∨ x = '\x7d') :
    Reads false (ws ++ 'n' :: 'u' :: 'l' :: 'l' :: (blanks ++ x :: text))
      (.scalar ['n', 'u', 'l', 'l'] .plain :: tokens) := by
  refine reads_of_sign 'n' ('u' :: 'l' :: 'l' :: (blanks ++ x :: text)) hws (by decide)
    fun c waiting first outer hrest houter => ?_
  obtain ⟨stop, c', broken, hplain, hc'⟩ := plain_null blanks text x c hrest hblanks hx
  refine ⟨reading c' (waiting ++ [⟨.scalar ['n', 'u', 'l', 'l'] .plain, c.mark, stop⟩]) first [none]
    outer broken, ?_, ?_⟩
  · show fetchPlain _ = _
    rw [fetchPlain]
    show (do
      let scalar ← plain true 0 c
      _ : Except Fault Scanner) = _
    rw [hplain]
    rfl
  · exact ((h broken).behind c' waiting [_] first outer hc' houter).mono
      (by simp only [List.length_append, List.length_cons, List.length_nil]; omega)

/-! ### Names -/

theorem current_of_line (c : Cursor) (k : Candidate) (size : Nat)
    (hline : k.mark.line = c.mark.line) (hindex : c.mark.index + size ≤ k.mark.index + 1024) :
    current (c.steps size).mark (some k) = some k := by
  have hfresh : Candidate.isStale k (c.steps size).mark = false := by
    simp [Candidate.isStale, Cursor.steps, hline, Nat.not_lt.mpr hindex]
  simp [current, Option.filter, hfresh]

theorem fetchValue_name (c : Cursor) (waiting : List Placed) (p : Placed) (first : Nat)
    (k : Candidate) (outer : Option Candidate) (hnumber : first + waiting.length = k.number) :
    (reading c (waiting ++ [p]) first [some k] outer false).fetchValue =
      .ok (reading (c.steps 1)
        (waiting ++ [⟨.key, k.mark, k.mark⟩, p, ⟨.value, c.mark, (c.steps 1).mark⟩]) first [none]
        outer false) := by
  have hinsert (s : Scanner) (hwaiting : s.waiting = waiting ++ [p]) (hfirst : s.first = first) :
      s.insertAt k.number .key k.mark =
        { s with waiting := waiting ++ [⟨.key, k.mark, k.mark⟩, p] } := by
    simp [insertAt, hwaiting, hfirst, ← hnumber]
  rw [fetchValue, reading]
  dsimp only [List.cons_append, List.nil_append]
  rw [hinsert _ rfl rfl]
  simp [roll, flow, reading, sign, push, mark, pure, Except.pure]

/-- A name that waits for its colon becomes a key when it comes. -/
theorem emits_colon {c : Cursor} {ws text : List Char} {p : Placed} {k : Candidate}
    {tokens : List Token} (h : Reads false text tokens) (hrest : c.rest = ws ++ ':' :: text)
    (hws : ∀ y ∈ ws, Json.isSpace y = true) (hbreak : ∀ y ∈ ws, isBreak y = false)
    (hrequired : k.required = false) (hline : k.mark.line = c.mark.line)
    (hindex : c.mark.index + ws.length ≤ k.mark.index + 1024) (waiting : List Placed) (first : Nat)
    (outer : Option Candidate) (hnumber : first + waiting.length = k.number)
    (houter : isOptional outer = true) :
    Emits (2 * text.length + 7 + waiting.length)
      (reading c (waiting ++ [p]) first [some k] outer false)
      (waiting.map Placed.token ++ .key :: p.token :: .value :: tokens) := by
  have hinner : isOptional (some k) = true := by simp [isOptional, hrequired]
  have hhere : current c.mark (some k) = some k := current_of_line c k 0 hline (by omega)
  have hthere := current_of_line c k ws.length hline hindex
  refine emits_of_fetch c [p] (2 * text.length + 6) [some k] false
    (.key :: p.token :: .value :: tokens) (by simp [hinner]) (by simp [hhere])
    (.inr ⟨k, by simp, rfl⟩) ?_ waiting first outer hnumber houter
  intro waiting first outer hnumber houter
  obtain ⟨c', hc', hsteps, hfetch⟩ := fetch_inFlow c (waiting ++ [p]) first (some k) outer false ws
    text ':' hinner houter hrest hws (by decide)
  obtain rfl := hsteps hbreak
  rw [hthere] at hfetch
  refine ⟨_, hfetch.trans (fetchValue_name _ waiting p first k _ hnumber), ?_⟩
  exact (h.behind _ waiting [_, p, _] first _ (reading_rest_step hc')
    (isOptional_current _ _ houter)).mono (by simp only [List.length_cons, List.length_nil]; omega)

/-- A string with a colon after it on the same line, not too far on, where a key may start. -/
theorem Reads.name {ws blanks text xs : List Char} {gs : List Json.Glyph} {tokens : List Token}
    (h : Reads false text tokens) (hws : ∀ y ∈ ws, Json.isSpace y = true)
    (hgs : ∀ g ∈ gs, isStringGlyph g = true) (hxs : gs.mapM Json.Glyph.char? = some xs)
    (hblanks : ∀ y ∈ blanks, Json.isSpace y = true) (hbreak : ∀ y ∈ blanks, isBreak y = false)
    (hlength : (Json.stringText gs).length + blanks.length ≤ 1024) :
    Reads true (ws ++ (Json.stringText gs ++ (blanks ++ ':' :: text)))
      (.key :: .scalar xs .doubleQuoted :: .value :: tokens) := by
  refine reads_of_sign '"' ((gs.flatMap Json.Glyph.text ++ ['"']) ++ (blanks ++ ':' :: text)) hws
    (by decide) fun c waiting first outer hrest houter => ?_
  have hquoted := quoted_string gs xs (blanks ++ ':' :: text) c hxs hgs hrest
  have hafter := Cursor.steps_rest c (Json.stringText gs) _ hrest
  refine ⟨reading (c.steps (Json.stringText gs).length)
    (waiting ++ [⟨.scalar xs .doubleQuoted, c.mark, (c.steps (Json.stringText gs).length).mark⟩])
    first [some ⟨first + waiting.length, c.mark, false⟩] outer false, ?_, ?_⟩
  · show fetchQuoted _ _ = _
    rw [fetchQuoted]
    show (do
      let scalar ← quoted false c
      _ : Except Fault Scanner) = _
    rw [hquoted]
    rfl
  · have hindex : (c.steps (Json.stringText gs).length).mark.index + blanks.length ≤
        c.mark.index + 1024 := by
      simp only [Cursor.steps]
      omega
    exact (emits_colon h hafter hblanks hbreak rfl rfl hindex waiting first outer rfl houter).mono
      (by simp only [List.length_append, List.length_cons, List.length_nil]; omega)

/-! ### The closing brace -/

theorem reads_brace {keyAllowed : Bool} {ws trail : List Char}
    (hws : ∀ y ∈ ws, Json.isSpace y = true) (htrail : skips false false trail = true) :
    Reads keyAllowed (ws ++ '\x7d' :: trail) [.flowMappingEnd, .streamEnd] := by
  refine reads_of_sign '\x7d' trail hws (by decide) fun c waiting first outer hrest houter => ?_
  have hafter := reading_rest_step hrest
  refine ⟨reading (c.steps 1) (waiting ++ [⟨.flowMappingEnd, c.mark, (c.steps 1).mark⟩]) first []
    outer false, rfl, ?_⟩
  have hemits := emits_end (c.steps 1) (waiting ++ [⟨.flowMappingEnd, c.mark, (c.steps 1).mark⟩])
    first outer (by rw [hafter]; exact htrail) houter
  rw [List.map_append, List.append_assoc] at hemits
  exact hemits.mono (by simp; omega)

/-! ### The start of a text -/

theorem fetchFlowStart_reading (c : Cursor) (keyAllowed : Bool) :
    ∃ outer p, isOptional outer = true ∧ p.token = .flowMappingStart ∧
      (reading c [] 0 [] none keyAllowed).fetchFlowStart .flowMappingStart =
        .ok (reading (c.steps 1) [p] 0 [none] outer true) := by
  cases keyAllowed with
  | false => exact ⟨none, _, rfl, rfl, rfl⟩
  | true => exact ⟨_, _, by rfl, rfl, rfl⟩

theorem fetch_start (lead text : List Char) (hlead : skips false true lead = true) :
    ∃ c outer p, c.rest = text ∧ isOptional outer = true ∧ p.token = .flowMappingStart ∧
      (reading (Cursor.start (lead ++ '\x7b' :: text)) [] 0 [] none true).fetch =
        .ok (reading c [p] 0 [none] outer true) := by
  have hstarts : startsToken ('\x7b' :: text) := by
    intro y hy
    obtain rfl : '\x7b' = y := Option.some.inj hy
    decide
  obtain ⟨c', ka, hc', hready, -⟩ := advance_reading (Cursor.start (lead ++ '\x7b' :: text)) [] 0 []
    none true lead ('\x7b' :: text) rfl hlead hstarts rfl rfl
  have hnone : current c'.mark none = none := rfl
  have hcursor : (reading c' [] 0 [] none ka).cursor = c' := rfl
  have hminus := atDocumentSign_of_head c' '-' '\x7b' text hc' (by decide)
  have hdot := atDocumentSign_of_head c' '.' '\x7b' text hc' (by decide)
  obtain ⟨outer, p, houter, hp, hfetch⟩ := fetchFlowStart_reading c' ka
  refine ⟨c'.steps 1, outer, p, reading_rest_step hc', houter, hp, ?_⟩
  rw [fetch, show (reading (Cursor.start (lead ++ '\x7b' :: text)) [] 0 [] none true).cursor =
    Cursor.start (lead ++ '\x7b' :: text) from rfl, hready]
  simp only [bind, Except.bind, List.map_nil]
  rw [hnone, unroll_reading, hcursor, hc']
  simp [hminus, hdot, hfetch]

theorem emits_start {lead text : List Char} {tokens : List Token} (h : Reads true text tokens)
    (hlead : skips false true lead = true) :
    Emits (2 * text.length + 5) (start (lead ++ '\x7b' :: text)) (.flowMappingStart :: tokens) := by
  obtain ⟨c, outer, p, hrest, houter, hp, hfetch⟩ := fetch_start lead text hlead
  have hemits := h.behind c [] [p] 0 outer hrest houter
  rw [List.map_cons, hp] at hemits
  exact Emits.fetch rfl rfl hfetch hemits

/-! ### Objects -/

/-- Whether a member is one for YAML too: its strings hold no surrogate pair and no line break of
YAML, and its colon is on the line of the name, at most 1024 characters from where that starts. -/
def isYamlMember (m : Json.Member) : Bool :=
  m.name.all isStringGlyph && m.value.all (·.all isStringGlyph) &&
    m.beforeColon.all (!isBreak ·) &&
    decide ((Json.stringText m.name).length + m.beforeColon.length ≤ 1024)

/-- Whether an object is one for YAML too: all its characters may be written in YAML, and outside of
the braces no tab stands where a key may start. This leaves out a few objects that YAML reads as JSON
does: U+2028 and U+2029 in a string end a line there, and YAML keeps them as they are. -/
def isYamlObject (o : Json.Object) : Bool :=
  o.text.all isAllowed && o.members.all isYamlMember && skips false true o.lead &&
    skips false false o.trail

def valueToken : Option (List Char) → Token
  | some s => .scalar s .doubleQuoted
  | none => .scalar ['n', 'u', 'l', 'l'] .plain

def memberTokens (m : List Char × Option (List Char)) : List Token :=
  [.key, .scalar m.1 .doubleQuoted, .value, valueToken m.2]

def moreTokens (ms : List (List Char × Option (List Char))) : List Token :=
  ms.flatMap fun m => .flowEntry :: memberTokens m

theorem length_moreTokens (ms : List (List Char × Option (List Char))) :
    (moreTokens ms).length = 5 * ms.length := by
  simp [moreTokens, memberTokens, List.length_flatMap, List.map_const', Nat.mul_comm]

def followsMember (tail : List Char) : Prop :=
  ∃ x text, tail = x :: text ∧ (x = ',' ∨ x = '\x7d')

theorem reads_value {m : Json.Member} {value : Option (List Char)} {tail : List Char}
    {tokens : List Token}
    (h : ∀ keyAllowed ws, (∀ y ∈ ws, Json.isSpace y = true) → Reads keyAllowed (ws ++ tail) tokens)
    (htail : followsMember tail) (hvalue : m.saidValue? = some value)
    (hgs : m.value.all (·.all isStringGlyph) = true)
    (hafterColon : ∀ y ∈ m.afterColon, Json.isSpace y = true)
    (hafter : ∀ y ∈ m.after, Json.isSpace y = true) :
    Reads false (m.afterColon ++ (m.valueText ++ (m.after ++ tail)))
      (valueToken value :: tokens) := by
  unfold Json.Member.saidValue? at hvalue
  unfold Json.Member.valueText
  cases hm : m.value with
  | some gs =>
    rw [hm] at hvalue hgs
    obtain ⟨xs, hxs, rfl⟩ := Option.map_eq_some_iff.mp hvalue
    exact Reads.string (h false m.after hafter) hafterColon (by simpa using hgs) hxs
  | none =>
    rw [hm] at hvalue
    obtain rfl := Option.some.inj hvalue
    obtain ⟨x, text, rfl, hx⟩ := htail
    exact Reads.null (fun keyAllowed => h keyAllowed [] (by simp)) hafterColon hafter hx

theorem reads_member {m : Json.Member} {said : List Char × Option (List Char)} {tail : List Char}
    {tokens : List Token}
    (h : ∀ keyAllowed ws, (∀ y ∈ ws, Json.isSpace y = true) → Reads keyAllowed (ws ++ tail) tokens)
    (htail : followsMember tail) (hsaid : m.says? = some said) (hm : isYamlMember m = true) :
    Reads true (m.text ++ tail) (memberTokens said ++ tokens) := by
  obtain ⟨hname, hvalue, hbefore, hbeforeColon, hafterColon, hafter⟩ := m.parts_of_says said hsaid
  simp only [isYamlMember, Bool.and_eq_true, decide_eq_true_eq] at hm
  obtain ⟨⟨⟨hnameGlyphs, hvalueGlyphs⟩, hbreak⟩, hlength⟩ := hm
  have htext : m.text ++ tail = m.before ++ (Json.stringText m.name ++ (m.beforeColon ++
      ':' :: (m.afterColon ++ (m.valueText ++ (m.after ++ tail))))) := by
    simp [Json.Member.text]
  rw [htext]
  exact Reads.name (reads_value h htail hvalue hvalueGlyphs hafterColon hafter) hbefore
    (by simpa using hnameGlyphs) hname hbeforeColon (by simpa using hbreak) hlength

theorem reads_more (ms : List Json.Member) (said : List (List Char × Option (List Char)))
    (trail : List Char) (hsaid : ms.mapM Json.Member.says? = some said)
    (hms : ∀ m ∈ ms, isYamlMember m = true) (htrail : skips false false trail = true) :
    followsMember (ms.flatMap (fun m => ',' :: m.text) ++ '\x7d' :: trail) ∧
      ∀ keyAllowed ws, (∀ y ∈ ws, Json.isSpace y = true) →
        Reads keyAllowed (ws ++ (ms.flatMap (fun m => ',' :: m.text) ++ '\x7d' :: trail))
          (moreTokens said ++ [.flowMappingEnd, .streamEnd]) := by
  induction ms generalizing said with
  | nil =>
    obtain rfl : [] = said := Option.some.inj hsaid
    exact ⟨⟨'\x7d', trail, rfl, .inr rfl⟩, fun _ ws hws => reads_brace hws htrail⟩
  | cons m ms ih =>
    obtain ⟨first, more, hfirst, hmore, rfl⟩ := Json.exists_of_mapM_cons hsaid
    obtain ⟨htail, hrest⟩ := ih more hmore fun m hm => hms m (List.mem_cons_of_mem _ hm)
    refine ⟨⟨',', _, rfl, .inl rfl⟩, fun keyAllowed ws hws => ?_⟩
    have hmember : Reads keyAllowed _ _ :=
      (reads_member hrest htail hfirst (hms m List.mem_cons_self)).comma hws
    simpa [moreTokens] using hmember

def objectTokens (said : List (List Char × Option (List Char))) : List Token :=
  match said with
  | [] => [.flowMappingStart, .flowMappingEnd, .streamEnd]
  | first :: more =>
    .flowMappingStart :: (memberTokens first ++ (moreTokens more ++ [.flowMappingEnd, .streamEnd]))

theorem firstForbidden?_of_allowed (offset : Nat) (text : List Char)
    (h : text.all isAllowed = true) : firstForbidden? offset text = none := by
  induction text generalizing offset with
  | nil => rfl
  | cons x text ih =>
    rw [List.all_cons, Bool.and_eq_true] at h
    rw [firstForbidden?, if_pos h.1]
    exact ih _ h.2

/-- The tokens of an object that is one for YAML too are those of what it says. -/
theorem tokens_object (o : Json.Object) (said : List (List Char × Option (List Char)))
    (hsaid : o.says? = some said) (ho : isYamlObject o = true) :
    ∃ placed, tokens o.text = (placed, none) ∧ placed.map Placed.token = objectTokens said := by
  simp only [isYamlObject, Json.Object.members, List.all_cons, Bool.and_eq_true,
    List.all_eq_true] at ho
  obtain ⟨⟨⟨hallowed, hfirstMember, hmembers⟩, hlead⟩, htrail⟩ := ho
  obtain ⟨first, more, rfl, hfirst, hmore⟩ := o.parts_of_says said hsaid
  obtain ⟨htail, hrest⟩ := reads_more o.rest more o.trail hmore hmembers htrail
  have hobject := emits_start (reads_member hrest htail hfirst hfirstMember) hlead
  have hlength : o.text.length = o.lead.length + 1 +
      (o.first.text ++ (o.rest.flatMap (fun m => ',' :: m.text) ++ '\x7d' :: o.trail)).length := by
    simp only [Json.Object.text, List.length_append, List.length_cons]
    omega
  rw [tokens, firstForbidden?_of_allowed 0 o.text (List.all_eq_true.mpr hallowed)]
  exact hobject _ (by omega)

end ScriptPress.Yaml.Scanner
