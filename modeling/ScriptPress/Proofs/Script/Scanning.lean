import ScriptPress.Script.Frame

/-!
# Scanning literals

How a language reads one of its string literals, from behind the opening quote to the closing
quote. Main statement: where the rules of a language read back what is written for each character
of a text, scanning the written literal gives the text again and stops right behind the closing
quote, whatever follows. The rules of ECMAScript do so for every text, those of Ruby for every text
without LF, CR and TAB.
-/
namespace ScriptPress.Script

/-! ### Rules -/

structure LiteralRules where
  /-- What a backslash and the character behind it stand for, where the two are an escape. -/
  escaped? : Char → Option Char
  /-- Whether a backslash that starts no escape stands for itself; if not, the text is no literal. -/
  keepsBackslash : Bool
  /-- Whether a character may stand for itself. -/
  allows : Char → Bool

/-- Ruby in single quotes: only the backslash and the quote can be escaped, and every other
backslash stands for itself. -/
def LiteralRules.ruby : LiteralRules where
  escaped? c := if c = '\\' ∨ c = '\'' then some c else none
  keepsBackslash := true
  allows _ := true

/-- ECMAScript: LF, CR, TAB, the backslash and both quotes have escapes, and a line break cannot
stand for itself. Escapes beyond these are refused. -/
def LiteralRules.ecmaScript : LiteralRules where
  escaped? c :=
    if c = 'n' then some '\n'
    else if c = 'r' then some '\r'
    else if c = 't' then some '\t'
    else if c = '\\' ∨ c = '\'' ∨ c = '"' then some c
    else none
  keepsBackslash := false
  allows c := c ≠ '\n' && c ≠ '\r'

def LiteralRules.ofFamily : Family → LiteralRules
  | .ruby => .ruby
  | .ecmaScript => .ecmaScript

/-! ### Scanning -/

def pushed (c : Char) (p : List Char × List Char) : List Char × List Char := (c :: p.1, p.2)

/-- Reads a literal from behind its opening quote on: its value, and what follows the closing
quote. -/
def scan (rules : LiteralRules) (quote : Char) : List Char → Option (List Char × List Char)
  | [] => none
  | c :: s =>
    if c = quote then some ([], s)
    else if c = '\\' then
      match s with
      | [] => none
      | d :: t =>
        match rules.escaped? d with
        | some e => (scan rules quote t).map (pushed e)
        | none => if rules.keepsBackslash then (scan rules quote (d :: t)).map (pushed c) else none
    else if rules.allows c then (scan rules quote s).map (pushed c)
    else none

theorem scan_quote (rules : LiteralRules) (quote : Char) (s : List Char) :
    scan rules quote (quote :: s) = some ([], s) := by
  rw [scan.eq_def]
  exact if_pos rfl

theorem scan_escaped (rules : LiteralRules) (quote c d : Char) (s : List Char)
    (hq : '\\' ≠ quote) (hd : rules.escaped? c = some d) :
    scan rules quote ('\\' :: c :: s) = (scan rules quote s).map (pushed d) := by
  simp only [scan, if_neg hq, ite_true, hd]

theorem scan_plain (rules : LiteralRules) (quote c : Char) (s : List Char) (hq : c ≠ quote)
    (hb : c ≠ '\\') (ha : rules.allows c = true) :
    scan rules quote (c :: s) = (scan rules quote s).map (pushed c) := by
  rw [scan.eq_def]
  simp only [if_neg hq, if_neg hb, if_pos ha]

/-! ### Reading back what is written -/

/-- The rules read what is written for a character as this character, whatever follows. -/
def LiteralRules.ReadBack (rules : LiteralRules) (quote c : Char) : Prop :=
  ∀ s, scan rules quote (escape quote c ++ s) = (scan rules quote s).map (pushed c)

/-- Scanning stops at the closing quote that was written, and not before. -/
theorem scan_escape (rules : LiteralRules) (quote : Char) (s rest : List Char)
    (h : ∀ c ∈ s, rules.ReadBack quote c) :
    scan rules quote (s.flatMap (escape quote) ++ quote :: rest) = some (s, rest) := by
  induction s with
  | nil => exact scan_quote rules quote rest
  | cons c s ih =>
    have hc := h c List.mem_cons_self
    have hs := ih fun d hd => h d (List.mem_cons_of_mem c hd)
    rw [List.flatMap_cons, List.append_assoc, hc, hs]
    rfl

theorem LiteralRules.readBack_plain (rules : LiteralRules) (quote c : Char)
    (hn : c ≠ '\n') (hr : c ≠ '\r') (ht : c ≠ '\t') (hb : c ≠ '\\') (hq : c ≠ quote)
    (ha : rules.allows c = true) : rules.ReadBack quote c := by
  intro s
  have he : escape quote c = [c] := by simp [escape, hn, hr, ht, hb, hq]
  rw [he]
  exact scan_plain rules quote c s hq hb ha

theorem LiteralRules.readBack_escaped (rules : LiteralRules) (quote c d : Char)
    (hq : '\\' ≠ quote) (he : escape quote c = ['\\', d]) (hd : rules.escaped? d = some c) :
    rules.ReadBack quote c := by
  intro s
  rw [he]
  exact scan_escaped rules quote d c s hq hd

theorem LiteralRules.readBack_ecmaScript (quote c : Char) (hq : quote = '\'' ∨ quote = '"') :
    ecmaScript.ReadBack quote c := by
  have hne : '\\' ≠ quote := by rcases hq with rfl | rfl <;> decide
  by_cases hn : c = '\n'
  · exact readBack_escaped _ quote c 'n' hne (by simp [escape, hn]) (by simp [ecmaScript, hn])
  by_cases hr : c = '\r'
  · exact readBack_escaped _ quote c 'r' hne (by simp [escape, hr]) (by simp [ecmaScript, hr])
  by_cases ht : c = '\t'
  · exact readBack_escaped _ quote c 't' hne (by simp [escape, ht]) (by simp [ecmaScript, ht])
  by_cases hb : c = '\\' ∨ c = quote
  · have hd : ecmaScript.escaped? c = some c := by
      rcases hb with rfl | rfl
      · rfl
      · rcases hq with rfl | rfl <;> rfl
    exact readBack_escaped _ quote c c hne (by simp [escape, hn, hr, ht, hb]) hd
  · rw [not_or] at hb
    exact readBack_plain _ quote c hn hr ht hb.1 hb.2 (by simp [ecmaScript, hn, hr])

theorem LiteralRules.readBack_ruby (c : Char) (hn : c ≠ '\n') (hr : c ≠ '\r') (ht : c ≠ '\t') :
    ruby.ReadBack '\'' c := by
  have hne : '\\' ≠ '\'' := by decide
  by_cases hb : c = '\\' ∨ c = '\''
  · exact readBack_escaped _ '\'' c c hne (by simp [escape, hn, hr, ht, hb])
      (by simp [ruby, hb])
  · rw [not_or] at hb
    exact readBack_plain _ '\'' c hn hr ht hb.1 hb.2 rfl

end ScriptPress.Script
