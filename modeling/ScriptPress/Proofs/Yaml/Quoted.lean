import ScriptPress.Proofs.Json.Layout
import ScriptPress.Yaml.Scalar

/-!
# JSON strings between double quotes

A JSON string is read as a quoted scalar with the characters it writes, as long as it holds no
surrogate pair and none of the characters that end a line in YAML but not in JSON. The scalar is
read in words and the gaps between them, so the string is cut at its spaces. Main statement:
`quoted_string`.
-/
namespace ScriptPress.Yaml

open Json (Glyph)

/-! ### Cursors within a line -/

namespace Cursor

theorem step_eq (c : Cursor) : c.step = c.steps 1 := by
  rw [step, steps, List.drop_one]

theorem steps_steps (c : Cursor) (a b : Nat) : (c.steps a).steps b = c.steps (a + b) := by
  simp [steps, Nat.add_assoc]

theorem steps_rest (c : Cursor) (passed rest : List Char) (h : c.rest = passed ++ rest) :
    (c.steps passed.length).rest = rest := by
  rw [steps, h, List.drop_left]

theorem atDocumentSeparator_of_column (c : Cursor) (h : c.mark.column ≠ 0) :
    c.atDocumentSeparator = false := by
  simp [atDocumentSeparator, atDocumentSign, h]

end Cursor

/-! ### Glyphs -/

theorem hex_of_lookup (c : Char) (n : Nat) (h : Json.hexDigits.lookup c = some n) :
    isHexDigit c = true ∧ hexValue c = n ∧ n < 16 := by
  have hall : ∀ p ∈ Json.hexDigits, isHexDigit p.1 = true ∧ hexValue p.1 = p.2 ∧ p.2 < 16 := by
    decide
  exact hall (c, n) (Json.mem_of_lookup h)

theorem digits_of_unitOf (digits : List Char) (n : Nat) (h : Json.unitOf? digits = some n) :
    (∃ a b c d, digits = [a, b, c, d]) ∧ digits.all isHexDigit = true ∧ hexNumber digits = n ∧
      n < 0x10000 := by
  unfold Json.unitOf? at h
  split at h
  · rename_i a b c d
    simp only [Option.bind_eq_bind, Option.bind_eq_some_iff, Option.pure_def,
      Option.some.injEq] at h
    obtain ⟨na, ha, nb, hb, nc, hc, nd, hd, rfl⟩ := h
    obtain ⟨ha₁, ha₂, ha₃⟩ := hex_of_lookup a na ha
    obtain ⟨hb₁, hb₂, hb₃⟩ := hex_of_lookup b nb hb
    obtain ⟨hc₁, hc₂, hc₃⟩ := hex_of_lookup c nc hc
    obtain ⟨hd₁, hd₂, hd₃⟩ := hex_of_lookup d nd hd
    refine ⟨⟨a, b, c, d, rfl⟩, ?_, ?_, by omega⟩
    · simp [ha₁, hb₁, hc₁, hd₁]
    · simp only [hexNumber, List.foldl_cons, List.foldl_nil, ha₂, hb₂, hc₂, hd₂]
      omega
  · cases h

/-- Whether a glyph is read as the character it writes and as part of a word. -/
def isWordGlyph : Glyph → Bool
  | .plain c => c != ' ' && !isBreak c
  | .paired _ _ => false
  | _ => true

def isStringGlyph (g : Glyph) : Bool := isWordGlyph g || g == .plain ' '

theorem doubleQuotedWord_short (sign x : Char) (s : List Char) (hbreak : isBreak sign = false)
    (hshort : shortEscape? sign = some x) :
    doubleQuotedWord ('\\' :: sign :: s) = (doubleQuotedWord s).push x 2 := by
  rw [doubleQuotedWord.eq_def]
  split
  · rename_i hnil
    cases hnil
  · rename_i hcons
    obtain ⟨-, htail⟩ := List.cons.inj hcons
    obtain ⟨rfl, rfl⟩ := List.cons.inj htail
    rw [if_neg (by simp [hbreak]), hshort]
  · rename_i hother hcons
    obtain ⟨rfl, rfl⟩ := List.cons.inj hcons
    exact (hother sign s rfl rfl).elim

theorem doubleQuotedWord_numbered (a b c d : Char) (s : List Char) :
    doubleQuotedWord ('\\' :: 'u' :: a :: b :: c :: d :: s) =
      (doubleQuotedWord s).numbered [a, b, c, d] := by
  rw [doubleQuotedWord.eq_def]
  split
  · rename_i hnil
    cases hnil
  · rename_i hcons
    obtain ⟨-, htail⟩ := List.cons.inj hcons
    obtain ⟨rfl, rfl⟩ := List.cons.inj htail
    have hshort : shortEscape? 'u' = none := by decide
    rw [if_neg (by decide), hshort]
    rfl
  · rename_i hother hcons
    obtain ⟨rfl, rfl⟩ := List.cons.inj hcons
    exact (hother _ _ rfl rfl).elim

theorem doubleQuotedWord_glyph (g : Glyph) (x : Char) (s : List Char) (h : g.char? = some x)
    (hg : isWordGlyph g = true) :
    doubleQuotedWord (g.text ++ s) = (doubleQuotedWord s).push x g.text.length := by
  cases g with
  | plain c =>
    obtain ⟨hspace, hbreak⟩ : c ≠ ' ' ∧ isBreak c = false := by simpa [isWordGlyph] using hg
    rw [Glyph.char?] at h
    split at h
    · cases h
    · rename_i hlegal
      simp only [not_or, Nat.not_lt] at hlegal
      obtain ⟨hquote, hslash, hcontrol⟩ := hlegal
      obtain rfl := Option.some.inj h
      have htab : c ≠ '\t' := by
        rintro rfl
        exact absurd hcontrol (by decide)
      have hblank : isBlank c = false := by simp [isBlank, hspace, htab]
      show doubleQuotedWord (c :: s) = _
      rw [doubleQuotedWord.eq_def]
      split
      · rename_i hnil
        cases hnil
      · rename_i hcons
        exact absurd (List.cons.inj hcons).1 hslash
      · rename_i hcons
        obtain ⟨rfl, rfl⟩ := List.cons.inj hcons
        rw [if_neg (by simp [hblank, hbreak]), if_neg hquote, if_neg hslash]
        rfl
  | short sign =>
    have hall : ∀ p ∈ Json.shortEscapes, isBreak p.1 = false ∧ shortEscape? p.1 = some p.2 := by
      decide
    obtain ⟨hbreak, hshort⟩ := hall (sign, x) (Json.mem_of_lookup h)
    exact doubleQuotedWord_short sign x s hbreak hshort
  | numbered digits =>
    rw [Glyph.char?, Option.bind_eq_some_iff] at h
    obtain ⟨n, hn, hx⟩ := h
    obtain ⟨⟨a, b, c, d, rfl⟩, hhex, hnumber, hlt⟩ := digits_of_unitOf digits n hn
    split at hx
    · cases hx
    · rename_i hsurrogate
      obtain rfl := Option.some.inj hx
      have hrange : ((0xD800 ≤ n && n ≤ 0xDFFF) || 0x10FFFF < n) = false := by
        simp [Json.isHighSurrogate, Json.isLowSurrogate] at hsurrogate
        simp
        omega
      show doubleQuotedWord ('\\' :: 'u' :: a :: b :: c :: d :: s) = _
      rw [doubleQuotedWord_numbered, Word.numbered, hnumber]
      simp only [hhex, Bool.not_true, Bool.false_eq_true, if_false, hrange]
      rfl
  | paired high low => cases hg

/-! ### Words and gaps -/

theorem doubleQuotedWord_glyphs (gs : List Glyph) (xs s : List Char)
    (h : gs.mapM Glyph.char? = some xs) (hgs : ∀ g ∈ gs, isWordGlyph g = true) :
    doubleQuotedWord (gs.flatMap Glyph.text ++ s) =
      ⟨xs ++ (doubleQuotedWord s).text,
        (gs.flatMap Glyph.text).length + (doubleQuotedWord s).size,
        (doubleQuotedWord s).ending⟩ := by
  induction gs generalizing xs with
  | nil =>
    obtain rfl : [] = xs := Option.some.inj h
    simp
  | cons g gs ih =>
    obtain ⟨x, rest, hx, hrest, rfl⟩ := Json.exists_of_mapM_cons h
    rw [List.flatMap_cons, List.append_assoc,
      doubleQuotedWord_glyph g x _ hx (hgs g List.mem_cons_self),
      ih rest hrest fun g hg => hgs g (List.mem_cons_of_mem _ hg)]
    simp [Word.push, Nat.add_assoc]

theorem doubleQuotedWord_quote (s : List Char) : doubleQuotedWord ('"' :: s) = ⟨[], 0, .quote⟩ := by
  rw [doubleQuotedWord.eq_def]
  rfl

theorem doubleQuotedWord_space (s : List Char) : doubleQuotedWord (' ' :: s) = ⟨[], 0, .gap⟩ := by
  rw [doubleQuotedWord.eq_def]
  rfl

theorem Gap.read_spaces (k : Nat) (blanks rest : List Char) (c : Cursor)
    (hrest : c.rest = List.replicate k ' ' ++ rest) :
    Gap.read 0 ⟨blanks, [], [], false⟩ k c =
      .ok (⟨blanks ++ List.replicate k ' ', [], [], false⟩, c.steps k) := by
  induction k generalizing blanks c with
  | zero =>
    rw [Gap.read, List.replicate_zero, List.append_nil]
    rfl
  | succ k ih =>
    rw [List.replicate_succ, List.cons_append] at hrest
    have hblank : isBlank ' ' = true := by decide
    have hstep : c.step.rest = List.replicate k ' ' ++ rest := by rw [Cursor.step, hrest]; rfl
    rw [Gap.read, hrest]
    simp only [hblank, if_true, Bool.false_and, Bool.false_eq_true, if_false]
    rw [ih _ _ hstep, Cursor.step_eq, Cursor.steps_steps, Nat.add_comm 1 k, List.append_assoc,
      List.replicate_succ]
    rfl

theorem Gap.readAll_spaces (k : Nat) (rest : List Char) (c : Cursor)
    (hrest : c.rest = List.replicate k ' ' ++ rest)
    (hstop : ∀ x ∈ rest.head?, isBlank x = false ∧ isBreak x = false) :
    Gap.readAll 0 Gap.none c = .ok (⟨List.replicate k ' ', [], [], false⟩, c.steps k) := by
  have hspaces : (c.rest.takeWhile fun x => isBlank x || isBreak x) = List.replicate k ' ' := by
    rw [hrest, List.takeWhile_append_of_pos]
    · cases rest with
      | nil => simp
      | cons x rest =>
        obtain ⟨hblank, hbreak⟩ := hstop x rfl
        simp [hblank, hbreak]
    · intro x hx
      obtain rfl := List.eq_of_mem_replicate hx
      decide
  rw [Gap.readAll, hspaces, List.length_replicate]
  exact Gap.read_spaces k [] rest c hrest

/-- A string is a word, then spaces and a rest that starts with another word. -/
theorem exists_cut (gs : List Glyph) (h : ∀ g ∈ gs, isStringGlyph g = true) :
    ∃ word k rest, gs = word ++ (List.replicate k (.plain ' ') ++ rest) ∧
      (∀ g ∈ word, isWordGlyph g = true) ∧ (k = 0 → rest = []) ∧
      ∀ g ∈ rest.head?, isWordGlyph g = true := by
  induction gs with
  | nil => exact ⟨[], 0, [], rfl, by simp, fun _ => rfl, by simp⟩
  | cons g gs ih =>
    obtain ⟨word, k, rest, rfl, hword, hk, hrest⟩ :=
      ih fun g hg => h g (List.mem_cons_of_mem _ hg)
    cases hg : isWordGlyph g with
    | true => exact ⟨g :: word, k, rest, rfl, by simpa [hg] using hword, hk, hrest⟩
    | false =>
      have hspace : g = .plain ' ' := by
        have hstring := h g List.mem_cons_self
        simpa [isStringGlyph, hg] using hstring
      subst hspace
      cases word with
      | nil => exact ⟨[], k + 1, rest, rfl, by simp, by simp, hrest⟩
      | cons w word =>
        refine ⟨[], 1, w :: word ++ (List.replicate k (.plain ' ') ++ rest), rfl, by simp, by simp,
          ?_⟩
        intro g hg
        obtain rfl : w = g := by simpa using hg
        exact hword w List.mem_cons_self

/-! ### Strings -/

theorem mapM_append (gs hs : List Glyph) (zs : List Char)
    (h : (gs ++ hs).mapM Glyph.char? = some zs) :
    ∃ xs ys, gs.mapM Glyph.char? = some xs ∧ hs.mapM Glyph.char? = some ys ∧ zs = xs ++ ys := by
  rw [List.mapM_append] at h
  simp only [Option.bind_eq_bind, Option.bind_eq_some_iff, Option.pure_def,
    Option.some.injEq] at h
  obtain ⟨xs, hxs, ys, hys, rfl⟩ := h
  exact ⟨xs, ys, hxs, hys, rfl⟩

theorem mapM_spaces (k : Nat) :
    (List.replicate k (Glyph.plain ' ')).mapM Glyph.char? = some (List.replicate k ' ') := by
  induction k with
  | zero => rfl
  | succ k ih =>
    rw [List.replicate_succ, List.mapM_cons, ih]
    rfl

theorem flatMap_spaces (k : Nat) :
    (List.replicate k (Glyph.plain ' ')).flatMap Glyph.text = List.replicate k ' ' := by
  induction k with
  | zero => rfl
  | succ k ih =>
    rw [List.replicate_succ, List.flatMap_cons, ih]
    rfl

/-- What follows a gap is the next word or the closing quote, and neither starts blank. -/
theorem head_of_word (gs : List Glyph) (xs rest : List Char) (h : gs.mapM Glyph.char? = some xs)
    (hgs : ∀ g ∈ gs.head?, isWordGlyph g = true) :
    ∀ x ∈ (gs.flatMap Glyph.text ++ '"' :: rest).head?, isBlank x = false ∧ isBreak x = false := by
  cases gs with
  | nil =>
    intro x hx
    obtain rfl : '"' = x := Option.some.inj hx
    decide
  | cons g gs =>
    have hg := hgs g rfl
    obtain ⟨y, rest, hy, -⟩ := Json.exists_of_mapM_cons h
    intro x hx
    cases g with
    | plain c =>
      obtain rfl : c = x := by simpa [Glyph.text] using hx
      obtain ⟨hspace, hbreak⟩ : c ≠ ' ' ∧ isBreak c = false := by simpa [isWordGlyph] using hg
      have htab : c ≠ '\t' := by
        rintro rfl
        have hcontrol : (Glyph.plain '\t').char? = none := by decide
        rw [hcontrol] at hy
        cases hy
      exact ⟨by simp [isBlank, hspace, htab], hbreak⟩
    | paired high low => cases hg
    | _ =>
      obtain rfl : '\\' = x := by simpa [Glyph.text] using hx
      decide

theorem quotedFrom_glyphs (n : Nat) (gs : List Glyph) (xs rest : List Char) (began : Mark)
    (pieces : List (List Char)) (c : Cursor) (h : gs.mapM Glyph.char? = some xs)
    (hgs : ∀ g ∈ gs, isStringGlyph g = true)
    (hrest : c.rest = gs.flatMap Glyph.text ++ '"' :: rest) (hcolumn : c.mark.column ≠ 0)
    (hn : gs.length < n) :
    quotedFrom false began n pieces c =
      .ok ⟨pieces.reverse.flatten ++ xs, (c.steps ((gs.flatMap Glyph.text).length + 1)).mark,
        c.steps ((gs.flatMap Glyph.text).length + 1), false⟩ := by
  induction n generalizing gs xs pieces c with
  | zero => exact absurd hn (Nat.not_lt_zero _)
  | succ n ih =>
    obtain ⟨word, k, more, rfl, hword, hk, hmore⟩ := exists_cut gs hgs
    obtain ⟨ws, zs, hws, hzs, rfl⟩ := mapM_append word _ xs h
    obtain ⟨ss, ms, hss, hms, rfl⟩ := mapM_append _ more zs hzs
    rw [mapM_spaces] at hss
    obtain rfl := Option.some.inj hss
    rw [List.flatMap_append, List.flatMap_append, flatMap_spaces, List.append_assoc,
      List.append_assoc] at hrest
    have hnonempty : c.rest.isEmpty = false := by simp [hrest]
    have hread := doubleQuotedWord_glyphs word ws
      (List.replicate k ' ' ++ (more.flatMap Glyph.text ++ '"' :: rest)) hws hword
    have hafter := Cursor.steps_rest c (word.flatMap Glyph.text) _ hrest
    rw [quotedFrom, Cursor.atDocumentSeparator_of_column c hcolumn, hnonempty]
    simp only [Bool.false_eq_true, if_false, hrest, hread]
    cases k with
    | zero =>
      -- no space is left: the word ends at the closing quote
      obtain rfl := hk rfl
      obtain rfl : [] = ms := Option.some.inj hms
      simp only [List.replicate_zero, List.flatMap_nil, List.nil_append, List.append_nil,
        doubleQuotedWord_quote, Nat.add_zero, List.reverse_cons, List.flatten_append,
        List.flatten_singleton, Cursor.step_eq, Cursor.steps_steps]
    | succ k =>
      have hgap := Gap.readAll_spaces (k + 1) (more.flatMap Glyph.text ++ '"' :: rest)
        (c.steps (word.flatMap Glyph.text).length) hafter (head_of_word more ms rest hms hmore)
      have hnext := Cursor.steps_rest _ (List.replicate (k + 1) ' ') _ hafter
      rw [List.length_replicate] at hnext
      have hlength : more.length < n := by
        simp only [List.length_append, List.length_replicate] at hn
        omega
      have hrec := ih more ms (List.replicate (k + 1) ' ' :: ws :: pieces)
        ((c.steps (word.flatMap Glyph.text).length).steps (k + 1)) hms
        (fun g hg => hgs g (by simp [hg])) hnext (by simp [Cursor.steps]) hlength
      have hspace : doubleQuotedWord (List.replicate (k + 1) ' ' ++
          (more.flatMap Glyph.text ++ '"' :: rest)) = ⟨[], 0, .gap⟩ := by
        rw [List.replicate_succ, List.cons_append, doubleQuotedWord_space]
      simp only [hspace, Nat.add_zero, List.append_nil, hgap, Gap.folded, Bool.false_eq_true,
        if_false]
      rw [hrec]
      simp only [List.flatMap_append, flatMap_spaces, List.length_append, List.length_replicate,
        Cursor.steps_steps, List.reverse_cons, List.flatten_append, List.flatten_cons,
        List.flatten_nil, List.append_assoc, List.append_nil, Nat.add_assoc]

/-- A JSON string is read as a quoted scalar with the characters it writes. -/
theorem quoted_string (gs : List Glyph) (xs rest : List Char) (c : Cursor)
    (h : gs.mapM Glyph.char? = some xs) (hgs : ∀ g ∈ gs, isStringGlyph g = true)
    (hrest : c.rest = Json.stringText gs ++ rest) :
    quoted false c =
      .ok ⟨xs, (c.steps (Json.stringText gs).length).mark, c.steps (Json.stringText gs).length,
        false⟩ := by
  have hstep : c.step.rest = gs.flatMap Glyph.text ++ '"' :: rest := by
    rw [Cursor.step, hrest, Json.stringText]
    simp
  have hlength : gs.length ≤ (gs.flatMap Glyph.text).length := by
    clear h hgs hrest hstep
    induction gs with
    | nil => simp
    | cons g gs ih =>
      have hg : 0 < g.text.length := by cases g <;> simp [Glyph.text]
      rw [List.flatMap_cons, List.length_append, List.length_cons]
      omega
  have hfuel : gs.length < c.rest.length + 1 := by
    rw [hrest, Json.stringText]
    simp only [List.cons_append, List.length_cons, List.length_append]
    omega
  have hread := quotedFrom_glyphs (c.rest.length + 1) gs xs rest c.mark [] c.step h hgs hstep
    (by simp [Cursor.step]) hfuel
  have hsize : (Json.stringText gs).length = 1 + ((gs.flatMap Glyph.text).length + 1) := by
    simp only [Json.stringText, List.length_cons, List.length_append, List.length_nil]
    omega
  rw [quoted, hread, Cursor.step_eq, Cursor.steps_steps, hsize]
  rfl

end ScriptPress.Yaml
