import ScriptPress.Proofs.Json.Grammar

/-!
# Compact texts in the grammar

What is written for a string, a list of strings and an object is a text of the grammar and denotes
what it was written for: each character has its glyph, and nothing but commas and colons stands
between the parts.
-/
namespace ScriptPress.Json

theorem denotes_of_bare {s : List Char} {v : Value} (h : Bare s v) : Denotes s v := by
  have hempty : Blanks [] := List.forall_mem_nil _
  have hmk := Denotes.mk hempty hempty h
  rw [List.append_nil, List.nil_append] at hmk
  exact hmk

/-! ### Strings -/

theorem lookup_hexDigit : ∀ n < 16, hexDigits.lookup (hexDigit n) = some n := by
  decide

theorem char?_numbered {c : Char} (h : c.toNat < 0x20) :
    (Glyph.numbered ['0', '0', hexDigit (c.toNat / 16), hexDigit (c.toNat % 16)]).char? =
      some c := by
  have hzero : hexDigits.lookup '0' = some 0 := rfl
  have hhigh := lookup_hexDigit (c.toNat / 16) (by omega)
  have hlow := lookup_hexDigit (c.toNat % 16) (by omega)
  have hunit : unitOf? ['0', '0', hexDigit (c.toNat / 16), hexDigit (c.toNat % 16)] =
      some c.toNat := by
    simp only [unitOf?, hzero, hhigh, hlow, Option.bind_eq_bind, Option.bind_some, Option.pure_def,
      Option.some.injEq]
    omega
  have hsurrogate : (isHighSurrogate c.toNat || isLowSurrogate c.toNat) = false := by
    simp only [isHighSurrogate, isLowSurrogate, Bool.or_eq_false_iff, Bool.and_eq_false_iff,
      decide_eq_false_iff_not]
    omega
  rw [Glyph.char?, hunit, Option.bind_some, hsurrogate, Char.ofNat_toNat]
  rfl

theorem exists_glyph (c : Char) : ∃ g : Glyph, g.text = escape c ∧ g.char? = some c := by
  have hshort : ∀ sign d, c = d → shortEscapes.lookup sign = some d →
      ∃ g : Glyph, g.text = ['\\', sign] ∧ g.char? = some c := by
    rintro sign d rfl hsign
    exact ⟨.short sign, rfl, hsign⟩
  -- Seven characters have an escape of their own; the other controls have a number.
  unfold escape
  split
  · rename_i h
    exact hshort '"' '"' h rfl
  split
  · rename_i h
    exact hshort '\\' '\\' h rfl
  split
  · rename_i h
    exact hshort 'b' '\x08' h rfl
  split
  · rename_i h
    exact hshort 'f' '\x0c' h rfl
  split
  · rename_i h
    exact hshort 'n' '\n' h rfl
  split
  · rename_i h
    exact hshort 'r' '\r' h rfl
  split
  · rename_i h
    exact hshort 't' '\t' h rfl
  split
  · rename_i h
    exact ⟨_, rfl, char?_numbered h⟩
  · rename_i hquote hslash _ _ _ _ _ hcontrol
    refine ⟨.plain c, rfl, ?_⟩
    rw [Glyph.char?, if_neg (by simp [hquote, hslash, hcontrol])]

theorem exists_glyphs (s : List Char) : ∃ glyphs : List Glyph,
    glyphs.flatMap Glyph.text = s.flatMap escape ∧ glyphs.mapM Glyph.char? = some s := by
  induction s with
  | nil => exact ⟨[], rfl, rfl⟩
  | cons c s ih =>
    obtain ⟨g, hg, hc⟩ := exists_glyph c
    obtain ⟨glyphs, hglyphs, hs⟩ := ih
    refine ⟨g :: glyphs, ?_, ?_⟩
    · rw [List.flatMap_cons, List.flatMap_cons, hg, hglyphs]
    · rw [List.mapM_cons, hc, hs]
      rfl

theorem exists_quote (s : String) : ∃ glyphs : List Glyph,
    stringText glyphs = quote s ∧ glyphs.mapM Glyph.char? = some s.toList := by
  obtain ⟨glyphs, htext, hs⟩ := exists_glyphs s.toList
  exact ⟨glyphs, by rw [stringText, htext, quote], hs⟩

theorem bare_quote (s : String) : Bare (quote s) (.string (some s)) := by
  obtain ⟨glyphs, htext, hs⟩ := exists_quote s
  have hbare := Bare.string hs
  rw [htext, String.ofList_toList] at hbare
  exact hbare

theorem isName_quote (s : String) : IsName (quote s) s := by
  obtain ⟨glyphs, htext, hs⟩ := exists_quote s
  have hempty : Blanks [] := List.forall_mem_nil _
  have hname := IsName.mk hempty hempty hs
  rw [List.append_nil, List.nil_append, htext, String.ofList_toList] at hname
  exact hname

/-! ### Lists and objects -/

theorem elements_quotes (s : String) (rest : List String) :
    Elements (quote s ++ rest.flatMap fun s => ',' :: quote s)
      ((s :: rest).map fun s => .string (some s)) := by
  induction rest generalizing s with
  | nil =>
    rw [List.flatMap_nil, List.append_nil]
    exact .last (denotes_of_bare (bare_quote s))
  | cons next rest ih => exact .cons (denotes_of_bare (bare_quote s)) (ih next)

theorem bare_stringList (l : List String) :
    Bare (stringList l) (.array (l.map fun s => .string (some s))) := by
  cases l with
  | nil => exact .emptyArray (List.forall_mem_nil _)
  | cons s rest => exact .array (elements_quotes s rest)

structure Entry where
  name : String
  text : List Char
  value : Value

theorem members_entries (e : Entry) (rest : List Entry) (h : ∀ x ∈ e :: rest, Bare x.text x.value) :
    Members (quote e.name ++ ':' :: e.text ++
        rest.flatMap fun x => ',' :: (quote x.name ++ ':' :: x.text))
      ((e :: rest).map fun x => (some x.name, x.value)) := by
  induction rest generalizing e with
  | nil =>
    rw [List.flatMap_nil, List.append_nil]
    exact .last (isName_quote e.name) (denotes_of_bare (h e List.mem_cons_self))
  | cons next rest ih =>
    have hnext := ih next fun x hx => h x (List.mem_cons_of_mem e hx)
    rw [List.append_assoc, List.cons_append]
    exact .cons (isName_quote e.name) (denotes_of_bare (h e List.mem_cons_self)) hnext

theorem bare_objectText (entries : List Entry) (h : ∀ e ∈ entries, Bare e.text e.value) :
    Bare (objectText (entries.map fun e => (e.name, e.text)))
      (.object (entries.map fun e => (some e.name, e.value))) := by
  cases entries with
  | nil => exact .emptyObject (List.forall_mem_nil _)
  | cons e rest =>
    have hmembers := members_entries e rest h
    rw [List.map_cons, objectText, List.flatMap_map]
    exact .object hmembers

theorem denotes_objectText (entries : List Entry) (h : ∀ e ∈ entries, Bare e.text e.value) :
    Denotes (objectText (entries.map fun e => (e.name, e.text)))
      (.object (entries.map fun e => (some e.name, e.value))) :=
  denotes_of_bare (bare_objectText entries h)

end ScriptPress.Json
