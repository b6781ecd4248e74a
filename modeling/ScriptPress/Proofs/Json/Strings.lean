import ScriptPress.Proofs.Json.Layout
import ScriptPress.Proofs.Text.Octets

/-!
# Reading JSON strings

A string is read in pieces, which are put together afterwards: most glyphs are read as the octets of
their character, a numbered one as a UTF-16 unit and a pair as two. Main statement: a string is read
up to its closing quote as the text that its glyphs write, whatever follows.
-/
namespace ScriptPress.Json

open Text (octets)

/-! ### Pieces, one step at a time -/

def prefixed (pieces : List Piece) (p : List Piece × List UInt8) : List Piece × List UInt8 :=
  (pieces ++ p.1, p.2)

theorem map_prefixed_prefixed (ps qs : List Piece) (o : Option (List Piece × List UInt8)) :
    (o.map (prefixed qs)).map (prefixed ps) = o.map (prefixed (ps ++ qs)) := by
  cases o with
  | none => rfl
  | some p => simp only [Option.map_some, prefixed, List.append_assoc]

def IsPlain (b : UInt8) : Prop := b ≠ 0x22 ∧ b ≠ 0x5C ∧ ¬b < 0x20

theorem pieces?_plain {b : UInt8} (s : List UInt8) (h : IsPlain b) :
    pieces? (b :: s) = (pieces? s).map (prefixed [.byte b]) := by
  obtain ⟨hquote, hslash, hcontrol⟩ := h
  rw [pieces?.eq_5 b s hquote (fun _ _ _ _ _ hb _ => hslash hb) (fun _ _ hb _ => hslash hb),
    if_neg (by simp [hcontrol, hslash])]
  cases pieces? s with
  | none => rfl
  | some p => rfl

theorem pieces?_short {e b : UInt8} (s : List UInt8) (h : shortEscape? e = some b) :
    pieces? (0x5C :: e :: s) = (pieces? s).map (prefixed [.byte b]) := by
  have hunit : e ≠ 0x75 := by
    rintro rfl
    cases h
  rw [pieces?.eq_4 e s fun _ _ _ _ _ he _ => hunit he, h]
  cases pieces? s with
  | none => rfl
  | some p => rfl

theorem pieces?_unit {a b c d : UInt8} {n : Nat} (s : List UInt8) (h : unit? a b c d = some n) :
    pieces? (0x5C :: 0x75 :: a :: b :: c :: d :: s) =
      (pieces? s).map (prefixed [.unit n]) := by
  rw [pieces?.eq_3, h]
  cases pieces? s with
  | none => rfl
  | some p => rfl

theorem pieces?_plains (bs s : List UInt8) (h : ∀ b ∈ bs, IsPlain b) :
    pieces? (bs ++ s) = (pieces? s).map (prefixed (bs.map .byte)) := by
  induction bs with
  | nil =>
    cases hs : pieces? s with
    | none => exact hs
    | some p => exact hs
  | cons b bs ih =>
    rw [List.cons_append, pieces?_plain _ (h b List.mem_cons_self),
      ih fun x hx => h x (List.mem_cons_of_mem b hx), map_prefixed_prefixed]
    rfl

/-! ### The text that pieces write -/

theorem bytes?_bytes (bs : List UInt8) (pieces : List Piece) :
    bytes? (bs.map .byte ++ pieces) = (bytes? pieces).map (bs ++ ·) := by
  induction bs with
  | nil =>
    cases hs : bytes? pieces with
    | none => exact hs
    | some p => exact hs
  | cons b bs ih =>
    rw [List.map_cons, List.cons_append, bytes?, ih, Option.map_map]
    rfl

theorem bytes?_unit {n : Nat} (pieces : List Piece)
    (h : (isHighSurrogate n || isLowSurrogate n) = false) :
    bytes? (.unit n :: pieces) =
      (bytes? pieces).map (String.utf8EncodeChar (Char.ofNat n) ++ ·) := by
  rw [Bool.or_eq_false_iff] at h
  rw [bytes?.eq_def]
  split
  · rename_i hnil
    cases hnil
  · rename_i hcons
    cases hcons
  · rename_i hcons
    cases hcons
    rw [h.1, h.2]
    rfl
  · rename_i hcons
    cases hcons
    rw [h.1, h.2]
    rfl

theorem bytes?_pair {high low : Nat} (pieces : List Piece)
    (h : (isHighSurrogate high && isLowSurrogate low) = true) :
    bytes? (.unit high :: .unit low :: pieces) = (bytes? pieces).map
      (String.utf8EncodeChar (Char.ofNat (0x10000 + (high - 0xD800) * 0x400 + (low - 0xDC00))) ++
        ·) := by
  rw [Bool.and_eq_true] at h
  rw [bytes?.eq_3, if_pos h.1, if_pos h.2]

/-! ### Glyphs -/

/-- Pieces that write a character, whatever pieces follow them. -/
def Write (pieces : List Piece) (c : Char) : Prop :=
  ∀ more, bytes? (pieces ++ more) = (bytes? more).map (String.utf8EncodeChar c ++ ·)

/-- The octets of a glyph are read as pieces that write its character. -/
def ReadAs (octets : List UInt8) (c : Char) : Prop :=
  ∃ pieces, Write pieces c ∧ ∀ s, pieces? (octets ++ s) = (pieces? s).map (prefixed pieces)

theorem write_octets (c : Char) : Write ((String.utf8EncodeChar c).map .byte) c :=
  bytes?_bytes (String.utf8EncodeChar c)

theorem isPlain_of_mem_utf8EncodeChar {c : Char} (hquote : c ≠ '"') (hslash : c ≠ '\\')
    (hcontrol : 0x20 ≤ c.toNat) : ∀ b ∈ String.utf8EncodeChar c, IsPlain b := by
  intro b hb
  by_cases hascii : c.toNat ≤ 0x7F
  · rw [Text.utf8EncodeChar_of_ascii hascii, List.mem_singleton] at hb
    have hn : b.toNat = c.toNat := by
      rw [hb, UInt8.toNat_ofNat', Nat.mod_eq_of_lt (by omega)]
    refine ⟨?_, ?_, ?_⟩
    · rintro rfl
      exact hquote (Char.toNat_inj.mp hn.symm)
    · rintro rfl
      exact hslash (Char.toNat_inj.mp hn.symm)
    · rw [UInt8.lt_iff_toNat_lt, hn, Nat.not_lt]
      exact hcontrol
  · have hle := Text.le_of_mem_utf8EncodeChar (Nat.lt_of_not_le hascii) hb
    rw [UInt8.le_iff_toNat_le] at hle
    refine ⟨?_, ?_, ?_⟩
    · rintro rfl
      exact absurd hle (by decide)
    · rintro rfl
      exact absurd hle (by decide)
    · rw [UInt8.lt_iff_toNat_lt, Nat.not_lt]
      exact Nat.le_trans (by decide) hle

theorem hexValue?_of_lookup {c : Char} {n : Nat} (h : hexDigits.lookup c = some n) :
    c.toNat ≤ 0x7F ∧ hexValue? (UInt8.ofNat c.toNat) = some n := by
  have hall : ∀ p ∈ hexDigits, p.1.toNat ≤ 0x7F ∧
      hexValue? (UInt8.ofNat p.1.toNat) = some p.2 := by
    decide
  exact hall (c, n) (mem_of_lookup h)

theorem shortEscape?_of_lookup {sign c : Char} (h : shortEscapes.lookup sign = some c) :
    sign.toNat ≤ 0x7F ∧ c.toNat ≤ 0x7F ∧
      shortEscape? (UInt8.ofNat sign.toNat) = some (UInt8.ofNat c.toNat) := by
  have hall : ∀ p ∈ shortEscapes, p.1.toNat ≤ 0x7F ∧ p.2.toNat ≤ 0x7F ∧
      shortEscape? (UInt8.ofNat p.1.toNat) = some (UInt8.ofNat p.2.toNat) := by
    decide
  exact hall (sign, c) (mem_of_lookup h)

theorem pieces?_digits {digits : List Char} {n : Nat} (s : List UInt8)
    (h : unitOf? digits = some n) :
    pieces? (octets ('\\' :: 'u' :: digits) ++ s) = (pieces? s).map (prefixed [.unit n]) := by
  unfold unitOf? at h
  split at h
  · rename_i a b c d
    simp only [Option.bind_eq_bind, Option.bind_eq_some_iff, Option.pure_def,
      Option.some.injEq] at h
    obtain ⟨na, ha, nb, hb, nc, hc, nd, hd, hn⟩ := h
    obtain ⟨ha, hna⟩ := hexValue?_of_lookup ha
    obtain ⟨hb, hnb⟩ := hexValue?_of_lookup hb
    obtain ⟨hc, hnc⟩ := hexValue?_of_lookup hc
    obtain ⟨hd, hnd⟩ := hexValue?_of_lookup hd
    have hunit : unit? (UInt8.ofNat a.toNat) (UInt8.ofNat b.toNat) (UInt8.ofNat c.toNat)
        (UInt8.ofNat d.toNat) = some n := by
      simp [unit?, hna, hnb, hnc, hnd, hn]
    have hoctets : octets ['\\', 'u', a, b, c, d] = [0x5C, 0x75, UInt8.ofNat a.toNat,
        UInt8.ofNat b.toNat, UInt8.ofNat c.toNat, UInt8.ofNat d.toNat] := by
      rw [Text.octets_cons_of_ascii _ (by decide), Text.octets_cons_of_ascii _ (by decide),
        Text.octets_cons_of_ascii _ ha, Text.octets_cons_of_ascii _ hb,
        Text.octets_cons_of_ascii _ hc, Text.octets_cons_of_ascii _ hd]
      rfl
    rw [hoctets]
    exact pieces?_unit s hunit
  · cases h

theorem readAs_glyph {g : Glyph} {c : Char} (h : g.char? = some c) : ReadAs (octets g.text) c := by
  cases g with
  | plain d =>
    rw [Glyph.char?] at h
    split at h
    · cases h
    · rename_i hlegal
      simp only [not_or, Nat.not_lt] at hlegal
      obtain rfl := Option.some.inj h
      have hoctets : octets (Glyph.plain d).text = String.utf8EncodeChar d := List.append_nil _
      refine ⟨_, write_octets d, fun s => ?_⟩
      rw [hoctets]
      exact pieces?_plains _ s (isPlain_of_mem_utf8EncodeChar hlegal.1 hlegal.2.1 hlegal.2.2)
  | short sign =>
    obtain ⟨hsign, hc, hescape⟩ := shortEscape?_of_lookup h
    have hoctets : octets (Glyph.short sign).text = [0x5C, UInt8.ofNat sign.toNat] := by
      rw [Glyph.text, Text.octets_cons_of_ascii _ (by decide), Text.octets_cons_of_ascii _ hsign]
      rfl
    refine ⟨_, write_octets c, fun s => ?_⟩
    rw [hoctets, Text.utf8EncodeChar_of_ascii hc]
    exact pieces?_short s hescape
  | numbered digits =>
    simp only [Glyph.char?, Option.bind_eq_some_iff] at h
    obtain ⟨n, hn, h⟩ := h
    split at h
    · cases h
    · rename_i hunit
      obtain rfl := Option.some.inj h
      rw [Bool.not_eq_true] at hunit
      exact ⟨[.unit n], fun more => bytes?_unit more hunit, fun s => pieces?_digits s hn⟩
  | paired high low =>
    simp only [Glyph.char?, Option.bind_eq_bind, Option.bind_eq_some_iff] at h
    obtain ⟨nhigh, hhigh, nlow, hlow, h⟩ := h
    split at h
    · rename_i hpair
      obtain rfl := Option.some.inj h
      refine ⟨[.unit nhigh, .unit nlow], fun more => bytes?_pair more hpair, fun s => ?_⟩
      have htext : (Glyph.paired high low).text = ('\\' :: 'u' :: high) ++ '\\' :: 'u' :: low := rfl
      rw [htext, Text.octets_append, List.append_assoc, pieces?_digits _ hhigh,
        pieces?_digits _ hlow, map_prefixed_prefixed]
      rfl
    · cases h

/-! ### Whole strings -/

/-- A string is read up to its closing quote. -/
theorem pieces?_glyphs (s : List Glyph) {cs : List Char} (h : s.mapM Glyph.char? = some cs)
    (rest : List UInt8) :
    ∃ pieces, pieces? (octets (s.flatMap Glyph.text) ++ 0x22 :: rest) = some (pieces, rest) ∧
      content? pieces = some (String.ofList cs) := by
  have hread : ∃ pieces,
      pieces? (octets (s.flatMap Glyph.text) ++ 0x22 :: rest) = some (pieces, rest) ∧
        bytes? pieces = some (octets cs) := by
    induction s generalizing cs with
    | nil =>
      cases h
      exact ⟨[], rfl, rfl⟩
    | cons g s ih =>
      obtain ⟨c, cs, hc, hcs, rfl⟩ := exists_of_mapM_cons h
      obtain ⟨pieces, hpieces, hbytes⟩ := ih hcs
      obtain ⟨own, hwrite, hown⟩ := readAs_glyph hc
      refine ⟨own ++ pieces, ?_, ?_⟩
      · rw [List.flatMap_cons, Text.octets_append, List.append_assoc, hown, hpieces]
        rfl
      · rw [hwrite, hbytes, Text.octets_cons]
        rfl
  obtain ⟨pieces, hpieces, hbytes⟩ := hread
  refine ⟨pieces, hpieces, ?_⟩
  rw [content?, hbytes, Option.bind_some, Text.ofUtf8?_octets]

end ScriptPress.Json
