import ScriptPress.Proofs.Version.ReleaseGrammar
import ScriptPress.Requirement.Advice

/-!
# Padding release numbers

Padding cuts a text at the first sign of a suffix and fills the pieces in front up to three. It
leaves a text alone that has three pieces, so it changes no release and nothing twice. Main
statement: what is a release once it is padded is one to three numbers and suffixes.
-/
namespace ScriptPress.Version

open Text (Stops)

/-! ### Pieces -/

structure ArePlain (pieces : List (List Char)) : Prop where
  ne_nil : pieces ≠ []
  plain : ∀ piece ∈ pieces, ∀ c ∈ piece, c ≠ '.' ∧ opensSuffix c = false

theorem ArePlain.not_dot {pieces : List (List Char)} (h : ArePlain pieces) :
    ∀ piece ∈ pieces, '.' ∉ piece :=
  fun piece hp hdot => (h.plain piece hp '.' hdot).1 rfl

theorem ArePlain.not_sign {pieces : List (List Char)} (h : ArePlain pieces) :
    ∀ c ∈ Text.joinWith ['.'] pieces, (!opensSuffix c) = true := by
  intro c hc
  rcases Text.mem_joinWith ['.'] pieces c hc with hdot | ⟨piece, hp, hin⟩
  · rw [List.mem_singleton.mp hdot]
    rfl
  · rw [(h.plain piece hp c hin).2]
    rfl

theorem exists_plain (s : List Char) :
    ∃ pieces rest, s = Text.joinWith ['.'] pieces ++ rest ∧ ArePlain pieces ∧
      Stops (!opensSuffix ·) rest := by
  have hsign := Text.forall_mem_takeWhile (!opensSuffix ·) s
  refine ⟨Text.splitOn '.' (s.takeWhile (!opensSuffix ·)), s.dropWhile (!opensSuffix ·), ?_,
    ⟨Text.splitOn_ne_nil '.' _, ?_⟩, Text.stops_dropWhile _ s⟩
  · rw [Text.joinWith_splitOn]
    exact List.takeWhile_append_dropWhile.symm
  · intro piece hp c hc
    constructor
    · rintro rfl
      exact Text.not_mem_of_mem_splitOn '.' _ piece hp hc
    · have hin := Text.mem_joinWith_of_mem ['.'] hp hc
      rw [Text.joinWith_splitOn] at hin
      simpa using hsign c hin

theorem plain_of_isNumeral {number : List Char} (h : IsNumeral number) :
    ∀ c ∈ number, c ≠ '.' ∧ opensSuffix c = false := by
  obtain ⟨n, -, rfl⟩ := h
  intro c hc
  have hdigit := isDigit_of_mem_toDigits n c hc
  constructor
  · rintro rfl
    cases hdigit
  · rw [← Bool.not_eq_true]
    intro hsign
    simp only [opensSuffix, Bool.or_eq_true, beq_iff_eq] at hsign
    rcases hsign with rfl | rfl <;> cases hdigit

theorem isNumeral_zero : IsNumeral ['0'] := ⟨0, by decide, rfl⟩

/-! ### Filling up -/

/-- Zeros are filled in behind the pieces that are there, up to three. -/
theorem padPieces_eq_append {pieces : List (List Char)} (h : pieces ≠ []) :
    padPieces pieces = pieces ++ List.replicate (3 - pieces.length) ['0'] := by
  cases pieces with
  | nil => exact absurd rfl h
  | cons major pieces =>
    cases pieces with
    | nil => rfl
    | cons minor pieces =>
      cases pieces with
      | nil => rfl
      | cons patch rest =>
        have hnone : 3 - (major :: minor :: patch :: rest).length = 0 := by
          simp only [List.length_cons]
          omega
        rw [hnone, List.replicate_zero, List.append_nil]
        rfl

theorem padPieces_of_length {pieces : List (List Char)} (h : 3 ≤ pieces.length) :
    padPieces pieces = pieces := by
  have hne : pieces ≠ [] := List.ne_nil_of_length_pos (by omega)
  have hnone : 3 - pieces.length = 0 := by omega
  rw [padPieces_eq_append hne, hnone, List.replicate_zero, List.append_nil]

theorem length_padPieces {pieces : List (List Char)} (h : pieces ≠ []) :
    (padPieces pieces).length = max 3 pieces.length := by
  rw [padPieces_eq_append h, List.length_append, List.length_replicate]
  omega

theorem mem_padPieces {pieces : List (List Char)} (h : pieces ≠ []) {piece : List Char}
    (hp : piece ∈ padPieces pieces) : piece ∈ pieces ∨ piece = ['0'] := by
  rw [padPieces_eq_append h, List.mem_append] at hp
  exact hp.imp_right List.eq_of_mem_replicate

theorem ArePlain.padPieces {pieces : List (List Char)} (h : ArePlain pieces) :
    ArePlain (padPieces pieces) := by
  constructor
  · rw [padPieces_eq_append h.ne_nil]
    exact List.append_ne_nil_of_left_ne_nil h.ne_nil _
  · intro piece hp
    rcases mem_padPieces h.ne_nil hp with hin | rfl
    · exact h.plain piece hin
    · exact plain_of_isNumeral isNumeral_zero

theorem pad_joinWith {pieces : List (List Char)} (h : ArePlain pieces) {rest : List Char}
    (hr : Stops (!opensSuffix ·) rest) :
    pad (Text.joinWith ['.'] pieces ++ rest) = Text.joinWith ['.'] (padPieces pieces) ++ rest := by
  obtain ⟨htake, hdrop⟩ := Text.cut_append h.not_sign hr
  rw [pad, htake, hdrop, Text.splitOn_joinWith '.' pieces h.ne_nil h.not_dot]

theorem pad_pad (s : List Char) : pad (pad s) = pad s := by
  obtain ⟨pieces, rest, rfl, hplain, hrest⟩ := exists_plain s
  have hlength : 3 ≤ (padPieces pieces).length := by
    rw [length_padPieces hplain.ne_nil]
    omega
  rw [pad_joinWith hplain hrest, pad_joinWith hplain.padPieces hrest,
    padPieces_of_length hlength]

/-! ### Releases -/

theorem IsSuffix.opens {s : List Char} (h : IsSuffix s) : Stops (!opensSuffix ·) s :=
  h.stops rfl rfl

theorem plain_of_numerals {numbers : List (List Char)} (hne : numbers ≠ [])
    (h : ∀ number ∈ numbers, IsNumeral number) : ArePlain numbers :=
  ⟨hne, fun number hn => plain_of_isNumeral (h number hn)⟩

theorem pad_of_isRelease {s : List Char} (h : isRelease s = true) : pad s = s := by
  obtain ⟨numbers, suffix, rfl, hlength, hnumbers, hsuffix⟩ := (isRelease_iff s).mp h
  have hne : numbers ≠ [] := List.ne_nil_of_length_pos (by omega)
  rw [pad_joinWith (plain_of_numerals hne hnumbers) hsuffix.opens,
    padPieces_of_length (by omega)]

theorem joinWith_append_inj {pieces pieces' : List (List Char)} {rest rest' : List Char}
    (h : ArePlain pieces) (h' : ArePlain pieces') (hr : Stops (!opensSuffix ·) rest)
    (hr' : Stops (!opensSuffix ·) rest')
    (heq : Text.joinWith ['.'] pieces ++ rest = Text.joinWith ['.'] pieces' ++ rest') :
    pieces = pieces' ∧ rest = rest' := by
  obtain ⟨hjoined, hrest⟩ := Text.cut_unique h.not_sign hr h'.not_sign hr' heq
  have hsplit := congrArg (Text.splitOn '.') hjoined
  rw [Text.splitOn_joinWith '.' pieces h.ne_nil h.not_dot,
    Text.splitOn_joinWith '.' pieces' h'.ne_nil h'.not_dot] at hsplit
  exact ⟨hsplit, hrest⟩

theorem isRelease_pad_iff (s : List Char) :
    isRelease (pad s) = true ↔ ∃ count, 1 ≤ count ∧ count ≤ 3 ∧ IsVersion count s := by
  rw [isRelease_iff]
  constructor
  · intro h
    obtain ⟨pieces, rest, rfl, hplain, hrest⟩ := exists_plain s
    obtain ⟨numbers, suffix, heq, hlength, hnumbers, hsuffix⟩ := h
    have hne : numbers ≠ [] := List.ne_nil_of_length_pos (by omega)
    rw [pad_joinWith hplain hrest] at heq
    obtain ⟨rfl, rfl⟩ := joinWith_append_inj hplain.padPieces (plain_of_numerals hne hnumbers)
      hrest hsuffix.opens heq
    have hpos := List.length_pos_of_ne_nil hplain.ne_nil
    rw [length_padPieces hplain.ne_nil] at hlength
    refine ⟨pieces.length, hpos, by omega, pieces, rest, rfl, rfl, fun number hn => ?_, hsuffix⟩
    apply hnumbers
    rw [padPieces_eq_append hplain.ne_nil]
    exact List.mem_append_left _ hn
  · rintro ⟨count, hone, hthree, numbers, suffix, rfl, hlength, hnumbers, hsuffix⟩
    have hne : numbers ≠ [] := List.ne_nil_of_length_pos (by omega)
    refine ⟨padPieces numbers, suffix, pad_joinWith (plain_of_numerals hne hnumbers) hsuffix.opens,
      ?_, fun number hn => ?_, hsuffix⟩
    · rw [length_padPieces hne]
      omega
    · rcases mem_padPieces hne hn with hin | rfl
      · exact hnumbers number hin
      · exact isNumeral_zero

/-! ### Advice -/

theorem IsVersion.exists_digit {count : Nat} {s : List Char} (hcount : 1 ≤ count)
    (h : IsVersion count s) : ∃ c rest, s = c :: rest ∧ c.isDigit = true := by
  obtain ⟨numbers, suffix, rfl, hlength, hnumbers, -⟩ := h
  cases numbers with
  | nil =>
    simp only [List.length_nil] at hlength
    omega
  | cons number more =>
    obtain ⟨n, -, hnumber⟩ := hnumbers number List.mem_cons_self
    obtain ⟨c, digits, hdigits⟩ := List.exists_cons_of_ne_nil (Nat.toDigits_ne_nil (b := 10) (n := n))
    have hdigit := isDigit_of_mem_toDigits n c (by rw [hdigits]; exact List.mem_cons_self)
    rw [hnumber, hdigits]
    cases more with
    | nil => exact ⟨c, digits ++ suffix, rfl, hdigit⟩
    | cons next more => exact ⟨c, _, rfl, hdigit⟩

theorem withoutV_of_isVersion {count : Nat} {s : List Char} (hcount : 1 ≤ count)
    (h : IsVersion count s) : withoutV s = s := by
  obtain ⟨c, rest, rfl, hdigit⟩ := h.exists_digit hcount
  unfold withoutV
  split
  · rename_i heq
    obtain rfl := List.head_eq_of_cons_eq heq
    cases hdigit
  · rfl

theorem eq_withoutV (s : List Char) : s = withoutV s ∨ s = 'v' :: withoutV s := by
  unfold withoutV
  split
  · exact Or.inr rfl
  · exact Or.inl rfl

theorem isPaddedRelease_iff (s : List Char) :
    isPaddedRelease s = true ↔ ∃ version count, 1 ≤ count ∧ count ≤ 3 ∧ IsVersion count version ∧
      (s = version ∨ s = 'v' :: version) := by
  rw [isPaddedRelease, isRelease_pad_iff]
  constructor
  · rintro ⟨count, hone, hthree, hversion⟩
    exact ⟨withoutV s, count, hone, hthree, hversion, eq_withoutV s⟩
  · rintro ⟨version, count, hone, hthree, hversion, rfl | rfl⟩
    · rw [withoutV_of_isVersion hone hversion]
      exact ⟨count, hone, hthree, hversion⟩
    · exact ⟨count, hone, hthree, hversion⟩

/-- There is no advice on a runtime exactly if its specification is one to three numbers and
suffixes, after a `v` that may be missing. Padding leaves a release, which has three numbers, as it
is, and does nothing more to what it has padded. -/
theorem runtimeAdvice_eq_none_iff (r : Requirement) :
    (r.runtimeAdvice = none ↔ ∃ version count, 1 ≤ count ∧ count ≤ 3 ∧ IsVersion count version ∧
      (r.spec.toList = version ∨ r.spec.toList = 'v' :: version)) ∧
    (∀ s, isRelease s = true ↔ IsVersion 3 s) ∧ (∀ s, isRelease s = true → pad s = s) ∧
    ∀ s, pad (pad s) = pad s := by
  have hadvice : r.runtimeAdvice = none ↔ isPaddedRelease r.spec.toList = true := by
    by_cases h : isPaddedRelease r.spec.toList = true <;> simp [Requirement.runtimeAdvice, h]
  rw [hadvice]
  exact ⟨isPaddedRelease_iff r.spec.toList, isRelease_iff, fun _ => pad_of_isRelease, pad_pad⟩

/-- A suffix may hold dots and further signs; a piece that is there is not made up for. -/
example : Requirement.runtimeAdvice ⟨"node", "v18-rc.1-2+b.7"⟩ = none ∧
    Requirement.runtimeAdvice ⟨"node", "18..7"⟩ =
      some "node version '18..7' is not a plain version number" := by
  decide +kernel

end ScriptPress.Version
