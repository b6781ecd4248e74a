import ScriptPress.Proofs.Json.Grammar
import ScriptPress.Text.Split

/-!
# Reading JSON numbers

A number is read part by part, and each part is passed over exactly if what follows cannot go on
with it. Main statement: a number is read whole in front of anything that is no part of a number.
-/
namespace ScriptPress.Json

open Text (octets Stops stops_cons)

/-! ### What may follow -/

def isPoint (b : UInt8) : Bool := b == 0x2E

def isExponentSign (b : UInt8) : Bool := b == 0x65 || b == 0x45

def continues (b : UInt8) : Bool := isDigit b || isPoint b || isExponentSign b

/-! ### Digits -/

theorem octet_of_isDigit {c : Char} (h : c.isDigit = true) :
    c.toNat ≤ 0x7F ∧ isDigit (UInt8.ofNat c.toNat) = true := by
  have hc : 48 ≤ c.toNat ∧ c.toNat ≤ 57 := by
    simpa [Char.isDigit, UInt32.le_iff_toNat_le] using h
  refine ⟨by omega, ?_⟩
  simp only [isDigit, Bool.and_eq_true, decide_eq_true_eq, UInt8.le_iff_toNat_le,
    UInt8.toNat_ofNat']
  simp
  omega

theorem isDigit_octets {s : List Char} (h : ∀ c ∈ s, c.isDigit = true) :
    ∀ b ∈ octets s, isDigit b = true := by
  intro b hb
  obtain ⟨c, hc, hb⟩ := List.mem_flatMap.mp hb
  obtain ⟨hascii, hdigit⟩ := octet_of_isDigit (h c hc)
  rw [Text.utf8EncodeChar_of_ascii hascii, List.mem_singleton] at hb
  rw [hb]
  exact hdigit

theorem octets_digits {s : List Char} (h : IsDigits s) :
    ∃ b bs, octets s = b :: bs ∧ (∃ c, s.head? = some c ∧ b = UInt8.ofNat c.toNat) ∧
      isDigit b = true ∧ ∀ d ∈ bs, isDigit d = true := by
  obtain ⟨hne, hdigits⟩ := h
  cases s with
  | nil => exact absurd rfl hne
  | cons c s =>
    obtain ⟨hascii, hdigit⟩ := octet_of_isDigit (hdigits c List.mem_cons_self)
    exact ⟨_, _, Text.octets_cons_of_ascii s hascii, ⟨c, rfl, rfl⟩, hdigit,
      isDigit_octets fun d hd => hdigits d (List.mem_cons_of_mem c hd)⟩

theorem digits?_octets {s : List Char} (h : IsDigits s) {rest : List UInt8}
    (hr : Stops isDigit rest) : digits? (octets s ++ rest) = some rest := by
  obtain ⟨b, bs, hs, -, hb, hbs⟩ := octets_digits h
  rw [hs, List.cons_append, digits?, if_pos hb, List.dropWhile_append_of_pos hbs,
    Text.dropWhile_of_stops hr]

/-! ### The parts of a number -/

theorem wholePart?_octets {s : List Char} (h : IsWhole s) {rest : List UInt8}
    (hr : Stops isDigit rest) : wholePart? (octets s ++ rest) = some rest := by
  rcases h with rfl | ⟨hdigits, hzero⟩
  · cases rest with
    | nil => rfl
    | cons b rest =>
      have hb : ¬isDigit b = true := by
        rw [hr b rfl]
        exact Bool.false_ne_true
      exact if_neg hb
  · obtain ⟨b, bs, hs, ⟨c, hc, hb⟩, -⟩ := octets_digits hdigits
    have hascii := (octet_of_isDigit (hdigits.2 c (List.mem_of_mem_head? hc))).1
    have hne : b ≠ 0x30 := by
      intro hb0
      have hn : c.toNat = 0x30 := by
        have := congrArg UInt8.toNat (hb.symm.trans hb0)
        rwa [UInt8.toNat_ofNat', Nat.mod_eq_of_lt (by omega)] at this
      apply hzero
      rw [hc]
      exact congrArg some (Char.toNat_inj.mp hn)
    have hread := digits?_octets hdigits hr
    rw [hs, List.cons_append] at hread ⊢
    exact (if_neg hne).trans hread

theorem fraction?_of_stops {rest : List UInt8} (h : Stops isPoint rest) :
    fraction? rest = some rest := by
  unfold fraction?
  split
  · exact absurd (h 0x2E rfl) (by decide)
  · rfl

theorem fraction?_octets {s : List Char} (h : IsFraction s) {rest : List UInt8}
    (hd : Stops isDigit rest) (hp : Stops isPoint rest) :
    fraction? (octets s ++ rest) = some rest := by
  cases h with
  | none => exact fraction?_of_stops hp
  | point hdigits => exact digits?_octets hdigits hd

theorem isExponentSign_octet {e : Char} (he : e = 'e' ∨ e = 'E') :
    e.toNat ≤ 0x7F ∧ (UInt8.ofNat e.toNat = 0x65 ∨ UInt8.ofNat e.toNat = 0x45) := by
  rcases he with rfl | rfl <;> decide

/-- A digit right behind the `e` is no sign. -/
theorem exponent?_unsigned {e b : UInt8} (he : e = 0x65 ∨ e = 0x45) (s : List UInt8)
    (hb : isDigit b = true) : exponent? (e :: b :: s) = digits? (b :: s) := by
  refine (if_pos he).trans ?_
  split
  · rename_i hcons
    rw [(List.cons.inj hcons).1] at hb
    cases hb
  · rename_i hcons
    rw [(List.cons.inj hcons).1] at hb
    cases hb
  · rfl

theorem exponent?_octets {s : List Char} (h : IsExponent s) {rest : List UInt8}
    (hr : Stops continues rest) : exponent? (octets s ++ rest) = some rest := by
  have hd : Stops isDigit rest := hr.mono fun b hb => by simp [continues, hb]
  cases h with
  | none =>
    cases rest with
    | nil => rfl
    | cons b rest =>
      have hb : ¬(b = 0x65 ∨ b = 0x45) := by
        have := hr b rfl
        simp only [continues, Bool.or_eq_false_iff] at this
        simpa [isExponentSign] using this.2
      exact if_neg hb
  | unsigned he hdigits =>
    obtain ⟨hascii, hsign⟩ := isExponentSign_octet he
    obtain ⟨b, bs, hs, -, hb, -⟩ := octets_digits hdigits
    have hread := digits?_octets hdigits hd
    rw [hs, List.cons_append] at hread
    rw [Text.octets_cons_of_ascii _ hascii, hs, List.cons_append, List.cons_append,
      exponent?_unsigned hsign _ hb, hread]
  | signed he hs hdigits =>
    obtain ⟨hascii, hsign⟩ := isExponentSign_octet he
    have hread := digits?_octets hdigits hd
    rw [Text.octets_cons_of_ascii _ hascii, List.cons_append]
    rcases hs with rfl | rfl
    · exact (if_pos hsign).trans hread
    · exact (if_pos hsign).trans hread

/-! ### Whole numbers -/

theorem stops_exponent {s : List Char} (h : IsExponent s) {rest : List UInt8}
    (hr : Stops continues rest) : Stops (fun b => isDigit b || isPoint b) (octets s ++ rest) := by
  have hsign : ∀ e t, (e = 'e' ∨ e = 'E') →
      Stops (fun b => isDigit b || isPoint b) (octets (e :: t) ++ rest) := by
    intro e t he
    obtain ⟨hascii, hsign⟩ := isExponentSign_octet he
    rw [Text.octets_cons_of_ascii _ hascii, List.cons_append]
    apply stops_cons
    rcases hsign with hsign | hsign
    · rw [hsign]
      decide
    · rw [hsign]
      decide
  cases h with
  | none => exact hr.mono fun b hb => by simp only [continues, hb, Bool.true_or]
  | unsigned he _ => exact hsign _ _ he
  | signed he _ _ => exact hsign _ _ he

theorem stops_fraction {s : List Char} (h : IsFraction s) {rest : List UInt8}
    (hr : Stops isDigit rest) : Stops isDigit (octets s ++ rest) := by
  cases h with
  | none => exact hr
  | point _ => exact stops_cons _ (by decide)

theorem head_of_isWhole {s : List Char} (h : IsWhole s) (t : List Char) :
    ∃ b bs, octets (s ++ t) = b :: bs ∧ isDigit b = true := by
  rw [Text.octets_append]
  rcases h with rfl | ⟨hdigits, -⟩
  · exact ⟨0x30, octets t, rfl, by decide⟩
  · obtain ⟨b, bs, hoctets, -, hb, -⟩ := octets_digits hdigits
    rw [hoctets]
    exact ⟨b, bs ++ octets t, rfl, hb⟩

theorem head_of_isNumber {s : List Char} (h : IsNumber s) :
    ∃ b bs, octets s = b :: bs ∧ (isDigit b = true ∨ b = 0x2D) := by
  cases h with
  | @mk sign whole fraction exponent hs hw _ _ =>
    rcases hs with rfl | rfl
    · obtain ⟨b, bs, hoctets, hb⟩ := head_of_isWhole hw (fraction ++ exponent)
      exact ⟨b, bs, hoctets, Or.inl hb⟩
    · exact ⟨0x2D, octets (whole ++ (fraction ++ exponent)), rfl, Or.inr rfl⟩

theorem number?_unsigned {b : UInt8} (s : List UInt8) (hb : isDigit b = true) :
    number? (b :: s) = (wholePart? (b :: s)).bind fun s => (fraction? s).bind exponent? := by
  have hsign : b ≠ 0x2D := by
    rintro rfl
    cases hb
  unfold number?
  split
  · rename_i hcons
    exact absurd (List.cons.inj hcons).1 hsign
  · rfl

theorem number?_octets {s : List Char} (h : IsNumber s) {rest : List UInt8}
    (hr : Stops continues rest) : number? (octets s ++ rest) = some rest := by
  cases h with
  | @mk sign whole fraction exponent hs hw hf he =>
    have hexponent := stops_exponent he hr
    have hd : Stops isDigit (octets exponent ++ rest) :=
      hexponent.mono fun b hb => by simp only [hb, Bool.true_or]
    have hp : Stops isPoint (octets exponent ++ rest) :=
      hexponent.mono fun b hb => by simp only [hb, Bool.or_true]
    have hunsigned : (wholePart? (octets (whole ++ (fraction ++ exponent)) ++ rest)).bind
        (fun s => (fraction? s).bind exponent?) = some rest := by
      rw [Text.octets_append, Text.octets_append, List.append_assoc, List.append_assoc,
        wholePart?_octets hw (stops_fraction hf hd), Option.bind_some, fraction?_octets hf hd hp,
        Option.bind_some, exponent?_octets he hr]
    rcases hs with rfl | rfl
    · obtain ⟨b, bs, hoctets, hb⟩ := head_of_isWhole hw (fraction ++ exponent)
      rw [hoctets, List.cons_append] at hunsigned
      rw [List.nil_append, hoctets, List.cons_append, number?_unsigned _ hb, hunsigned]
    · exact hunsigned

end ScriptPress.Json
