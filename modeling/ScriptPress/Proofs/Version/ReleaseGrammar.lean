import Mathlib.Data.List.Basic
import Mathlib.Data.List.Induction
import ScriptPress.Text.Split
import ScriptPress.Version.Release

/-!
# The grammar of release numbers

What the readers of release numbers accept, told by how such a text is put together: numbers as they
are printed, identifiers with dots between, and a sign in front of each suffix. Main statement: a
release is three numbers and suffixes (`isRelease_iff`).
-/
namespace ScriptPress.Version

open Text (IsSeries Stops)

/-! ### Numbers -/

/-- The decimal text of a number that fits into 64 bits. -/
def IsNumeral (s : List Char) : Prop := ∃ n, n < UInt64.size ∧ s = Nat.toDigits 10 n

theorem digitsValue_toDigits (n : Nat) : digitsValue (Nat.toDigits 10 n) = n := by
  have hvalue : digitsValue (Nat.toDigits 10 n) = Nat.ofDigitChars 10 (Nat.toDigits 10 n) 0 :=
    Nat.ofDigitChars_eq_foldl.symm
  rw [hvalue, Nat.ofDigitChars_ten_toDigits]

theorem isDigit_of_mem_toDigits (n : Nat) : ∀ c ∈ Nat.toDigits 10 n, c.isDigit = true :=
  fun _ hc => Nat.isDigit_of_mem_toDigits (by omega) (by omega) hc

theorem eq_zero_of_head?_toDigits {n : Nat} (h : (Nat.toDigits 10 n).head? = some '0') : n = 0 := by
  induction n using Nat.strongRecOn with
  | ind n ih =>
    by_cases hn : n < 10
    · rw [Nat.toDigits_of_lt_base hn] at h
      have hzero : n.digitChar = '0' := Option.some.inj h
      exact Nat.digitChar_eq_zero.mp hzero
    · rw [Nat.toDigits_of_base_le (by omega) (by omega), List.head?_append,
        List.head?_eq_some_head Nat.toDigits_ne_nil, Option.some_or] at h
      rw [← List.head?_eq_some_head Nat.toDigits_ne_nil] at h
      have hdiv := ih (n / 10) (by omega) h
      omega

theorem digitChar_of_isDigit {c : Char} (h : c.isDigit = true) :
    c.toNat - '0'.toNat < 10 ∧ (c.toNat - '0'.toNat).digitChar = c := by
  obtain ⟨hlow, hhigh⟩ := Char.isDigit_iff_toNat.mp h
  have hzero : '0'.toNat = 48 := rfl
  have hnine : '9'.toNat = 57 := rfl
  have hlt : c.toNat - '0'.toNat < 10 := by omega
  refine ⟨hlt, ?_⟩
  have hvalue := Nat.toNat_digitChar_of_lt_ten hlt
  apply Char.toNat_inj.mp
  omega

theorem toDigits_digitsValue {s : List Char} (hne : s ≠ []) (hdigits : ∀ c ∈ s, c.isDigit = true)
    (hzero : s.head? = some '0' → s = ['0']) : Nat.toDigits 10 (digitsValue s) = s := by
  induction s using List.reverseRecOn with
  | nil => exact absurd rfl hne
  | append_singleton s c ih =>
    obtain ⟨hlt, hchar⟩ := digitChar_of_isDigit (hdigits c (by simp))
    have hvalue : digitsValue (s ++ [c]) = 10 * digitsValue s + (c.toNat - '0'.toNat) := by
      simp [digitsValue]
    rw [hvalue]
    cases hs : s with
    | nil =>
      show Nat.toDigits 10 (10 * 0 + (c.toNat - '0'.toNat)) = [c]
      rw [Nat.mul_zero, Nat.zero_add, Nat.toDigits_of_lt_base hlt, hchar]
    | cons d rest =>
      have hhead : s.head? ≠ some '0' := by
        intro h
        have hone := congrArg List.length (hzero (by rw [List.head?_append, h]; rfl))
        simp [hs] at hone
      have hprinted := ih (by simp [hs]) (fun x hx => hdigits x (by simp [hx]))
        (fun h => absurd h hhead)
      have hpos : 0 < digitsValue s := by
        rw [Nat.pos_iff_ne_zero]
        intro hnone
        rw [hnone] at hprinted
        exact hhead (by rw [← hprinted]; rfl)
      rw [← hs, ← Nat.toDigits_append_toDigits (by omega) hpos hlt, hprinted,
        Nat.toDigits_of_lt_base hlt, hchar]

theorem isNumber_eq_true_iff (s : List Char) :
    isNumber s = true ↔ s ≠ [] ∧ (s.head? = some '0' → s = ['0']) ∧ digitsValue s < UInt64.size := by
  unfold isNumber
  split
  · simp
  · simp [digitsValue, UInt64.size]
  · rename_i rest hone
    simp
    intro h
    exact absurd h (by simpa using hone)
  · rename_i hnil _ hzero
    have hhead : s.head? ≠ some '0' := by
      intro h
      cases s with
      | nil => cases h
      | cons c s =>
        obtain rfl := Option.some.inj h
        exact hzero s rfl
    rw [decide_eq_true_eq]
    exact ⟨fun h => ⟨hnil, fun hlead => absurd hlead hhead, h⟩, fun h => h.2.2⟩

theorem isNumber_iff {s : List Char} (hdigits : ∀ c ∈ s, c.isDigit = true) :
    isNumber s = true ↔ IsNumeral s := by
  rw [isNumber_eq_true_iff]
  constructor
  · intro h
    obtain ⟨hne, hzero, hbound⟩ := h
    exact ⟨digitsValue s, hbound, (toDigits_digitsValue hne hdigits hzero).symm⟩
  · intro h
    obtain ⟨n, hn, rfl⟩ := h
    refine ⟨Nat.toDigits_ne_nil, fun h => ?_, ?_⟩
    · rw [eq_zero_of_head?_toDigits h]
      rfl
    · rw [digitsValue_toDigits]
      exact hn

theorem number?_eq_some_iff (s rest : List Char) :
    number? s = some rest ↔
      ∃ digits, s = digits ++ rest ∧ IsNumeral digits ∧ Stops Char.isDigit rest := by
  unfold number?
  constructor
  · intro h
    split at h
    · rename_i hnumber
      obtain rfl := Option.some.inj h
      have hdigits := Text.forall_mem_takeWhile Char.isDigit s
      exact ⟨s.takeWhile Char.isDigit, List.takeWhile_append_dropWhile.symm,
        (isNumber_iff hdigits).mp hnumber, Text.stops_dropWhile Char.isDigit s⟩
    · cases h
  · intro h
    obtain ⟨digits, rfl, hnumeral, hstops⟩ := h
    have hdigits : ∀ c ∈ digits, c.isDigit = true := by
      obtain ⟨n, -, rfl⟩ := hnumeral
      exact isDigit_of_mem_toDigits n
    obtain ⟨htake, hdrop⟩ := Text.cut_append hdigits hstops
    rw [htake, hdrop, if_pos ((isNumber_iff hdigits).mpr hnumeral)]

theorem mark?_eq_some_iff (sign : Char) (s rest : List Char) :
    mark? sign s = some rest ↔ s = sign :: rest := by
  cases s with
  | nil => simp [mark?]
  | cons c s => by_cases h : c = sign <;> simp [mark?, h]

theorem mark?_eq_none_iff (sign : Char) (s : List Char) :
    mark? sign s = none ↔ Stops (· == sign) s := by
  cases s with
  | nil => simp [mark?, Stops]
  | cons c s => by_cases h : c = sign <;> simp [mark?, Stops, h]

theorem core?_eq_some_iff (s rest : List Char) :
    core? s = some rest ↔ ∃ major minor patch,
      s = major ++ '.' :: (minor ++ '.' :: (patch ++ rest)) ∧ IsNumeral major ∧ IsNumeral minor ∧
        IsNumeral patch ∧ Stops Char.isDigit rest := by
  have hdot (t : List Char) : Stops Char.isDigit ('.' :: t) := Text.stops_cons t rfl
  unfold core?
  simp only [Option.bind_eq_bind, Option.bind_eq_some_iff, number?_eq_some_iff, mark?_eq_some_iff]
  constructor
  · rintro ⟨_, ⟨major, rfl, hmajor, -⟩, _, rfl, _, ⟨minor, rfl, hminor, -⟩, _, rfl,
      patch, rfl, hpatch, hstops⟩
    exact ⟨major, minor, patch, rfl, hmajor, hminor, hpatch, hstops⟩
  · rintro ⟨major, minor, patch, rfl, hmajor, hminor, hpatch, hstops⟩
    exact ⟨_, ⟨major, rfl, hmajor, hdot _⟩, _, rfl, _, ⟨minor, rfl, hminor, hdot _⟩, _, rfl,
      patch, rfl, hpatch, hstops⟩

/-! ### Identifiers -/

/-- Identifiers with dots between: not empty, of ASCII letters, digits and hyphens, and of a form
of their own. -/
def IsIdents (form : List Char → Prop) (s : List Char) : Prop :=
  IsSeries '.' (fun ident =>
    (∀ c ∈ ident, c.isAlphanum = true ∨ c = '-') ∧ ident ≠ [] ∧ form ident) s

def HasNoLeadingZero (ident : List Char) : Prop :=
  (∀ c ∈ ident, c.isDigit = true) → ident.head? = some '0' → ident = ['0']

theorem isPreIdent_iff (s : List Char) : isPreIdent s = true ↔ s ≠ [] ∧ HasNoLeadingZero s := by
  unfold isPreIdent HasNoLeadingZero
  split
  · simp
  · rename_i c rest
    rw [Bool.not_eq_true', Bool.eq_false_iff, Ne, List.all_eq_true]
    constructor
    · intro h
      refine ⟨List.cons_ne_nil _ _, fun hall _ => absurd (fun x hx => ?_) h⟩
      exact hall x (List.mem_cons_of_mem _ hx)
    · intro h hall
      have hone := h.2 (List.forall_mem_cons.mpr ⟨rfl, hall⟩) rfl
      cases hone
  · rename_i hnil hzero
    refine ⟨fun _ => ⟨hnil, fun _ hhead => ?_⟩, fun _ => rfl⟩
    cases s with
    | nil => cases hhead
    | cons c s =>
      obtain rfl := Option.some.inj hhead
      cases s with
      | nil => rfl
      | cons d s => exact absurd rfl (hzero d s)

theorem isBuildIdent_iff (s : List Char) : isBuildIdent s = true ↔ s ≠ [] ∧ True := by
  cases s <;> simp [isBuildIdent]

/-- The identifier under way is the start of the first piece. -/
theorem go_eq (ok : List Char → Bool) (ident s first : List Char) (rest : List (List Char))
    (h : Text.splitOn '.' s = first :: rest) :
    isIdents.go ok ident s = (ok (ident.reverse ++ first) && rest.all ok) := by
  induction s generalizing ident first rest with
  | nil =>
    obtain ⟨rfl, rfl⟩ := List.cons.inj h
    simp [isIdents.go]
  | cons c s ih =>
    obtain ⟨next, more, hs⟩ := List.exists_cons_of_ne_nil (Text.splitOn_ne_nil '.' s)
    by_cases hc : c = '.'
    · rw [Text.splitOn, if_pos hc] at h
      obtain ⟨rfl, rfl⟩ := List.cons.inj h
      rw [isIdents.go, if_pos (beq_iff_eq.mpr hc), ih [] next more hs, hs, List.append_nil,
        List.all_cons, List.reverse_nil, List.nil_append]
    · simp only [Text.splitOn, if_neg hc, hs] at h
      obtain ⟨rfl, rfl⟩ := List.cons.inj h
      rw [isIdents.go, if_neg (by simp [hc]), ih (c :: ident) next more hs, List.reverse_cons,
        List.append_assoc, List.singleton_append]

theorem isIdents_iff (ok : List Char → Bool) (s : List Char) :
    isIdents ok s = true ↔ IsSeries '.' (fun ident => ok ident = true) s := by
  obtain ⟨first, rest, hs⟩ := List.exists_cons_of_ne_nil (Text.splitOn_ne_nil '.' s)
  rw [Text.isSeries_iff, isIdents, go_eq ok [] s first rest hs, hs]
  simp

def isInside (c : Char) : Bool := isIdentChar c || c == '.'

theorem isIdents_and_inside_iff (ok : List Char → Bool) (form : List Char → Prop)
    (hok : ∀ ident, ok ident = true ↔ ident ≠ [] ∧ form ident) (s : List Char) :
    (isIdents ok s = true ∧ ∀ c ∈ s, isInside c = true) ↔ IsIdents form s := by
  have hchar (c : Char) :
      isInside c = true ↔ c = '.' ∨ (c.isAlphanum = true ∨ c = '-') := by
    simp [isInside, isIdentChar, or_comm]
  unfold IsIdents
  rw [isIdents_iff, Text.isSeries_and_iff]
  simp only [hok, hchar]

/-! ### Suffixes -/

def IsOptional (sign : Char) (form : List Char → Prop) (s : List Char) : Prop :=
  s = [] ∨ ∃ idents, s = sign :: idents ∧ IsIdents form idents

/-- A pre-release and a build, either of which may be missing. -/
def IsSuffix (s : List Char) : Prop :=
  ∃ pre build, s = pre ++ build ∧ IsOptional '-' HasNoLeadingZero pre ∧
    IsOptional '+' (fun _ => True) build

theorem idents?_eq_some_iff (ok : List Char → Bool) (form : List Char → Prop)
    (hok : ∀ ident, ok ident = true ↔ ident ≠ [] ∧ form ident) (s rest : List Char) :
    idents? ok s = some rest ↔
      ∃ idents, s = idents ++ rest ∧ IsIdents form idents ∧ Stops isInside rest := by
  have hidents := isIdents_and_inside_iff ok form hok
  show (if isIdents ok (s.takeWhile isInside) then some (s.dropWhile isInside) else none) =
    some rest ↔ _
  constructor
  · intro h
    split at h
    · rename_i htaken
      obtain rfl := Option.some.inj h
      exact ⟨s.takeWhile isInside, List.takeWhile_append_dropWhile.symm,
        (hidents _).mp ⟨htaken, Text.forall_mem_takeWhile isInside s⟩,
        Text.stops_dropWhile isInside s⟩
    · cases h
  · intro h
    obtain ⟨idents, rfl, hform, hstops⟩ := h
    obtain ⟨hread, hinside⟩ := (hidents idents).mpr hform
    obtain ⟨htake, hdrop⟩ := Text.cut_append hinside hstops
    rw [htake, hdrop, if_pos hread]

theorem suffix?_eq_some_iff (sign : Char) (ok : List Char → Bool) (form : List Char → Prop)
    (hok : ∀ ident, ok ident = true ↔ ident ≠ [] ∧ form ident) (s rest : List Char) :
    suffix? sign ok s = some rest ↔
      (s = rest ∧ Stops (· == sign) s) ∨
        ∃ idents, s = sign :: (idents ++ rest) ∧ IsIdents form idents ∧ Stops isInside rest := by
  unfold suffix?
  cases hmark : mark? sign s with
  | none =>
    have hstops := (mark?_eq_none_iff sign s).mp hmark
    constructor
    · intro h
      exact Or.inl ⟨Option.some.inj h, hstops⟩
    · rintro (⟨rfl, -⟩ | ⟨idents, rfl, -, -⟩)
      · rfl
      · simp [mark?] at hmark
  | some behind =>
    obtain rfl := (mark?_eq_some_iff sign s behind).mp hmark
    dsimp only
    rw [idents?_eq_some_iff ok form hok]
    constructor
    · rintro ⟨idents, rfl, hform, hstops⟩
      exact Or.inr ⟨idents, rfl, hform, hstops⟩
    · rintro (⟨-, hstops⟩ | ⟨idents, heq, hform, hstops⟩)
      · have hsign := hstops sign rfl
        simp at hsign
      · exact ⟨idents, List.tail_eq_of_cons_eq heq, hform, hstops⟩

theorem IsOptional.stops {sign : Char} {form : List Char → Prop} {s : List Char}
    (h : IsOptional sign form s) {p : Char → Bool} (hp : p sign = false) : Stops p s := by
  rcases h with rfl | ⟨idents, rfl, -⟩
  · exact Text.stops_nil p
  · exact Text.stops_cons idents hp

theorem suffixes?_eq_some_nil_iff (s : List Char) : suffixes? s = some [] ↔ IsSuffix s := by
  have hbuild (t : List Char) :
      suffix? '+' isBuildIdent t = some [] ↔ IsOptional '+' (fun _ => True) t := by
    rw [suffix?_eq_some_iff '+' isBuildIdent (fun _ => True) isBuildIdent_iff]
    constructor
    · rintro (⟨rfl, -⟩ | ⟨idents, rfl, hform, -⟩)
      · exact Or.inl rfl
      · exact Or.inr ⟨idents, by rw [List.append_nil], hform⟩
    · rintro (rfl | ⟨idents, rfl, hform⟩)
      · exact Or.inl ⟨rfl, Text.stops_nil _⟩
      · exact Or.inr ⟨idents, by rw [List.append_nil], hform, Text.stops_nil _⟩
  unfold suffixes?
  simp only [Option.bind_eq_some_iff, hbuild,
    suffix?_eq_some_iff '-' isPreIdent HasNoLeadingZero isPreIdent_iff]
  constructor
  · rintro ⟨build, ⟨rfl, -⟩ | ⟨idents, rfl, hform, -⟩, hoptional⟩
    · exact ⟨[], s, rfl, Or.inl rfl, hoptional⟩
    · exact ⟨'-' :: idents, build, rfl, Or.inr ⟨idents, rfl, hform⟩, hoptional⟩
  · rintro ⟨pre, build, rfl, rfl | ⟨idents, rfl, hform⟩, hoptional⟩
    · exact ⟨build, Or.inl ⟨rfl, hoptional.stops rfl⟩, hoptional⟩
    · exact ⟨build, Or.inr ⟨idents, rfl, hform, hoptional.stops rfl⟩, hoptional⟩

theorem IsSuffix.stops {s : List Char} (h : IsSuffix s) {p : Char → Bool} (hpre : p '-' = false)
    (hbuild : p '+' = false) : Stops p s := by
  obtain ⟨pre, build, rfl, rfl | ⟨idents, rfl, -⟩, hoptional⟩ := h
  · exact hoptional.stops hbuild
  · exact Text.stops_cons _ hpre

/-! ### Releases -/

def IsVersion (count : Nat) (s : List Char) : Prop :=
  ∃ numbers suffix, s = Text.joinWith ['.'] numbers ++ suffix ∧ numbers.length = count ∧
    (∀ number ∈ numbers, IsNumeral number) ∧ IsSuffix suffix

theorem isRelease_iff (s : List Char) : isRelease s = true ↔ IsVersion 3 s := by
  have hread : isRelease s = true ↔ (core? s).bind suffixes? = some [] := by
    unfold isRelease
    split
    · rename_i h
      simp [h]
    · rename_i h
      simp only [Bool.false_eq_true, false_iff]
      exact h
  rw [hread, Option.bind_eq_some_iff]
  simp only [core?_eq_some_iff, suffixes?_eq_some_nil_iff]
  constructor
  · rintro ⟨suffix, ⟨major, minor, patch, rfl, hmajor, hminor, hpatch, -⟩, hsuffix⟩
    refine ⟨[major, minor, patch], suffix, ?_, rfl, ?_, hsuffix⟩
    · simp [Text.joinWith]
    · simp [hmajor, hminor, hpatch]
  · rintro ⟨numbers, suffix, rfl, hlength, hnumbers, hsuffix⟩
    obtain ⟨major, minor, patch, rfl⟩ := List.length_eq_three.mp hlength
    simp only [List.mem_cons, List.not_mem_nil, or_false, forall_eq_or_imp, forall_eq] at hnumbers
    refine ⟨suffix, ⟨major, minor, patch, ?_, hnumbers.1, hnumbers.2.1, hnumbers.2.2,
      hsuffix.stops rfl rfl⟩, hsuffix⟩
    simp [Text.joinWith]

end ScriptPress.Version
