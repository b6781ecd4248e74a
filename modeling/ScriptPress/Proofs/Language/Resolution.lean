import Mathlib.Data.List.Forall2
import ScriptPress.Proofs.Language.Spelling
import ScriptPress.Text.Split

/-!
# Which spellings resolve

A language and an extension are named in many spellings: blanks around, dots in front, ASCII
letters in either case. Here it is said what a spelling comes to, without the functions that resolve
it. Main statement: exactly the spellings of a name resolve to it, all of them alike, and a fault
shows what a spelling came to.
-/
namespace ScriptPress

namespace Text

/-- What a text is between the blanks at its ends. -/
def IsBetween (text s : List Char) : Prop :=
  ∃ before after, text = before ++ s ++ after ∧ AllBlank before ∧ AllBlank after ∧
    (∀ c, s.head? = some c → isBlank c = false) ∧ ∀ c, s.getLast? = some c → isBlank c = false

theorem isBetween_iff (text s : List Char) : IsBetween text s ↔ s = trim text := by
  constructor
  · rintro ⟨before, after, rfl, hbefore, hafter, hhead, hlast⟩
    exact (trim_between before s after hbefore hafter hhead hlast).symm
  · rintro rfl
    obtain ⟨before, after, htext, hbefore, hafter⟩ := exists_append_trim text
    exact ⟨before, after, htext, hbefore, hafter, not_blank_of_head?_trim text,
      not_blank_of_getLast?_trim text⟩

theorem trim_padded (s : List Char) {before after : List Char} (hb : AllBlank before)
    (ha : AllBlank after) : trim (before ++ s ++ after) = trim s := by
  obtain ⟨lead, trail, hs, hlead, htrail⟩ := exists_append_trim s
  have hpadded : before ++ s ++ after = (before ++ lead) ++ trim s ++ (trail ++ after) := by
    have happend := congrArg (before ++ · ++ after) hs
    simpa only [List.append_assoc] using happend
  rw [hpadded]
  exact trim_between _ _ _ (hb.append hlead) (htrail.append ha) (not_blank_of_head?_trim s)
    (not_blank_of_getLast?_trim s)

theorem trimEnd_append_of_not_blank {front : List Char} (h : ∀ c ∈ front, isBlank c = false)
    (s : List Char) : trimEnd (front ++ s) = front ++ trimEnd s := by
  have hfront : front.reverse.dropWhile isBlank = front.reverse := by
    apply dropWhile_of_stops
    intro c hc
    exact h c (List.mem_reverse.mp (List.mem_of_mem_head? hc))
  simp only [trimEnd, dropEndWhile, List.reverse_append, List.dropWhile_append, hfront]
  split
  · rename_i hempty
    rw [List.isEmpty_iff.mp hempty]
    simp
  · simp

end Text

namespace Language

open Text (AllBlank IsBetween Stops isBlank)

/-! ### Letters in either case -/

/-- Two characters are one, or the same ASCII letter in different cases. -/
def SameLetter (c d : Char) : Prop :=
  c = d ∨ (c.isUpper = true ∧ d.toNat = c.toNat + 32) ∨ (d.isUpper = true ∧ c.toNat = d.toNat + 32)

def SameLetters (s t : List Char) : Prop := List.Forall₂ SameLetter s t

theorem isUpper_iff_val (c : Char) :
    c.isUpper = true ↔ c.val ≥ 'A'.val ∧ c.val ≤ 'Z'.val := decide_eq_true_iff

theorem isUpper_iff (c : Char) : c.isUpper = true ↔ 65 ≤ c.toNat ∧ c.toNat ≤ 90 := by
  rw [isUpper_iff_val]
  exact and_congr UInt32.le_iff_toNat_le UInt32.le_iff_toNat_le

theorem toNat_toLower (c : Char) :
    c.toLower.toNat = if c.isUpper = true then c.toNat + 32 else c.toNat := by
  unfold Char.toLower
  by_cases h : c.val ≥ 'A'.val ∧ c.val ≤ 'Z'.val
  · have hbounds := (isUpper_iff c).mp ((isUpper_iff_val c).mpr h)
    have hbound : c.toNat + 32 < 2 ^ 32 := by omega
    rw [dif_pos h, if_pos ((isUpper_iff_val c).mpr h)]
    exact (UInt32.toNat_add _ _).trans (Nat.mod_eq_of_lt hbound)
  · rw [dif_neg h, if_neg (mt (isUpper_iff_val c).mp h)]

theorem toLower_eq_toLower_iff (c d : Char) : c.toLower = d.toLower ↔ SameLetter c d := by
  have hinj : ∀ a b : Char, a = b ↔ a.toNat = b.toNat := fun a b => Char.toNat_inj.symm
  unfold SameLetter
  rw [hinj, hinj, toNat_toLower, toNat_toLower]
  simp only [isUpper_iff]
  split <;> split <;> omega

theorem folded_eq_folded_iff (s t : List Char) : folded s = folded t ↔ SameLetters s t := by
  unfold folded SameLetters
  rw [← List.forall₂_eq_eq_eq, List.forall₂_map_left_iff, List.forall₂_map_right_iff]
  simp only [toLower_eq_toLower_iff]

theorem sameLetters_iff_of_folded {name : List Char} (h : folded name = name) (s : List Char) :
    SameLetters s name ↔ folded s = name := by
  rw [← folded_eq_folded_iff, h]

theorem isAscii_of_all {s : List Char} (h : (s.all fun c => decide (c.toNat < 0x80)) = true) :
    ∀ c ∈ s, c.toNat < 0x80 := by
  intro c hc
  exact of_decide_eq_true (List.all_eq_true.mp h c hc)

/-- No character beyond ASCII is a letter in another case. -/
theorem isAscii_of_sameLetters {s name : List Char} (h : SameLetters s name)
    (hname : ∀ d ∈ folded name, d.toNat < 0x80) : ∀ c ∈ s, c.toNat < 0x80 := by
  intro c hc
  have hmem : c.toLower ∈ folded name := by
    rw [← (folded_eq_folded_iff s name).mpr h]
    exact List.mem_map_of_mem hc
  have hlower := hname _ hmem
  rw [toNat_toLower] at hlower
  split at hlower <;> omega

/-! ### What an extension comes to -/

/-- What a text is between the blanks at its ends, and behind the dots that this begins with. -/
def IsBare (text bare : List Char) : Prop :=
  ∃ dots, IsBetween text (dots ++ bare) ∧ (∀ c ∈ dots, c = '.') ∧ Stops (· == '.') bare

theorem isBare_iff (text : String) (bare : List Char) :
    IsBare text.toList bare ↔ bare = bareExtension text := by
  unfold IsBare bareExtension
  constructor
  · rintro ⟨dots, hbetween, hdots, hbare⟩
    have hall : ∀ c ∈ dots, (c == '.') = true := fun c hc => beq_iff_eq.mpr (hdots c hc)
    rw [← (Text.isBetween_iff _ _).mp hbetween]
    exact (Text.cut_append hall hbare).2.symm
  · rintro rfl
    refine ⟨(Text.trim text.toList).takeWhile (· == '.'), ?_, ?_, Text.stops_dropWhile _ _⟩
    · rw [List.takeWhile_append_dropWhile]
      exact (Text.isBetween_iff _ _).mpr rfl
    · intro c hc
      exact beq_iff_eq.mp (Text.forall_mem_takeWhile _ _ c hc)

theorem folded_injOn_extensions (l : Language) :
    ∀ x ∈ l.extensions, ∀ y ∈ l.extensions, folded x.toList = folded y.toList → x = y := by
  cases l <;> decide

theorem ne_empty_of_mem_extensions (l : Language) : ∀ x ∈ l.extensions, x.toList ≠ [] := by
  cases l <;> decide

theorem isAscii_of_mem_extensions (l : Language) :
    ∀ x ∈ l.extensions, ∀ d ∈ folded x.toList, d.toNat < 0x80 := by
  have hall : ∀ x ∈ l.extensions,
      ((folded x.toList).all fun d => decide (d.toNat < 0x80)) = true := by cases l <;> decide
  intro x hx
  exact isAscii_of_all (hall x hx)

theorem extension?_eq_some_iff (l : Language) (text x : String) :
    l.extension? text = some x ↔
      (bareExtension text = [] ∧ x = l.extension) ∨
        (x ∈ l.extensions ∧ SameLetters (bareExtension text) x.toList) := by
  unfold extension?
  split
  · rename_i hbare
    constructor
    · intro h
      exact .inl ⟨hbare, (Option.some.inj h).symm⟩
    · rintro (⟨-, rfl⟩ | ⟨hx, hsame⟩)
      · rfl
      · rw [hbare] at hsame
        exact absurd (List.forall₂_nil_left_iff.mp hsame) (l.ne_empty_of_mem_extensions x hx)
  · rename_i hbare
    constructor
    · intro h
      have hfolded := List.find?_some h
      rw [beq_iff_eq] at hfolded
      exact .inr ⟨List.mem_of_find?_eq_some h, (folded_eq_folded_iff _ _).mp hfolded.symm⟩
    · rintro (⟨hnil, -⟩ | ⟨hx, hsame⟩)
      · exact absurd hnil hbare
      · -- The first extension that matches is the only one.
        have hfolded := (folded_eq_folded_iff _ _).mpr hsame
        cases hfind : l.extensions.find? fun ext =>
            folded ext.toList == folded (bareExtension text) with
        | none =>
          have hnone := List.find?_eq_none.mp hfind x hx
          rw [beq_iff_eq] at hnone
          exact absurd hfolded.symm hnone
        | some y =>
          have hy := List.find?_some hfind
          rw [beq_iff_eq, hfolded] at hy
          rw [l.folded_injOn_extensions y (List.mem_of_find?_eq_some hfind) x hx hy]

/-- An extension is named in ASCII alone. -/
theorem isAscii_of_extension? {l : Language} {text x : String} (h : l.extension? text = some x) :
    ∀ c ∈ bareExtension text, c.toNat < 0x80 := by
  rcases (l.extension?_eq_some_iff text x).mp h with ⟨hnil, -⟩ | ⟨hx, hsame⟩
  · rw [hnil]
    exact fun c hc => absurd hc List.not_mem_nil
  · exact isAscii_of_sameLetters hsame (l.isAscii_of_mem_extensions x hx)

theorem resolveExtension_eq_ok_iff (l : Language) (text x : String) :
    l.resolveExtension (some text) = .ok x ↔ l.extension? text = some x := by
  rw [resolveExtension]
  cases l.extension? text with
  | some found => simp
  | none => simp

/-! ### What makes no difference -/

/-- Spellings of an extension that come to the same: with more blanks around, with more dots behind
the blanks in front, or with letters in the other case. -/
inductive Respelled : List Char → List Char → Prop
  | padded (s) {before after} (hb : AllBlank before) (ha : AllBlank after) :
      Respelled s (before ++ s ++ after)
  | dotted {before dots s} (hb : AllBlank before) (hd : ∀ c ∈ dots, c = '.')
      (hs : Stops isBlank s) : Respelled (before ++ s) (before ++ (dots ++ s))
  | recased {s t} (h : SameLetters s t) : Respelled s t
  | symm {s t} (h : Respelled s t) : Respelled t s
  | trans {s t u} (h : Respelled s t) (h' : Respelled t u) : Respelled s u

theorem isBlank_toLower (c : Char) : isBlank c.toLower = isBlank c := by
  have hletter : ∀ d : Char, 65 ≤ d.toNat → d.toNat ≤ 122 → isBlank d = false := by
    intro d hd hd'
    simp only [isBlank, Bool.or_eq_false_iff, Bool.and_eq_false_iff, decide_eq_false_iff_not,
      beq_eq_false_iff_ne]
    omega
  have hlower := toNat_toLower c
  by_cases h : c.isUpper = true
  · obtain ⟨hfrom, hto⟩ := (isUpper_iff c).mp h
    rw [if_pos h] at hlower
    rw [hletter c hfrom (by omega), hletter c.toLower (by omega) (by omega)]
  · rw [if_neg h] at hlower
    rw [Char.toNat_inj.mp hlower]

theorem isDot_toLower (c : Char) : (c.toLower == '.') = (c == '.') := by
  have hdot : '.'.toNat = 46 := rfl
  rw [Bool.eq_iff_iff, beq_iff_eq, beq_iff_eq, ← Char.toNat_inj, ← Char.toNat_inj, toNat_toLower,
    hdot]
  simp only [isUpper_iff]
  split <;> omega

theorem folded_dropWhile {p : Char → Bool} (hp : ∀ c, p c.toLower = p c) (s : List Char) :
    folded (s.dropWhile p) = (folded s).dropWhile p := by
  have hcomp : p ∘ Char.toLower = p := funext hp
  rw [folded, folded, List.dropWhile_map, hcomp]

theorem folded_trim (s : List Char) : folded (Text.trim s) = Text.trim (folded s) := by
  have hreverse : ∀ t : List Char, folded t.reverse = (folded t).reverse :=
    fun t => List.map_reverse
  rw [Text.trim, Text.trimEnd, Text.dropEndWhile, hreverse, folded_dropWhile isBlank_toLower,
    hreverse, Text.trimStart, folded_dropWhile isBlank_toLower]
  rfl

theorem trim_dotted {before dots s : List Char} (hb : AllBlank before) (hd : ∀ c ∈ dots, c = '.')
    (hs : Stops isBlank s) :
    Text.trim (before ++ (dots ++ s)) = dots ++ Text.trim (before ++ s) := by
  have hdots : ∀ c ∈ dots, isBlank c = false := by
    intro c hc
    rw [hd c hc]
    rfl
  have hstart : ∀ t, Stops isBlank t → Text.trim (before ++ t) = Text.trimEnd t := by
    intro t ht
    rw [Text.trim, Text.trimStart_blank_append hb, Text.trimStart_of_head? t ht]
  have hstops : Stops isBlank (dots ++ s) := by
    cases dots with
    | nil => exact hs
    | cons c dots => exact Text.stops_cons _ (hdots c List.mem_cons_self)
  rw [hstart _ hstops, hstart _ hs, Text.trimEnd_append_of_not_blank hdots]

theorem Respelled.folded_bare {s t : List Char} (h : Respelled s t) :
    folded ((Text.trim s).dropWhile (· == '.')) = folded ((Text.trim t).dropWhile (· == '.')) := by
  induction h with
  | padded s hb ha => rw [Text.trim_padded s hb ha]
  | @dotted before dots s hb hd hs =>
    rw [trim_dotted hb hd hs, List.dropWhile_append_of_pos fun c hc => beq_iff_eq.mpr (hd c hc)]
  | recased h =>
    rw [folded_dropWhile isDot_toLower, folded_dropWhile isDot_toLower, folded_trim, folded_trim,
      (folded_eq_folded_iff _ _).mpr h]
  | symm _ ih => exact ih.symm
  | trans _ _ ih ih' => exact ih.trans ih'

theorem extension?_congr (l : Language) {text other : String}
    (h : folded (bareExtension text) = folded (bareExtension other)) :
    l.extension? text = l.extension? other := by
  have hnil : bareExtension text = [] ↔ bareExtension other = [] := by
    have hempty : ∀ s : List Char, s = [] ↔ folded s = [] := fun s => List.map_eq_nil_iff.symm
    rw [hempty, h, ← hempty]
  have hiff : ∀ x, l.extension? text = some x ↔ l.extension? other = some x := by
    intro x
    simp only [extension?_eq_some_iff, ← folded_eq_folded_iff, h, hnil]
  exact Option.ext hiff

theorem resolveExtension_congr (l : Language) {text other : String}
    (h : Respelled text.toList other.toList) :
    (l.resolveExtension (some other)).toOption = (l.resolveExtension (some text)).toOption := by
  rw [resolveExtension, resolveExtension, ← l.extension?_congr h.folded_bare]
  cases l.extension? text with
  | some e => rfl
  | none => rfl

/-! ### What a language comes to -/

theorem ofId?_eq_some_iff (text : String) (l : Language) :
    ofId? text = some l ↔
      SameLetters (Text.trim text.toList) l.id.toList ∨
        SameLetters (Text.trim text.toList) l.extension.toList := by
  have hid : folded l.id.toList = l.id.toList := by cases l <;> decide
  have hextension : folded l.extension.toList = l.extension.toList := by cases l <;> decide
  rw [sameLetters_iff_of_folded hid, sameLetters_iff_of_folded hextension]
  have hof : ∀ name : String, folded (Text.trim text.toList) = name.toList ↔
      String.ofList (folded (Text.trim text.toList)) = name := by
    intro name
    rw [← String.toList_inj, String.toList_ofList]
  rw [hof, hof, ofId?]
  generalize String.ofList (folded (Text.trim text.toList)) = name
  constructor
  · intro h
    split at h <;> cases h <;> simp [id, extension]
  · rintro (rfl | rfl) <;> cases l <;> rfl

theorem isAscii_of_ofId? {text : String} {l : Language} (h : ofId? text = some l) :
    ∀ c ∈ Text.trim text.toList, c.toNat < 0x80 := by
  rcases (ofId?_eq_some_iff text l).mp h with hsame | hsame
  · exact isAscii_of_sameLetters hsame (isAscii_of_all (by cases l <;> decide))
  · exact isAscii_of_sameLetters hsame (isAscii_of_all (by cases l <;> decide))

theorem resolve_eq_ok_iff (text : String) (l : Language) :
    resolve text = .ok l ↔ ofId? text = some l := by
  rw [resolve]
  cases ofId? text with
  | some found => simp
  | none => simp

theorem resolve_congr {text other : String}
    (h : SameLetters (Text.trim other.toList) (Text.trim text.toList)) :
    (resolve other).toOption = (resolve text).toOption := by
  have hsame : ofId? other = ofId? text := by
    rw [ofId?, ofId?, (folded_eq_folded_iff _ _).mpr h]
  rw [resolve, resolve, hsame]
  cases ofId? text with
  | some l => rfl
  | none => rfl

/-- An extension of a language that is an identifier at all is one of this language. -/
theorem resolve_of_mem_extensions {l : Language} {e : String} (he : e ∈ l.extensions)
    (h : ∃ found, resolve e = .ok found) : resolve e = .ok l := by
  have hall : ∀ e ∈ l.extensions, ofId? e = none ∨ ofId? e = some l := by cases l <;> decide
  obtain ⟨found, hfound⟩ := h
  rw [resolve_eq_ok_iff] at hfound ⊢
  rcases hall e he with hnone | hsome
  · rw [hnone] at hfound
    cases hfound
  · exact hsome

/-! ### Resolution -/

/-- A name is resolved by what its spelling comes to. For an extension this is what is left between
the blanks at the ends of the text and behind the dots in front: nothing stands for the default, and
anything else for the extension of the language that it is up to ASCII case. So more blanks around,
more dots in front and letters in the other case make no difference, a resolved extension resolves
to itself, and a fault shows what was left. For a language it is what is left between the blanks,
which is the identifier or the default extension of the language up to ASCII case; a fault shows the
text as it was given. The identifier of a resolved language resolves to it, as does each of its
extensions that is an identifier at all. No spelling with a character beyond ASCII resolves,
whatever letter it looks like. -/
theorem resolution_by_spelling :
    (∀ (l : Language) (text : String), ∃ bare, (∀ s, IsBare text.toList s ↔ s = bare) ∧
      (∀ x, l.resolveExtension (some text) = .ok x ↔
        (bare = [] ∧ x = l.extension) ∨ (x ∈ l.extensions ∧ SameLetters bare x.toList)) ∧
      (∀ fault, l.resolveExtension (some text) = .error fault ↔
        (¬∃ x, l.resolveExtension (some text) = .ok x) ∧
          fault = .unsupportedExtension l.id (String.ofList bare)
            (", ".intercalate l.extensions)) ∧
      (∀ other : String, Respelled text.toList other.toList →
        (l.resolveExtension (some other)).toOption = (l.resolveExtension (some text)).toOption) ∧
      (∀ x, l.resolveExtension (some text) = .ok x → l.resolveExtension (some x) = .ok x) ∧
      (∀ x, l.resolveExtension (some text) = .ok x → ∀ c ∈ bare, c.toNat < 0x80)) ∧
    ∀ text : String, ∃ core, (∀ s, IsBetween text.toList s ↔ s = core) ∧
      (∀ l, resolve text = .ok l ↔
        SameLetters core l.id.toList ∨ SameLetters core l.extension.toList) ∧
      (∀ fault, resolve text = .error fault ↔
        (¬∃ l, resolve text = .ok l) ∧ fault = .unsupportedLanguage text) ∧
      (∀ (other : String) (s : List Char), IsBetween other.toList s → SameLetters s core →
        (resolve other).toOption = (resolve text).toOption) ∧
      (∀ l, resolve text = .ok l → resolve l.id = .ok l ∧
        ∀ e ∈ l.extensions, (∃ l', resolve e = .ok l') → resolve e = .ok l) ∧
      (∀ l, resolve text = .ok l → ∀ c ∈ core, c.toNat < 0x80) := by
  refine ⟨fun l text => ?_, fun text => ?_⟩
  · refine ⟨bareExtension text, isBare_iff text, fun x => ?_, fun fault => ?_,
      fun other => l.resolveExtension_congr, fun x hx => ?_, fun x hx => ?_⟩
    · rw [resolveExtension_eq_ok_iff, extension?_eq_some_iff]
    · simp [resolveExtension_eq_error_iff]
    · exact l.resolveExtension_of_mem x (l.mem_of_resolveExtension (some text) x hx)
    · exact isAscii_of_extension? ((l.resolveExtension_eq_ok_iff text x).mp hx)
  · refine ⟨Text.trim text.toList, Text.isBetween_iff text.toList, fun l => ?_,
      resolve_eq_error_iff text, fun other s hs hsame => ?_, fun l _ => ⟨l.resolve_id, ?_⟩,
      fun l hl => ?_⟩
    · rw [resolve_eq_ok_iff, ofId?_eq_some_iff]
    · rw [(Text.isBetween_iff other.toList s).mp hs] at hsame
      exact resolve_congr hsame
    · exact fun e he => resolve_of_mem_extensions he
    · exact isAscii_of_ofId? ((resolve_eq_ok_iff text l).mp hl)

/-- Blanks behind a dot are not taken off, and the long s is no s in any case. -/
example : ofId? "\u2003Js\n" = some .javaScript ∧ ofId? "j\u017f" = none ∧
    extension? .typeScript " ..TSX " = some "tsx" ∧ extension? .typeScript ". tsx" = none := by
  decide

end Language
end ScriptPress
