import ScriptPress.Proofs.Json.Numbers
import ScriptPress.Proofs.Json.Strings

/-!
# Reading JSON values

Every text of the grammar is read as the value that it denotes. The steps are those of the grammar:
one for each production, with what follows the production in the statement and with fuel for its
octets. Main statement: `read?_of_denotes`.
-/
namespace ScriptPress.Json

open Text (octets Stops stops_cons stops_nil)

/-! ### Blanks -/

theorem skipBlanks_octets {s : List Char} (h : Blanks s) (rest : List UInt8) :
    skipBlanks (octets s ++ rest) = skipBlanks rest := by
  have hblanks : ∀ b ∈ octets s, isBlank b = true := by
    intro b hb
    obtain ⟨c, hc, hb⟩ := List.mem_flatMap.mp hb
    rcases cases_of_isSpace (h c hc) with rfl | rfl | rfl | rfl <;>
      cases List.mem_singleton.mp hb <;> decide
  exact List.dropWhile_append_of_pos hblanks

theorem skipBlanks_cons {b : UInt8} (s : List UInt8) (h : isBlank b = false) :
    skipBlanks (b :: s) = b :: s :=
  List.dropWhile_cons_of_neg (by rw [h]; exact Bool.false_ne_true)

theorem stops_blanks {s : List Char} (h : Blanks s) {rest : List UInt8}
    (hr : Stops continues rest) : Stops continues (octets s ++ rest) := by
  cases s with
  | nil => exact hr
  | cons c s =>
    have hspace := cases_of_isSpace (h c List.mem_cons_self)
    rcases hspace with rfl | rfl | rfl | rfl <;> exact stops_cons _ (by decide)

/-! ### The first octet -/

/-- The octets that a value can begin with. -/
def begins (b : UInt8) : Bool :=
  isDigit b || b == 0x2D || b == 0x22 || b == 0x5B || b == 0x7B || b == 0x6E || b == 0x74 ||
    b == 0x66

theorem begins_of_bare {s : List Char} {v : Value} (h : Bare s v) :
    ∃ b bs, octets s = b :: bs ∧ begins b = true := by
  cases h with
  | number h =>
    obtain ⟨b, bs, hs, hb⟩ := head_of_isNumber h
    refine ⟨b, bs, hs, ?_⟩
    rcases hb with hb | rfl
    · simp only [begins, hb, Bool.true_or]
    · decide
  | null => exact ⟨_, _, rfl, by decide⟩
  | true => exact ⟨_, _, rfl, by decide⟩
  | false => exact ⟨_, _, rfl, by decide⟩
  | string _ => exact ⟨_, _, rfl, by decide⟩
  | emptyArray _ => exact ⟨_, _, rfl, by decide⟩
  | array _ => exact ⟨_, _, rfl, by decide⟩
  | emptyObject _ => exact ⟨_, _, rfl, by decide⟩
  | object _ => exact ⟨_, _, rfl, by decide⟩

theorem not_blank_of_begins {b : UInt8} (hb : begins b = true) : isBlank b = false := by
  rw [← Bool.not_eq_true]
  intro hblank
  have hnot : begins b = false := by
    simp only [isBlank, Bool.or_eq_true, beq_iff_eq] at hblank
    rcases hblank with ((rfl | rfl) | rfl) | rfl <;> decide
  rw [hnot] at hb
  cases hb

theorem skipBlanks_bare {before s : List Char} {v : Value} (hb : Blanks before) (h : Bare s v)
    (after : List Char) (rest : List UInt8) :
    skipBlanks (octets (before ++ (s ++ after)) ++ rest) =
      octets s ++ (octets after ++ rest) := by
  obtain ⟨b, bs, hs, hbegins⟩ := begins_of_bare h
  rw [Text.octets_append, List.append_assoc, skipBlanks_octets hb, Text.octets_append,
    List.append_assoc, hs]
  exact skipBlanks_cons _ (not_blank_of_begins hbegins)

theorem skipBlanks_of_denotes {s : List Char} {v : Value} (h : Denotes s v) (rest : List UInt8) :
    ∃ b bs, skipBlanks (octets s ++ rest) = b :: bs ∧ begins b = true := by
  cases h with
  | @mk before s after v hbefore _ h =>
    obtain ⟨b, bs, hs, hb⟩ := begins_of_bare h
    refine ⟨b, bs ++ (octets after ++ rest), ?_, hb⟩
    rw [skipBlanks_bare hbefore h, hs]
    rfl

theorem skipBlanks_of_elements {s : List Char} {values : List Value} (h : Elements s values)
    (rest : List UInt8) : ∃ b bs, skipBlanks (octets s ++ rest) = b :: bs ∧ begins b = true := by
  cases h with
  | last h => exact skipBlanks_of_denotes h rest
  | cons h _ =>
    rw [Text.octets_append, List.append_assoc]
    exact skipBlanks_of_denotes h _

/-! ### Names -/

theorem skipBlanks_of_name {s : List Char} {name : String} (h : IsName s name)
    (rest : List UInt8) :
    ∃ bs after pieces, skipBlanks (octets s ++ rest) = 0x22 :: bs ∧
      pieces? bs = some (pieces, after) ∧ content? pieces = some name ∧
      skipBlanks after = skipBlanks rest := by
  cases h with
  | @mk before after name s hbefore hafter hs =>
    obtain ⟨pieces, hpieces, hcontent⟩ := pieces?_glyphs s hs (octets after ++ rest)
    refine ⟨_, _, pieces, ?_, hpieces, hcontent, skipBlanks_octets hafter rest⟩
    have htext : octets (stringText s) = 0x22 :: (octets (s.flatMap Glyph.text) ++ [0x22]) := by
      rw [stringText, Text.octets_cons, Text.octets_append]
      rfl
    rw [Text.octets_append, List.append_assoc, skipBlanks_octets hbefore, Text.octets_append, htext]
    simp only [List.append_assoc, List.cons_append, List.nil_append]
    exact skipBlanks_cons _ (by decide)

theorem skipBlanks_of_members {s : List Char} {members : List (Option String × Value)}
    (h : Members s members) (rest : List UInt8) :
    ∃ b bs, skipBlanks (octets s ++ rest) = b :: bs ∧ b ≠ 0x7D := by
  cases h with
  | last hname _ =>
    obtain ⟨bs, -, -, hs, -⟩ := skipBlanks_of_name hname _
    rw [Text.octets_append, List.append_assoc]
    exact ⟨0x22, bs, hs, by decide⟩
  | cons hname _ _ =>
    obtain ⟨bs, -, -, hs, -⟩ := skipBlanks_of_name hname _
    rw [Text.octets_append, List.append_assoc]
    exact ⟨0x22, bs, hs, by decide⟩

/-! ### One step of the reader -/

theorem value?_string (n : Nat) {s rest : List UInt8} {pieces : List Piece}
    (h : pieces? s = some (pieces, rest)) :
    value? (n + 1) (0x22 :: s) = some (.string (content? pieces), rest) := by
  rw [value?, if_pos rfl, h]
  rfl

theorem value?_number (n : Nat) {b : UInt8} {s rest : List UInt8}
    (hb : isDigit b = true ∨ b = 0x2D) (h : number? (b :: s) = some rest) :
    value? (n + 1) (b :: s) =
      some (.number ((b :: s).take (s.length + 1 - rest.length)), rest) := by
  have hne : ∀ c, isDigit c = false ∧ c ≠ 0x2D → b ≠ c := by
    rintro c ⟨hc, hhyphen⟩ rfl
    rcases hb with hb | hb
    · rw [hc] at hb
      cases hb
    · exact hhyphen hb
  rw [value?, if_neg (hne _ (by decide)), if_neg (hne _ (by decide)), if_neg (hne _ (by decide)),
    if_neg (hne _ (by decide)), if_neg (hne _ (by decide)), if_neg (hne _ (by decide)), h]
  rfl

theorem value?_emptyArray (n : Nat) {s rest : List UInt8} (h : skipBlanks s = 0x5D :: rest) :
    value? (n + 1) (0x5B :: s) = some (.array [], rest) := by
  rw [value?, if_neg (by decide), if_pos rfl, h]
  rfl

theorem value?_array (n : Nat) {s rest : List UInt8} {b : UInt8} {bs : List UInt8}
    {values : List Value} (hs : skipBlanks s = b :: bs) (hb : b ≠ 0x5D)
    (h : elements? n (skipBlanks s) = some (values, rest)) :
    value? (n + 1) (0x5B :: s) = some (.array values, rest) := by
  rw [value?, if_neg (by decide), if_pos rfl]
  split
  · rename_i hclose
    rw [hs] at hclose
    exact absurd (List.cons.inj hclose).1 hb
  · rw [h]
    rfl

theorem value?_emptyObject (n : Nat) {s rest : List UInt8} (h : skipBlanks s = 0x7D :: rest) :
    value? (n + 1) (0x7B :: s) = some (.object [], rest) := by
  rw [value?, if_neg (by decide), if_neg (by decide), if_pos rfl, h]
  rfl

theorem value?_object (n : Nat) {s rest : List UInt8} {b : UInt8} {bs : List UInt8}
    {members : List (Option String × Value)} (hs : skipBlanks s = b :: bs) (hb : b ≠ 0x7D)
    (h : members? n (skipBlanks s) = some (members, rest)) :
    value? (n + 1) (0x7B :: s) = some (.object members, rest) := by
  rw [value?, if_neg (by decide), if_neg (by decide), if_pos rfl]
  split
  · rename_i hclose
    rw [hs] at hclose
    exact absurd (List.cons.inj hclose).1 hb
  · rw [h]
    rfl

theorem elements?_last (n : Nat) {s after rest : List UInt8} {v : Value}
    (hv : value? n s = some (v, after)) (ha : skipBlanks after = 0x5D :: rest) :
    elements? (n + 1) s = some ([v], rest) := by
  simp only [elements?, hv, ha]

theorem elements?_cons (n : Nat) {s after next rest : List UInt8} {v : Value} {values : List Value}
    (hv : value? n s = some (v, after)) (ha : skipBlanks after = 0x2C :: next)
    (hr : elements? n (skipBlanks next) = some (values, rest)) :
    elements? (n + 1) s = some (v :: values, rest) := by
  simp only [elements?, hv, ha, hr]
  rfl

def Named (s : List UInt8) (name : String) (value : List UInt8) : Prop :=
  ∃ bs after pieces, s = 0x22 :: bs ∧ pieces? bs = some (pieces, after) ∧
    content? pieces = some name ∧ skipBlanks after = 0x3A :: value

theorem members?_last (n : Nat) {s value after rest : List UInt8} {name : String} {v : Value}
    (hname : Named s name value) (hv : value? n (skipBlanks value) = some (v, after))
    (ha : skipBlanks after = 0x7D :: rest) :
    members? (n + 1) s = some ([(some name, v)], rest) := by
  obtain ⟨bs, behind, pieces, rfl, hpieces, hcontent, hcolon⟩ := hname
  simp only [members?, hpieces, hcolon, hv, ha, hcontent]

theorem members?_cons (n : Nat) {s value after next rest : List UInt8} {name : String} {v : Value}
    {members : List (Option String × Value)} (hname : Named s name value)
    (hv : value? n (skipBlanks value) = some (v, after)) (ha : skipBlanks after = 0x2C :: next)
    (hr : members? n (skipBlanks next) = some (members, rest)) :
    members? (n + 1) s = some ((some name, v) :: members, rest) := by
  obtain ⟨bs, behind, pieces, rfl, hpieces, hcontent, hcolon⟩ := hname
  simp only [members?, hpieces, hcolon, hv, ha, hr, hcontent]
  rfl

/-! ### Whole values -/

theorem stops_sign {b : UInt8} (s : List UInt8) (hb : b = 0x2C ∨ b = 0x5D ∨ b = 0x7D) :
    Stops continues (b :: s) := by
  apply stops_cons
  rcases hb with rfl | rfl | rfl <;> decide

theorem named_of_name {s : List Char} {name : String} (h : IsName s name) (value : List UInt8) :
    Named (skipBlanks (octets s ++ 0x3A :: value)) name value := by
  obtain ⟨bs, after, pieces, hs, hpieces, hcontent, hafter⟩ := skipBlanks_of_name h (0x3A :: value)
  exact ⟨bs, after, pieces, hs, hpieces, hcontent, hafter.trans (skipBlanks_cons _ (by decide))⟩

theorem octets_between {l r : Char} (s : List Char) (rest : List UInt8)
    (hl : l.toNat ≤ 0x7F := by decide) (hr : r.toNat ≤ 0x7F := by decide) :
    octets (l :: (s ++ [r])) ++ rest =
      UInt8.ofNat l.toNat :: (octets s ++ UInt8.ofNat r.toNat :: rest) := by
  rw [Text.octets_cons_of_ascii _ hl, Text.octets_append, Text.octets_cons_of_ascii _ hr,
    List.cons_append, List.append_assoc]
  rfl

theorem length_octets_between {l r : Char} (s : List Char) (hl : l.toNat ≤ 0x7F := by decide)
    (hr : r.toNat ≤ 0x7F := by decide) :
    (octets (l :: (s ++ [r]))).length = (octets s).length + 2 := by
  have h := congrArg List.length (octets_between s [] hl hr)
  rw [List.append_nil, List.length_cons, List.length_append] at h
  exact h

mutual

/-- Fuel for the octets of a value is enough to read it: an array or an object takes two levels of
fuel and has two brackets, a further element takes one and has a comma. -/
theorem value?_of_bare {s : List Char} {v : Value} (h : Bare s v) (n : Nat) (rest : List UInt8)
    (hn : (octets s).length ≤ n) (hr : Stops continues rest) :
    value? n (octets s ++ rest) = some (v, rest) := by
  obtain ⟨b, bs, hs, -⟩ := begins_of_bare h
  obtain ⟨m, rfl⟩ : ∃ m, n = m + 1 := by
    rw [hs, List.length_cons] at hn
    exact ⟨n - 1, by omega⟩
  cases h with
  | null => rfl
  | true => rfl
  | false => rfl
  | number h =>
    obtain ⟨b, bs, hs, hb⟩ := head_of_isNumber h
    have hread := number?_octets h hr
    rw [hs, List.cons_append] at hread ⊢
    -- A number is kept as the octets that reading it took.
    rw [value?_number m hb hread, List.length_append, Nat.sub_eq_of_eq_add (c := bs.length + 1)
      (by omega), ← List.cons_append, ← List.length_cons, List.take_left]
  | string h =>
    obtain ⟨pieces, hpieces, hcontent⟩ := pieces?_glyphs _ h rest
    rw [stringText, octets_between, ← hcontent]
    exact value?_string m hpieces
  | emptyArray h =>
    rw [octets_between]
    exact value?_emptyArray m ((skipBlanks_octets h _).trans (skipBlanks_cons rest (by decide)))
  | array h =>
    obtain ⟨b, bs, hstart, hb⟩ := skipBlanks_of_elements h (0x5D :: rest)
    rw [length_octets_between] at hn
    rw [octets_between]
    exact value?_array m hstart (by rintro rfl; cases hb)
      (elements?_of_elements h m rest (by omega))
  | emptyObject h =>
    rw [octets_between]
    exact value?_emptyObject m ((skipBlanks_octets h _).trans (skipBlanks_cons rest (by decide)))
  | object h =>
    obtain ⟨b, bs, hstart, hb⟩ := skipBlanks_of_members h (0x7D :: rest)
    rw [length_octets_between] at hn
    rw [octets_between]
    exact value?_object m hstart hb (members?_of_members h m rest (by omega))

theorem value?_of_denotes {s : List Char} {v : Value} (h : Denotes s v) (n : Nat)
    (rest : List UInt8) (hn : (octets s).length ≤ n) (hr : Stops continues rest) :
    ∃ after, value? n (skipBlanks (octets s ++ rest)) = some (v, after) ∧
      skipBlanks after = skipBlanks rest := by
  cases h with
  | @mk before s after v hbefore hafter h =>
    rw [Text.octets_append, Text.octets_append, List.length_append, List.length_append] at hn
    refine ⟨octets after ++ rest, ?_, skipBlanks_octets hafter rest⟩
    rw [skipBlanks_bare hbefore h]
    exact value?_of_bare h n _ (by omega) (stops_blanks hafter hr)

theorem elements?_of_elements {s : List Char} {values : List Value} (h : Elements s values) (n : Nat)
    (rest : List UInt8) (hn : (octets s).length < n) :
    elements? n (skipBlanks (octets s ++ 0x5D :: rest)) = some (values, rest) := by
  obtain ⟨m, rfl⟩ : ∃ m, n = m + 1 := ⟨n - 1, by omega⟩
  cases h with
  | last h =>
    obtain ⟨after, hv, hafter⟩ := value?_of_denotes h m (0x5D :: rest) (by omega)
      (stops_sign rest (by simp))
    exact elements?_last m hv (hafter.trans (skipBlanks_cons rest (by decide)))
  | @cons s more v values h hmore =>
    have hoctets : octets (s ++ ',' :: more) = octets s ++ 0x2C :: octets more := Text.octets_append _ _
    rw [hoctets, List.length_append, List.length_cons] at hn
    rw [hoctets, List.append_assoc, List.cons_append]
    obtain ⟨after, hv, hafter⟩ := value?_of_denotes h m (0x2C :: (octets more ++ 0x5D :: rest))
      (by omega) (stops_sign _ (by simp))
    exact elements?_cons m hv (hafter.trans (skipBlanks_cons _ (by decide)))
      (elements?_of_elements hmore m rest (by omega))

theorem members?_of_members {s : List Char} {members : List (Option String × Value)}
    (h : Members s members) (n : Nat) (rest : List UInt8) (hn : (octets s).length < n) :
    members? n (skipBlanks (octets s ++ 0x7D :: rest)) = some (members, rest) := by
  obtain ⟨m, rfl⟩ : ∃ m, n = m + 1 := ⟨n - 1, by omega⟩
  cases h with
  | @last name s _ v hname h =>
    have hoctets : octets (name ++ ':' :: s) = octets name ++ 0x3A :: octets s :=
      Text.octets_append _ _
    rw [hoctets, List.length_append, List.length_cons] at hn
    rw [hoctets, List.append_assoc, List.cons_append]
    obtain ⟨after, hv, hafter⟩ := value?_of_denotes h m (0x7D :: rest) (by omega)
      (stops_sign rest (by simp))
    exact members?_last m (named_of_name hname _) hv
      (hafter.trans (skipBlanks_cons rest (by decide)))
  | @cons name s more _ v members hname h hmore =>
    have hoctets : octets (name ++ ':' :: (s ++ ',' :: more)) =
        octets name ++ 0x3A :: (octets s ++ 0x2C :: octets more) := by
      rw [Text.octets_append, Text.octets_cons, Text.octets_append]
      rfl
    rw [hoctets, List.length_append, List.length_cons, List.length_append, List.length_cons] at hn
    rw [hoctets, List.append_assoc, List.cons_append, List.append_assoc, List.cons_append]
    obtain ⟨after, hv, hafter⟩ := value?_of_denotes h m (0x2C :: (octets more ++ 0x7D :: rest))
      (by omega) (stops_sign _ (by simp))
    exact members?_cons m (named_of_name hname _) hv
      (hafter.trans (skipBlanks_cons _ (by decide)))
      (members?_of_members hmore m rest (by omega))

end

/-- A JSON text is read as the value that it denotes. -/
theorem read?_of_denotes {s : List Char} {v : Value} (h : Denotes s v) :
    read? (octets s) = some v := by
  obtain ⟨after, hv, hafter⟩ :=
    value?_of_denotes h ((octets s).length + 1) [] (by omega) (stops_nil continues)
  rw [List.append_nil] at hv
  rw [read?, hv]
  show (if (skipBlanks after).isEmpty then some v else none) = some v
  rw [hafter]
  rfl

end ScriptPress.Json
