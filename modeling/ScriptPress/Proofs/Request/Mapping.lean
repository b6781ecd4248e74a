import Mathlib.Data.List.Nodup
import ScriptPress.Proofs.Request.JsonFile

/-!
# Requests as mappings

A request is read off a mapping of scalars by the fields that its names are spellings of. Main
statement: it is read exactly if the language is given once and no other field twice, it says in each
field what its scalar says, and neither the order of the entries nor the choice of a spelling nor an
entry of another name makes a difference.
-/
namespace ScriptPress.Request

open Yaml (Node Mark Style)

/-! ### Mappings of scalars -/

structure Scalar where
  text : List Char
  style : Style
  deriving DecidableEq, Repr

def Scalar.written (v : Scalar) : Written := ⟨none, v.text, v.style⟩

def scalarEntry? : Node × Node → Option (List Char × Scalar)
  | (.scalar _ none none name _, .scalar _ none none text style) => some (name, ⟨text, style⟩)
  | _ => none

/-- The names and values of a text that is one document, a mapping of scalars, and where the mapping
starts. -/
def scalarMapping? (text : String) : Option (Mark × List (List Char × Scalar)) :=
  match Yaml.Document.ofText text.toList with
  | ⟨.mapping start _ entries true, none, false⟩ =>
    (entries.mapM scalarEntry?).map fun members => (start, members)
  | _ => none

def asWritten (m : List Char × Scalar) : List Char × Written := (m.1, m.2.written)

theorem member?_of_scalarEntry? (labels : List (Nat × Node)) {entry : Node × Node}
    {m : List Char × Scalar} (h : scalarEntry? entry = some m) :
    member? labels entry = some (asWritten m) := by
  unfold scalarEntry? at h
  split at h
  · obtain rfl := Option.some.inj h
    rfl
  · cases h

theorem mapM_member? (labels : List (Nat × Node)) (entries : List (Node × Node))
    (members : List (List Char × Scalar)) (h : entries.mapM scalarEntry? = some members) :
    entries.mapM (member? labels) = some (members.map asWritten) := by
  induction entries generalizing members with
  | nil =>
    obtain rfl : [] = members := Option.some.inj h
    rfl
  | cons entry entries ih =>
    rw [List.mapM_cons] at h
    simp only [Option.bind_eq_bind, Option.bind_eq_some_iff, Option.pure_def,
      Option.some.injEq] at h
    obtain ⟨m, hentry, rest, hrest, rfl⟩ := h
    rw [List.mapM_cons, member?_of_scalarEntry? labels hentry, ih rest hrest]
    rfl

theorem document_of_scalarMapping? {text : String} {start : Mark}
    {members : List (List Char × Scalar)} (h : scalarMapping? text = some (start, members)) :
    ∃ label entries,
      Yaml.Document.ofText text.toList = ⟨.mapping start label entries true, none, false⟩ ∧
      ∀ labels, entries.mapM (member? labels) = some (members.map asWritten) := by
  unfold scalarMapping? at h
  split at h
  · rename_i began label entries hdocument
    obtain ⟨found, hfound, hsame⟩ := Option.map_eq_some_iff.mp h
    obtain ⟨rfl, rfl⟩ := Prod.mk.inj hsame
    exact ⟨label, entries, hdocument, fun labels => mapM_member? labels entries _ hfound⟩
  · cases h

/-! ### What fields say -/

def nullForms : List String := ["", "null", "Null", "NULL", "~"]

/-- What a scalar says in a field: its text, but nothing in an optional field if it is a plain form
of nothing. -/
def Scalar.saidIn (v : Scalar) (k : Key) : Option String :=
  if k.isOptional = true ∧ v.style = .plain ∧ String.ofList v.text ∈ nullForms then none
  else some (String.ofList v.text)

theorem isNothing_plain (text : List Char) :
    isNothing none text .plain = .ok (decide (String.ofList text ∈ nullForms)) := by
  have hforms : (text.isEmpty || Yaml.isNull text) = true ↔ String.ofList text ∈ nullForms := by
    simp [Yaml.isNull, nullForms, or_assoc, ← String.toList_inj]
  show Except.ok (text.isEmpty || Yaml.isNull text) = _
  rw [Bool.eq_iff_iff.mpr (hforms.trans decide_eq_true_iff.symm)]

theorem saidAs_written (v : Scalar) (k : Key) : v.written.saidAs k = .ok (v.saidIn k) := by
  obtain ⟨text, style⟩ := v
  unfold Written.saidAs Scalar.saidIn Scalar.written
  by_cases hk : k.isOptional = true
  · cases style with
    | plain => simp [hk, isNothing_plain, Except.map]
    | _ => simp [isNothing, Except.map]
  · simp [hk]

/-! ### What fields are given -/

theorem ofText?_eq_some_iff (text : List Char) (k : Key) :
    Key.ofText? text = some k ↔ String.ofList text ∈ k.spellings := by
  unfold Key.ofText?
  constructor
  · intro h
    have hfound := List.find?_some h
    simpa using hfound
  · intro h
    have hall : ∀ name ∈ k.spellings,
        (Key.all.find? fun j => j.spellings.contains name) = some k := by
      cases k <;> decide
    exact hall _ h

/-- How often a field is given, under whichever of its spellings. -/
def timesGiven (members : List (List Char × Scalar)) (k : Key) : Nat :=
  members.countP fun m => k.spellings.contains (String.ofList m.1)

def fieldsIn (members : List (List Char × Scalar)) : List (Key × Scalar) :=
  members.filterMap fun m => (Key.ofText? m.1).map fun k => (k, m.2)

theorem mem_fieldsIn_iff (members : List (List Char × Scalar)) (k : Key) (v : Scalar) :
    (k, v) ∈ fieldsIn members ↔ ∃ name, (name, v) ∈ members ∧ String.ofList name ∈ k.spellings := by
  simp only [fieldsIn, List.mem_filterMap, Option.map_eq_some_iff, ofText?_eq_some_iff, Prod.exists,
    Prod.mk.injEq]
  constructor
  · rintro ⟨name, _, hm, _, hk, rfl, rfl⟩
    exact ⟨name, hm, hk⟩
  · rintro ⟨name, hm, hk⟩
    exact ⟨name, v, hm, k, hk, rfl, rfl⟩

theorem timesGiven_eq (members : List (List Char × Scalar)) (k : Key) :
    timesGiven members k = ((fieldsIn members).map Prod.fst).count k := by
  unfold timesGiven fieldsIn
  induction members with
  | nil => rfl
  | cons m members ih =>
    have hspelled : (k.spellings.contains (String.ofList m.1)) = (Key.ofText? m.1 == some k) := by
      rw [Bool.eq_iff_iff, beq_iff_eq, ofText?_eq_some_iff, List.contains_iff_mem]
    rw [List.countP_cons, ih, List.filterMap_cons, hspelled]
    cases Key.ofText? m.1 with
    | none => simp
    | some j => simp [List.count_cons]

theorem fieldsOf_asWritten (members : List (List Char × Scalar)) :
    fieldsOf (members.map asWritten) = (fieldsIn members).map fun f => (f.1, f.2.written) := by
  unfold fieldsOf fieldsIn
  rw [List.filterMap_map, List.map_filterMap]
  congr
  funext m
  simp [asWritten, Function.comp_def]

theorem keys_asWritten (members : List (List Char × Scalar)) :
    (fieldsOf (members.map asWritten)).map Prod.fst = (fieldsIn members).map Prod.fst := by
  rw [fieldsOf_asWritten, List.map_map]
  rfl

/-! ### Requests that fit -/

/-- A request says what the members give it: the language is given, no field twice, each field says
what its scalar says, and one that is not given what it says in the blank request. -/
structure Fits (members : List (List Char × Scalar)) (r : Request) : Prop where
  language : timesGiven members .language = 1
  once : ∀ k, timesGiven members k ≤ 1
  said : ∀ name v k, (name, v) ∈ members → String.ofList name ∈ k.spellings →
    r.textIn k = v.saidIn k
  unsaid : ∀ k, timesGiven members k = 0 → r.textIn k = blank.textIn k

theorem fits_iff (members : List (List Char × Scalar)) (r : Request) :
    Fits members r ↔ (timesGiven members .language = 1 ∧ ∀ k, timesGiven members k ≤ 1) ∧
      (∀ k v, (k, v) ∈ fieldsIn members → r.textIn k = v.saidIn k) ∧
      ∀ k, timesGiven members k = 0 → r.textIn k = blank.textIn k := by
  constructor
  · intro h
    refine ⟨⟨h.language, h.once⟩, fun k v hf => ?_, h.unsaid⟩
    obtain ⟨name, hm, hk⟩ := (mem_fieldsIn_iff members k v).mp hf
    exact h.said name v k hm hk
  · intro h
    exact ⟨h.1.1, h.1.2, fun name v k hm hk =>
      h.2.1 k v ((mem_fieldsIn_iff members k v).mpr ⟨name, hm, hk⟩), h.2.2⟩

theorem exists_field {members : List (List Char × Scalar)} {k : Key}
    (h : timesGiven members k ≠ 0) : ∃ v, (k, v) ∈ fieldsIn members := by
  rw [timesGiven_eq, ← Nat.pos_iff_ne_zero, List.count_pos_iff, List.mem_map] at h
  obtain ⟨⟨j, v⟩, hf, rfl⟩ := h
  exact ⟨v, hf⟩

theorem Fits.unique {members : List (List Char × Scalar)} {r r' : Request} (h : Fits members r)
    (h' : Fits members r') : r = r' := by
  have hsame : r.textIn = r'.textIn := by
    funext k
    by_cases hk : timesGiven members k = 0
    · rw [h.unsaid k hk, h'.unsaid k hk]
    · obtain ⟨v, hf⟩ := exists_field hk
      rw [((fits_iff members r).mp h).2.1 k v hf, ((fits_iff members r').mp h').2.1 k v hf]
  rw [← ofValues_textIn r, ← ofValues_textIn r', hsame]

theorem textIn_ofValues (value : Key → Option String) (k : Key) :
    (ofValues value).textIn k = if k.isOptional then value k else some ((value k).getD "") := by
  cases k <;> rfl

theorem valueIn_of_mem {members : List (List Char × Scalar)}
    (honce : ((fieldsIn members).map Prod.fst).Nodup) {k : Key} {v : Scalar}
    (hf : (k, v) ∈ fieldsIn members) :
    valueIn (fieldsOf (members.map asWritten)) k = v.saidIn k := by
  have hfound : (fieldsIn members).find? (fun f => f.1 == k) = some (k, v) := by
    cases hfind : (fieldsIn members).find? fun f => f.1 == k with
    | none =>
      have hnone := List.find?_eq_none.mp hfind (k, v) hf
      simp at hnone
    | some f =>
      have hkey : f.1 = k := by simpa using List.find?_some hfind
      rw [List.inj_on_of_nodup_map honce (List.mem_of_find?_eq_some hfind) hf hkey]
  have hsame : ((fieldsIn members).map fun f => (f.1, f.2.written)).find? (fun f => f.1 == k) =
      some (k, v.written) := by
    rw [List.find?_map]
    show Option.map _ ((fieldsIn members).find? fun f => f.1 == k) = _
    rw [hfound, Option.map_some]
  rw [valueIn, fieldsOf_asWritten, hsame, Option.bind_some, saidAs_written]
  rfl

theorem valueIn_of_times {members : List (List Char × Scalar)} {k : Key}
    (h : timesGiven members k = 0) : valueIn (fieldsOf (members.map asWritten)) k = none := by
  have hnone : ((fieldsOf (members.map asWritten)).find? fun f => f.1 == k) = none := by
    rw [List.find?_eq_none]
    intro f hf hkey
    rw [timesGiven_eq, ← keys_asWritten, List.count_eq_zero] at h
    exact h (List.mem_map.mpr ⟨f, hf, by simpa using hkey⟩)
  rw [valueIn, hnone, Option.bind_none]

theorem nodup_iff (members : List (List Char × Scalar)) :
    ((fieldsIn members).map Prod.fst).Nodup ↔ ∀ k, timesGiven members k ≤ 1 := by
  rw [List.nodup_iff_count_le_one]
  simp only [timesGiven_eq]

theorem fits_ofValues {members : List (List Char × Scalar)}
    (hlanguage : timesGiven members .language = 1) (honce : ∀ k, timesGiven members k ≤ 1) :
    Fits members (ofValues (valueIn (fieldsOf (members.map asWritten)))) := by
  rw [fits_iff]
  refine ⟨⟨hlanguage, honce⟩, fun k v hf => ?_, fun k hk => ?_⟩
  · rw [textIn_ofValues, valueIn_of_mem ((nodup_iff members).mpr honce) hf]
    by_cases hoptional : k.isOptional = true
    · rw [if_pos hoptional]
    · simp [hoptional, Scalar.saidIn]
  · rw [textIn_ofValues, valueIn_of_times hk]
    cases k <;> rfl

/-! ### Reading -/

/-- What a mapping of scalars is refused for: a field that is given twice, or else a language that is
not given. -/
inductive Refused (start : Mark) (members : List (List Char × Scalar)) : Report → Prop
  | repeated (k : Key) (h : 2 ≤ timesGiven members k) :
      Refused start members (DocumentFault.misfit (.duplicate k) none start).report
  | missing (h : timesGiven members .language = 0) :
      Refused start members (DocumentFault.misfit (.missing .language) none start).report

theorem saidAs_asWritten (members : List (List Char × Scalar)) :
    ∀ f ∈ fieldsOf (members.map asWritten), ∃ text, f.2.saidAs f.1 = .ok text := by
  intro f hf
  rw [fieldsOf_asWritten] at hf
  obtain ⟨⟨k, v⟩, -, rfl⟩ := List.mem_map.mp hf
  exact ⟨v.saidIn k, saidAs_written v k⟩

theorem ofText_of_repeated {text : String} {start : Mark} {members : List (List Char × Scalar)}
    (h : scalarMapping? text = some (start, members)) (hrepeated : ∃ k, 2 ≤ timesGiven members k) :
    ∃ report, ofText text = .error report ∧ Refused start members report := by
  obtain ⟨label, entries, hdocument, hmembers⟩ := document_of_scalarMapping? h
  have htimes (k : Key) : timesWith ⟨[]⟩ ((fieldsOf (members.map asWritten)).map Prod.fst) k =
      timesGiven members k := by
    rw [timesGiven_eq, ← keys_asWritten]
    rfl
  have hfold := foldlM_withEntry_of_repeated
    ⟨(Node.mapping start label entries true).labelled, start, .several⟩ ⟨[]⟩ entries
    (members.map asWritten) (hmembers _) (saidAs_asWritten members)
  simp only [htimes] at hfold
  obtain ⟨k, htwice, hfold⟩ := hfold hrepeated
  refine ⟨_, ?_, Refused.repeated k htwice⟩
  unfold ofText ofYaml
  rw [hdocument]
  simp only [ofDocument, ofNode, ofEntries, hfold, bind, Except.bind]

theorem ofText_of_once {text : String} {start : Mark} {members : List (List Char × Scalar)}
    (h : scalarMapping? text = some (start, members)) (honce : ∀ k, timesGiven members k ≤ 1) :
    ofText text =
      if timesGiven members .language = 1 then
        .ok (ofValues (valueIn (fieldsOf (members.map asWritten))))
      else .error (DocumentFault.misfit (.missing .language) none start).report := by
  obtain ⟨label, entries, hdocument, hmembers⟩ := document_of_scalarMapping? h
  have hnodup : ((fieldsOf (members.map asWritten)).map Prod.fst).Nodup := by
    rw [keys_asWritten]
    exact (nodup_iff members).mpr honce
  have hgives : Gives text start (fieldsOf (members.map asWritten)) :=
    ⟨label, entries, _, hdocument, hmembers _, rfl, hnodup⟩
  obtain ⟨given, hread⟩ := readFields_of_saidAs (saidAs_asWritten members)
  have hlanguage : givesIn (fieldsOf (members.map asWritten)) .language = true ↔
      timesGiven members .language = 1 := by
    have hpos : givesIn (fieldsOf (members.map asWritten)) .language = true ↔
        0 < timesGiven members .language := by
      rw [timesGiven_eq, ← keys_asWritten, List.count_pos_iff, givesIn, List.any_eq_true,
        List.mem_map]
      simp only [beq_iff_eq]
    have hbound := honce .language
    rw [hpos]
    omega
  rw [ofText_of_gives text start _ hgives, hread]
  simp only [hlanguage]

theorem ofText_cases {text : String} {start : Mark} {members : List (List Char × Scalar)}
    (h : scalarMapping? text = some (start, members)) :
    (∃ report, ofText text = .error report ∧ Refused start members report) ∨
      ∃ r, ofText text = .ok r ∧ Fits members r := by
  by_cases honce : ∀ k, timesGiven members k ≤ 1
  · have hread := ofText_of_once h honce
    by_cases hlanguage : timesGiven members .language = 1
    · rw [if_pos hlanguage] at hread
      exact Or.inr ⟨_, hread, fits_ofValues hlanguage honce⟩
    · rw [if_neg hlanguage] at hread
      have hbound := honce .language
      exact Or.inl ⟨_, hread, Refused.missing (by omega)⟩
  · rw [not_forall] at honce
    obtain ⟨k, hk⟩ := honce
    exact Or.inl (ofText_of_repeated h ⟨k, by omega⟩)

theorem Refused.not_fits {start : Mark} {members : List (List Char × Scalar)} {report : Report}
    (h : Refused start members report) (r : Request) : ¬Fits members r := by
  intro hfits
  cases h with
  | repeated k htwice =>
    have honce := hfits.once k
    omega
  | missing hnone =>
    have hlanguage := hfits.language
    omega

theorem ofText_eq_ok_iff {text : String} {start : Mark} {members : List (List Char × Scalar)}
    (h : scalarMapping? text = some (start, members)) (r : Request) :
    ofText text = .ok r ↔ Fits members r := by
  rcases ofText_cases h with ⟨report, hread, hrefused⟩ | ⟨found, hread, hfits⟩
  · rw [hread]
    exact ⟨fun hok => (by cases hok), fun hfits => absurd hfits (hrefused.not_fits r)⟩
  · rw [hread]
    constructor
    · intro hok
      obtain rfl := Except.ok.inj hok
      exact hfits
    · intro hfits'
      rw [hfits.unique hfits']

/-! ### What makes no difference -/

/-- Members that differ in their order, in the spelling of a field, and in members that give no
field. -/
inductive Alike : List (List Char × Scalar) → List (List Char × Scalar) → Prop
  | reordered {members members'} (h : members.Perm members') : Alike members members'
  | respelled (front rest) {name name'} (v) {k : Key} (h : String.ofList name ∈ k.spellings)
      (h' : String.ofList name' ∈ k.spellings) :
      Alike (front ++ (name, v) :: rest) (front ++ (name', v) :: rest)
  | extended (front rest) {name} (v) (h : ∀ k : Key, String.ofList name ∉ k.spellings) :
      Alike (front ++ rest) (front ++ (name, v) :: rest)
  | symm {members members'} (h : Alike members members') : Alike members' members
  | trans {members members' members''} (h : Alike members members')
      (h' : Alike members' members'') : Alike members members''

theorem Alike.fieldsIn {members members' : List (List Char × Scalar)} (h : Alike members members') :
    (fieldsIn members).Perm (fieldsIn members') := by
  unfold Request.fieldsIn
  induction h with
  | reordered h => exact h.filterMap _
  | respelled front rest v h h' =>
    simp [(ofText?_eq_some_iff _ _).mpr h, (ofText?_eq_some_iff _ _).mpr h']
  | @extended front rest name v h =>
    have hnone : Key.ofText? name = none := by
      cases hk : Key.ofText? name with
      | none => rfl
      | some k => exact absurd ((ofText?_eq_some_iff name k).mp hk) (h k)
    simp [hnone]
  | symm _ ih => exact ih.symm
  | trans _ _ ih ih' => exact ih.trans ih'

theorem Alike.fits_iff {members members' : List (List Char × Scalar)} (h : Alike members members')
    (r : Request) : Fits members r ↔ Fits members' r := by
  have htimes (k : Key) : timesGiven members k = timesGiven members' k := by
    rw [timesGiven_eq, timesGiven_eq]
    exact (h.fieldsIn.map Prod.fst).count_eq k
  rw [Request.fits_iff, Request.fits_iff]
  simp only [htimes, h.fieldsIn.mem_iff]

/-- A mapping of scalars is read exactly if it gives the language once and no other field twice, in
whichever spellings. The request that is read is the one that fits: it says in each field what the
scalar given to it says, and in a field that is not given what the blank request says. It is refused
for a field that is given twice, or else for want of a language. Another such mapping gives the same
request, or none as well, if its members differ in no more than their order, the spelling of a field
and members that give no field. -/
theorem ofText_scalarMapping (text : String) (start : Mark) (members : List (List Char × Scalar))
    (h : scalarMapping? text = some (start, members)) :
    ((∃ r, ofText text = .ok r) ↔
      timesGiven members .language = 1 ∧ ∀ k, timesGiven members k ≤ 1) ∧
    (∀ r, ofText text = .ok r ↔ Fits members r) ∧
    (∀ report, ofText text = .error report → Refused start members report) ∧
    ∀ text' start' members', scalarMapping? text' = some (start', members') →
      Alike members members' → (ofText text').toOption = (ofText text).toOption := by
  refine ⟨?_, ofText_eq_ok_iff h, fun report hread => ?_, fun text' start' members' h' halike => ?_⟩
  · constructor
    · rintro ⟨r, hread⟩
      have hfits := (ofText_eq_ok_iff h r).mp hread
      exact ⟨hfits.language, hfits.once⟩
    · rintro ⟨hlanguage, honce⟩
      exact ⟨_, (ofText_eq_ok_iff h _).mpr (fits_ofValues hlanguage honce)⟩
  · rcases ofText_cases h with ⟨report', hread', hrefused⟩ | ⟨r, hread', -⟩
    · obtain rfl := Except.error.inj (hread.symm.trans hread')
      exact hrefused
    · cases hread.symm.trans hread'
  · have hsame (r : Request) : ofText text' = .ok r ↔ ofText text = .ok r := by
      rw [ofText_eq_ok_iff h' r, ofText_eq_ok_iff h r, halike.fits_iff r]
    cases hread : ofText text with
    | ok r => rw [(hsame r).mpr hread]
    | error report =>
      cases hread' : ofText text' with
      | error report' => rfl
      | ok r' => cases hread.symm.trans ((hsame r').mp hread')

/-- Another order, another spelling and a member of another name; a body is never nothing. -/
theorem ofText_scalarMapping_respelled :
    let language : Scalar := ⟨"rb".toList, .plain⟩
    let nothing : Scalar := ⟨['~'], .plain⟩
    let members := [("languageId".toList, language), ("extension".toList, nothing),
      ("body".toList, nothing)]
    let members' := [("body".toList, nothing), ("Body".toList, ⟨[], .singleQuoted⟩),
      ("language".toList, language), ("extension".toList, nothing)]
    let text := "languageId: rb\nextension: ~\nbody: ~"
    let text' := "\x7bbody: ~, Body: '', language: rb, extension: ~\x7d"
    scalarMapping? text = some (Yaml.Mark.zero, members) ∧
      scalarMapping? text' = some (Yaml.Mark.zero, members') ∧ Alike members members' ∧
      (ofText text').toOption = some ⟨"rb", none, none, "", "", "~"⟩ := by
  intro language nothing members members' text text'
  have hmembers : scalarMapping? text = some (Yaml.Mark.zero, members) := by decide +kernel
  have hmembers' : scalarMapping? text' = some (Yaml.Mark.zero, members') := by decide +kernel
  have hspelled : Alike members (("language".toList, language) :: members.tail) :=
    .respelled (k := .language) [] members.tail language (by decide) (by decide)
  have hmoved : Alike (("language".toList, language) :: members.tail)
      (("body".toList, nothing) :: members'.drop 2) := .reordered (by decide)
  have hadded : Alike (("body".toList, nothing) :: members'.drop 2) members' :=
    .extended [("body".toList, nothing)] (members'.drop 2) ⟨[], .singleQuoted⟩
      (fun k => by cases k <;> decide)
  have halike := (hspelled.trans hmoved).trans hadded
  obtain ⟨-, -, -, hsame⟩ := ofText_scalarMapping text Yaml.Mark.zero members hmembers
  have hread : (ofText text).toOption = some ⟨"rb", none, none, "", "", "~"⟩ := by decide +kernel
  exact ⟨hmembers, hmembers', halike, (hsame text' Yaml.Mark.zero members' hmembers' halike).trans hread⟩

end ScriptPress.Request
