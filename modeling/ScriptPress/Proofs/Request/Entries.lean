import ScriptPress.Request.File

/-!
# Requests of scalar entries

A mapping of scalars is read entry by entry: names that are no field are passed over, and each field
takes the text of its value. Here the reading is taken from the fold over the entries to the fields
they give. Main statement: `ofText_of_gives`.
-/
namespace ScriptPress.Request

open Yaml (Node Mark Style)

structure Written where
  tag : Option (List UInt8)
  text : List Char
  style : Style
  deriving DecidableEq, Repr

def written? (labels : List (Nat × Node)) (n : Node) : Option Written :=
  match n.resolved labels with
  | .scalar _ _ tag text style => some ⟨tag, text, style⟩
  | _ => none

/-- The text of a name and the scalar it has as value. -/
def member? (labels : List (Nat × Node)) (entry : Node × Node) : Option (List Char × Written) := do
  let key ← written? labels entry.1
  let value ← written? labels entry.2
  return (key.text, value)

namespace Written

/-- What a scalar says in a field: its text, but nothing if the field may have none. -/
def saidAs (v : Written) (k : Key) : Except Reason (Option String) :=
  if k.isOptional then
    (isNothing v.tag v.text v.style).map fun nothing =>
      if nothing then none else some (String.ofList v.text)
  else .ok (some (String.ofList v.text))

end Written

/-- The fields that members give, in order. -/
def fieldsOf (members : List (List Char × Written)) : List (Key × Written) :=
  members.filterMap fun m => (Key.ofText? m.1).map fun k => (k, m.2)

def readFields : List (Key × Written) → Except Reason (List (Key × Option String))
  | [] => .ok []
  | (k, v) :: rest =>
    match v.saidAs k with
    | .error reason => .error reason
    | .ok text => (readFields rest).map fun given => (k, text) :: given

/-- The text that fields give to a field, if they have it and it is not given as nothing. -/
def valueIn (fields : List (Key × Written)) (k : Key) : Option String :=
  (fields.find? fun f => f.1 == k).bind fun f => (f.2.saidAs k).toOption.join

def givesIn (fields : List (Key × Written)) (k : Key) : Bool := fields.any fun f => f.1 == k

def ofValues (value : Key → Option String) : Request where
  language := (value .language).getD ""
  extension := value .extension
  filePattern := value .filePattern
  runtimeVersion := (value .runtimeVersion).getD ""
  dependencyVersion := (value .dependencyVersion).getD ""
  body := (value .body).getD ""

/-- Whether a text is one document, a mapping of scalars that starts at a mark, and gives these
fields, each at most once. -/
def Gives (text : String) (start : Mark) (fields : List (Key × Written)) : Prop :=
  ∃ label entries members,
    Yaml.Document.ofText text.toList = ⟨.mapping start label entries true, none, false⟩ ∧
    entries.mapM (member? (Node.mapping start label entries true).labelled) = some members ∧
    fieldsOf members = fields ∧ (fields.map Prod.fst).Nodup

def given? (text : String) : Option (Mark × List (Key × Written)) :=
  match Yaml.Document.ofText text.toList with
  | ⟨.mapping start label entries true, none, false⟩ => do
    let members ← entries.mapM (member? (Node.mapping start label entries true).labelled)
    if ((fieldsOf members).map Prod.fst).Nodup then some (start, fieldsOf members) else none
  | _ => none

theorem gives_of_given? (text : String) (start : Mark) (fields : List (Key × Written))
    (h : given? text = some (start, fields)) : Gives text start fields := by
  unfold given? at h
  split at h
  · rename_i began label entries hdocument
    simp only [Option.bind_eq_bind, Option.bind_eq_some_iff] at h
    obtain ⟨members, hmembers, hfields⟩ := h
    split at hfields
    · rename_i honce
      obtain ⟨rfl, rfl⟩ := Prod.mk.inj (Option.some.inj hfields)
      exact ⟨label, entries, members, hdocument, hmembers, rfl, honce⟩
    · cases hfields
  · cases h

/-! ### Entries -/

theorem written?_eq_some_iff (labels : List (Nat × Node)) (n : Node) (v : Written) :
    written? labels n = some v ↔
      ∃ mark label, n.resolved labels = .scalar mark label v.tag v.text v.style := by
  unfold written?
  constructor
  · intro h
    split at h
    · rename_i mark label tag text style hn
      obtain rfl := Option.some.inj h
      exact ⟨mark, label, hn⟩
    · cases h
  · rintro ⟨mark, label, hn⟩
    rw [hn]

theorem keyOf_of_written (c : Context) (n : Node) (v : Written)
    (h : written? c.labels n = some v) : ∃ name, keyOf c n = .ok (v.text, name) := by
  obtain ⟨mark, label, hn⟩ := (written?_eq_some_iff c.labels n v).mp h
  unfold keyOf
  rw [hn]
  dsimp only
  split
  · exact ⟨['?'], rfl⟩
  · exact ⟨v.text, rfl⟩

theorem isComplete_of_written (labels : List (Nat × Node)) (n : Node) (v : Written)
    (h : written? labels n = some v) : n.isComplete = true := by
  obtain ⟨mark, label, hn⟩ := (written?_eq_some_iff labels n v).mp h
  cases n with
  | scalar => rfl
  | «alias» => rfl
  | sequence => cases hn
  | mapping => cases hn
  | lost => cases hn

theorem valueOf_of_written (c : Context) (k : Key) (name : List Char) (n : Node) (v : Written)
    (h : written? c.labels n = some v) :
    valueOf c k name n = (v.saidAs k).mapError fun reason => .misfit reason none c.start := by
  obtain ⟨mark, label, hn⟩ := (written?_eq_some_iff c.labels n v).mp h
  unfold valueOf Written.saidAs
  by_cases hk : k.isOptional = true
  · rw [if_pos hk, if_pos hk, textOf?, hn]
    dsimp only
    cases isNothing v.tag v.text v.style with
    | error reason => rfl
    | ok nothing => cases nothing <;> rfl
  · rw [if_neg hk, if_neg hk, textOf, hn]
    rfl

theorem withEntry_of_member (c : Context) (d : Draft) (entry : Node × Node) (name : List Char)
    (v : Written) (h : member? c.labels entry = some (name, v)) :
    withEntry c d entry =
      match Key.ofText? name with
      | none => .ok d
      | some k =>
        if d.has k then .error (.misfit (.duplicate k) none c.start)
        else
          match v.saidAs k with
          | .error reason => .error (.misfit reason none c.start)
          | .ok text => .ok (d.add k text) := by
  unfold member? at h
  simp only [Option.bind_eq_bind, Option.bind_eq_some_iff, Option.pure_def, Option.some.injEq,
    Prod.mk.injEq] at h
  obtain ⟨key, hkey, value, hvalue, rfl, rfl⟩ := h
  obtain ⟨shown, hshown⟩ := keyOf_of_written c entry.1 key hkey
  have hcomplete := isComplete_of_written c.labels entry.2 value hvalue
  unfold withEntry
  rw [hshown]
  simp only [bind, Except.bind]
  cases Key.ofText? key.text with
  | none => simp [hcomplete, pure, Except.pure]
  | some k =>
    dsimp only
    by_cases hd : d.has k = true
    · rw [if_pos hd, if_pos hd]
      rfl
    · rw [if_neg hd, if_neg hd, valueOf_of_written c k shown entry.2 value hvalue]
      cases value.saidAs k <;> rfl

/-! ### Mappings -/

theorem foldlM_withEntry (c : Context) (d : Draft) (entries : List (Node × Node))
    (members : List (List Char × Written)) (h : entries.mapM (member? c.labels) = some members)
    (hnew : ∀ f ∈ fieldsOf members, d.has f.1 = false)
    (honce : ((fieldsOf members).map Prod.fst).Nodup) :
    entries.foldlM (withEntry c) d =
      match readFields (fieldsOf members) with
      | .error reason => .error (.misfit reason none c.start)
      | .ok given => .ok ⟨d.given ++ given⟩ := by
  induction entries generalizing d members with
  | nil =>
    obtain rfl : [] = members := Option.some.inj h
    simp [fieldsOf, readFields, pure, Except.pure]
  | cons entry entries ih =>
    rw [List.mapM_cons] at h
    simp only [Option.bind_eq_bind, Option.bind_eq_some_iff, Option.pure_def,
      Option.some.injEq] at h
    obtain ⟨⟨name, v⟩, hmember, rest, hrest, rfl⟩ := h
    rw [List.foldlM_cons, withEntry_of_member c d entry name v hmember]
    cases hk : Key.ofText? name with
    | none =>
      have hfields : fieldsOf ((name, v) :: rest) = fieldsOf rest := by simp [fieldsOf, hk]
      rw [hfields] at hnew honce ⊢
      exact ih d rest hrest hnew honce
    | some k =>
      have hfields : fieldsOf ((name, v) :: rest) = (k, v) :: fieldsOf rest := by
        simp [fieldsOf, hk]
      rw [hfields] at hnew honce ⊢
      have hd : d.has k = false := hnew (k, v) List.mem_cons_self
      rw [List.map_cons, List.nodup_cons] at honce
      rw [readFields]
      dsimp only
      rw [if_neg (by simp [hd])]
      cases hsaid : v.saidAs k with
      | error reason => rfl
      | ok text =>
        have hnext : ∀ f ∈ fieldsOf rest, (d.add k text).has f.1 = false := by
          intro f hf
          have hne : k ≠ f.1 := by
            rintro rfl
            exact honce.1 (List.mem_map.mpr ⟨f, hf, rfl⟩)
          rw [Draft.has_add, hnew f (List.mem_cons_of_mem _ hf)]
          simpa using hne
        show entries.foldlM (withEntry c) (d.add k text) = _
        rw [ih _ rest hrest hnext honce.2]
        cases readFields (fieldsOf rest) with
        | error reason => rfl
        | ok given => simp [Except.map, Draft.add]

theorem map_fst_fieldsOf (members : List (List Char × Written)) :
    (fieldsOf members).map Prod.fst = members.filterMap fun m => Key.ofText? m.1 := by
  induction members with
  | nil => rfl
  | cons m members ih => cases hk : Key.ofText? m.1 <;> simpa [fieldsOf, hk] using ih

/-- How often a field is there once the draft is counted in. -/
def timesWith (d : Draft) (keys : List Key) (k : Key) : Nat :=
  keys.count k + if d.has k then 1 else 0

theorem timesWith_add (d : Draft) (keys : List Key) (j k : Key) (text : Option String)
    (h : d.has j = false) : timesWith (d.add j text) keys k = timesWith d (j :: keys) k := by
  unfold timesWith
  rw [Draft.has_add, List.count_cons]
  by_cases hjk : j = k
  · subst hjk
    simp [h]
  · simp [hjk]

/-- Where some field is there twice, one that is so is reported, if no scalar is refused. -/
theorem foldlM_withEntry_of_repeated (c : Context) (d : Draft) (entries : List (Node × Node))
    (members : List (List Char × Written)) (h : entries.mapM (member? c.labels) = some members)
    (hsaid : ∀ f ∈ fieldsOf members, ∃ text, f.2.saidAs f.1 = .ok text)
    (hrepeated : ∃ k, 2 ≤ timesWith d ((fieldsOf members).map Prod.fst) k) :
    ∃ k, 2 ≤ timesWith d ((fieldsOf members).map Prod.fst) k ∧
      entries.foldlM (withEntry c) d = .error (.misfit (.duplicate k) none c.start) := by
  induction entries generalizing d members with
  | nil =>
    obtain rfl : [] = members := Option.some.inj h
    obtain ⟨k, htwice⟩ := hrepeated
    have honce : timesWith d ((fieldsOf []).map Prod.fst) k ≤ 1 := by
      show 0 + (if d.has k then 1 else 0) ≤ 1
      split <;> omega
    omega
  | cons entry entries ih =>
    rw [List.mapM_cons] at h
    simp only [Option.bind_eq_bind, Option.bind_eq_some_iff, Option.pure_def,
      Option.some.injEq] at h
    obtain ⟨⟨name, v⟩, hmember, rest, hrest, rfl⟩ := h
    rw [List.foldlM_cons, withEntry_of_member c d entry name v hmember]
    cases hk : Key.ofText? name with
    | none =>
      have hfields : fieldsOf ((name, v) :: rest) = fieldsOf rest := by simp [fieldsOf, hk]
      rw [hfields] at hsaid hrepeated ⊢
      exact ih d rest hrest hsaid hrepeated
    | some j =>
      have hfields : fieldsOf ((name, v) :: rest) = (j, v) :: fieldsOf rest := by
        simp [fieldsOf, hk]
      rw [hfields] at hsaid hrepeated ⊢
      rw [List.map_cons] at hrepeated ⊢
      by_cases hd : d.has j = true
      · refine ⟨j, ?_, ?_⟩
        · simp only [timesWith, List.count_cons_self, hd, if_true]
          omega
        · simp only [hd, if_true]
          rfl
      · obtain ⟨text, htext⟩ := hsaid (j, v) List.mem_cons_self
        have hnew : d.has j = false := Bool.eq_false_iff.mpr hd
        have hrestSaid := fun f hf => hsaid f (List.mem_cons_of_mem _ hf)
        simp only [hnew, htext, Bool.false_eq_true, if_false]
        simp only [← timesWith_add d _ j _ text hnew] at hrepeated ⊢
        exact ih (d.add j text) rest hrest hrestSaid hrepeated

/-! ### Drafts -/

theorem readFields_eq_error_iff (fields : List (Key × Written)) :
    (∃ reason, readFields fields = .error reason) ↔
      ∃ f ∈ fields, ∃ reason, f.2.saidAs f.1 = .error reason := by
  induction fields with
  | nil => simp [readFields]
  | cons f rest ih =>
    obtain ⟨k, v⟩ := f
    simp only [List.mem_cons, exists_eq_or_imp]
    rw [readFields, ← ih]
    cases hsaid : v.saidAs k with
    | error reason => simp
    | ok text =>
      cases readFields rest with
      | error reason => simp [Except.map]
      | ok given => simp [Except.map]

theorem readFields_of_saidAs {fields : List (Key × Written)}
    (h : ∀ f ∈ fields, ∃ text, f.2.saidAs f.1 = .ok text) :
    ∃ given, readFields fields = .ok given := by
  cases hread : readFields fields with
  | ok given => exact ⟨given, rfl⟩
  | error reason =>
    obtain ⟨f, hf, other, hother⟩ := (readFields_eq_error_iff fields).mp ⟨reason, hread⟩
    obtain ⟨text, htext⟩ := h f hf
    cases htext.symm.trans hother

theorem draft_of_readFields (fields : List (Key × Written)) (given : List (Key × Option String))
    (h : readFields fields = .ok given) (k : Key) :
    (⟨given⟩ : Draft).text? k = valueIn fields k ∧ (⟨given⟩ : Draft).has k = givesIn fields k := by
  induction fields generalizing given with
  | nil =>
    obtain rfl : [] = given := Except.ok.inj h
    exact ⟨rfl, rfl⟩
  | cons f rest ih =>
    obtain ⟨j, v⟩ := f
    rw [readFields] at h
    cases hsaid : v.saidAs j with
    | error reason => simp [hsaid] at h
    | ok text =>
      cases hrest : readFields rest with
      | error reason => simp [hsaid, hrest, Except.map] at h
      | ok more =>
        obtain rfl : (j, text) :: more = given := by simpa [hsaid, hrest, Except.map] using h
        obtain ⟨htext, hhas⟩ := ih more hrest
        unfold Draft.text? valueIn at htext
        unfold Draft.has givesIn at hhas
        unfold Draft.text? valueIn Draft.has givesIn
        rw [List.find?_cons, List.find?_cons, List.any_cons, List.any_cons, hhas]
        refine ⟨?_, rfl⟩
        cases hj : j == k with
        | false => exact htext
        | true =>
          obtain rfl : j = k := by simpa using hj
          simp [hsaid, Except.toOption]

theorem request?_eq (d : Draft) :
    d.request? = if d.has .language then some (ofValues d.text?) else none := rfl

/-- A mapping of scalars, each field of which is given at most once, is read as the request of the
texts that its fields are given, if the language is one of them. -/
theorem ofText_of_gives (text : String) (start : Mark) (fields : List (Key × Written))
    (h : Gives text start fields) :
    ofText text =
      match readFields fields with
      | .error reason => .error (DocumentFault.misfit reason none start).report
      | .ok _ =>
        if givesIn fields .language then .ok (ofValues (valueIn fields))
        else .error (DocumentFault.misfit (.missing .language) none start).report := by
  obtain ⟨label, entries, members, hdocument, hmembers, rfl, honce⟩ := h
  have hfold := foldlM_withEntry ⟨(Node.mapping start label entries true).labelled, start, .several⟩
    ⟨[]⟩ entries members hmembers (fun _ _ => rfl) honce
  unfold ofText ofYaml
  rw [hdocument]
  simp only [ofDocument, ofNode, ofEntries, hfold, bind, Except.bind]
  cases hread : readFields (fieldsOf members) with
  | error reason => rfl
  | ok given =>
    have hlanguage := (draft_of_readFields _ given hread .language).2
    have hvalues : (⟨given⟩ : Draft).text? = valueIn (fieldsOf members) :=
      funext fun k => (draft_of_readFields _ given hread k).1
    simp only [List.nil_append, request?_eq, hlanguage, hvalues]
    cases givesIn (fieldsOf members) .language <;> rfl

end ScriptPress.Request
