import ScriptPress.Proofs.Request.Entries
import ScriptPress.Proofs.Yaml.FlowMapping

/-!
# Requests in JSON

A JSON object whose members are the fields of a request is a request file, as long as YAML reads
the object as JSON does (`isYamlObject`). Main statement: `ofText_object`. Where JSON and YAML part,
a file of legal JSON may be refused or read as another request.
-/
namespace ScriptPress.Request

open Yaml (Node Mark Placed Members flowEntries feed entryOf)

def writtenMember (m : List Char × Option (List Char)) : List Char × Written :=
  (m.1, match m.2 with
    | some s => ⟨none, s, .doubleQuoted⟩
    | none => ⟨none, ['n', 'u', 'l', 'l'], .plain⟩)

theorem member?_entryOf (labels : List (Nat × Node)) (name value : Placed)
    (said : List Char × Option (List Char)) :
    member? labels (entryOf name value said) = some (writtenMember said) := by
  obtain ⟨text, text?⟩ := said
  cases text? <;> rfl

theorem flowEntries_more (said : List (List Char × Option (List Char))) (n : Nat) (began : Mark)
    (ps : List Placed) (hps : ps.map Placed.token =
      Yaml.Scanner.moreTokens said ++ [.flowMappingEnd, .streamEnd]) :
    ∃ entries last, flowEntries (n + said.length + 3) began false (feed ps) =
        ⟨(entries, true), .ok (feed [last])⟩ ∧ last.token = .streamEnd ∧
      ∀ labels, entries.mapM (member? labels) = some (said.map writtenMember) := by
  induction said generalizing n ps with
  | nil =>
    simp only [Yaml.Scanner.moreTokens, List.flatMap_nil, List.nil_append, List.map_eq_cons_iff,
      List.map_eq_nil_iff] at hps
    obtain ⟨brace, _, rfl, hbrace, last, _, rfl, hlast, rfl⟩ := hps
    exact ⟨[], last, Yaml.flowEntries_brace _ began false brace [last] hbrace, hlast, fun _ => rfl⟩
  | cons first said ih =>
    have hcons : ps.map Placed.token = .flowEntry :: (Yaml.Scanner.memberTokens first ++
        (Yaml.Scanner.moreTokens said ++ [.flowMappingEnd, .streamEnd])) := by
      rw [hps]
      simp [Yaml.Scanner.moreTokens]
    obtain ⟨comma, more, rfl, hcomma, hmore⟩ := List.map_eq_cons_iff.mp hcons
    obtain ⟨key, name, sign, value, rest, rfl, hkey, hname, hsign, hvalue, hrest⟩ :=
      Yaml.exists_member more first _ hmore
    obtain ⟨entries, last, hentries, hlast, hmembers⟩ := ih n rest hrest
    refine ⟨entryOf name value first :: entries, last, ?_, hlast, fun labels => ?_⟩
    · have hstep := Yaml.flowEntries_member (n + said.length + 1) began false [comma] key name sign
        value rest first (by simp [hcomma]) hkey hname hsign hvalue
      show flowEntries (n + said.length + 1 + 3) began false (feed ([comma] ++ _)) = _
      rw [hstep, Members.after]
      simp only [hentries]
    · rw [List.mapM_cons, member?_entryOf, hmembers labels]
      rfl

/-- The tokens of an object are one document, and its root is a mapping of its members. -/
theorem ofFeed_object (first : List Char × Option (List Char))
    (said : List (List Char × Option (List Char))) (ps : List Placed)
    (hps : ps.map Placed.token = Yaml.Scanner.objectTokens (first :: said)) :
    ∃ start entries,
      Yaml.Document.ofFeed (feed ps) = ⟨.mapping start none entries true, none, false⟩ ∧
      ∀ labels, entries.mapM (member? labels) = some ((first :: said).map writtenMember) := by
  obtain ⟨brace, more, rfl, hbrace, hmore⟩ := List.map_eq_cons_iff.mp hps
  obtain ⟨key, name, sign, value, rest, rfl, hkey, hname, hsign, hvalue, hrest⟩ :=
    Yaml.exists_member more first _ hmore
  have hlength : rest.length = 5 * said.length + 2 := by
    simpa [Yaml.Scanner.length_moreTokens] using congrArg List.length hrest
  obtain ⟨n, hn⟩ : ∃ n, 4 * (brace :: key :: name :: sign :: value :: rest).length + 4 =
      n + said.length + 1 + 3 + 1 := by
    refine ⟨19 * said.length + 27, ?_⟩
    simp only [List.length_cons, hlength]
    omega
  obtain ⟨entries, last, hentries, hlast, hmembers⟩ :=
    flowEntries_more said n brace.start rest hrest
  refine ⟨brace.start, entryOf name value first :: entries, ?_, fun labels => ?_⟩
  · have hstep := Yaml.flowEntries_member (n + said.length + 1) brace.start true [] key name sign
      value rest first rfl hkey hname hsign hvalue
    rw [Members.after] at hstep
    simp only [hentries] at hstep
    rw [Yaml.ofFeed_mapping brace _ hbrace, hn, Yaml.node_mapping _ brace _ hbrace]
    show Yaml.Document.close ((flowEntries (n + said.length + 1 + 3) brace.start true
      (feed ([] ++ key :: name :: sign :: value :: rest))).node _) = _
    rw [hstep]
    exact Yaml.close_ended _ last hlast
  · rw [List.mapM_cons, member?_entryOf, hmembers labels]
    rfl

/-! ### Requests -/

/-- What a request says in a field; only the optional fields may have no text. -/
def textIn (r : Request) : Key → Option String
  | .language => some r.language
  | .extension => r.extension
  | .filePattern => r.filePattern
  | .runtimeVersion => some r.runtimeVersion
  | .dependencyVersion => some r.dependencyVersion
  | .body => some r.body

/-- Whether names and values are those of the fields of a request: each field has one of its
spellings and none is there twice; the language must be there, and any other field that is left out
says what it says in the blank request. -/
structure Describes (said : List (List Char × Option (List Char))) (r : Request) : Prop where
  named : ∀ m ∈ said, ∃ k, Key.ofText? m.1 = some k ∧ m.2.map String.ofList = r.textIn k
  once : (said.filterMap fun m => Key.ofText? m.1).Nodup
  complete : ∀ k, k = .language ∨ r.textIn k ≠ blank.textIn k →
    ∃ m ∈ said, Key.ofText? m.1 = some k

instance (said : List (List Char × Option (List Char))) (r : Request) :
    Decidable (Describes said r) :=
  decidable_of_iff
    ((∀ m ∈ said, (Key.ofText? m.1).any fun k => m.2.map String.ofList == r.textIn k) ∧
      (said.filterMap fun m => Key.ofText? m.1).Nodup ∧
      ∀ k ∈ Key.all, k = .language ∨ r.textIn k ≠ blank.textIn k →
        ∃ m ∈ said, Key.ofText? m.1 = some k)
    ⟨fun ⟨hnamed, honce, hcomplete⟩ =>
      ⟨fun m hm => by simpa [Option.any_eq_true] using hnamed m hm, honce,
        fun k => hcomplete k k.mem_all⟩,
      fun h => ⟨fun m hm => by simpa [Option.any_eq_true] using h.named m hm, h.once,
        fun k _ => h.complete k⟩⟩

theorem ofValues_textIn (r : Request) : ofValues r.textIn = r := rfl

theorem textIn_or_blank (r : Request) (k : Key) :
    (r.textIn k).or (blank.textIn k) = r.textIn k := by
  cases k <;> simp [textIn, blank]

theorem ofValues_blank (value : Key → Option String) :
    ofValues value = ofValues fun k => (value k).or (blank.textIn k) := by
  have hempty (v : Option String) : v.getD "" = (v.or (some "")).getD "" := by cases v <;> rfl
  simp only [ofValues, textIn, blank, ← hempty, Option.or_none]

/-! ### What members give -/

theorem saidAs_writtenMember (r : Request) (k : Key) (m : List Char × Option (List Char))
    (h : m.2.map String.ofList = r.textIn k) : (writtenMember m).2.saidAs k = .ok (r.textIn k) := by
  obtain ⟨name, value⟩ := m
  cases value with
  | some s =>
    rw [← h]
    cases k <;> rfl
  | none =>
    cases k with
    | extension | filePattern =>
      rw [← h]
      rfl
    | _ => cases h

theorem saidAs_of_describes {said : List (List Char × Option (List Char))} {r : Request}
    (h : Describes said r) {f : Key × Written} (hf : f ∈ fieldsOf (said.map writtenMember)) :
    f.2.saidAs f.1 = .ok (r.textIn f.1) := by
  simp only [fieldsOf, List.filterMap_map, List.mem_filterMap, Function.comp_apply,
    Option.map_eq_some_iff] at hf
  obtain ⟨m, hm, k, hk, rfl⟩ := hf
  obtain ⟨j, hj, hsays⟩ := h.named m hm
  obtain rfl : k = j := Option.some.inj (hk.symm.trans hj)
  exact saidAs_writtenMember r k m hsays

theorem keys_fieldsOf (said : List (List Char × Option (List Char))) :
    (fieldsOf (said.map writtenMember)).map Prod.fst = said.filterMap fun m => Key.ofText? m.1 := by
  rw [map_fst_fieldsOf, List.filterMap_map]
  rfl

theorem mem_keys {said : List (List Char × Option (List Char))} {k : Key}
    (h : ∃ m ∈ said, Key.ofText? m.1 = some k) :
    ∃ f ∈ fieldsOf (said.map writtenMember), f.1 = k := by
  obtain ⟨m, hm, hkey⟩ := h
  have hmem : k ∈ (fieldsOf (said.map writtenMember)).map Prod.fst := by
    rw [keys_fieldsOf, List.mem_filterMap]
    exact ⟨m, hm, hkey⟩
  exact List.mem_map.mp hmem

theorem valueIn_of_describes {said : List (List Char × Option (List Char))} {r : Request}
    (h : Describes said r) (k : Key) :
    (valueIn (fieldsOf (said.map writtenMember)) k).or (blank.textIn k) = r.textIn k := by
  unfold valueIn
  cases hfind : (fieldsOf (said.map writtenMember)).find? fun f => f.1 == k with
  | some f =>
    obtain rfl : f.1 = k := by simpa using List.find?_some hfind
    rw [Option.bind_some, saidAs_of_describes h (List.mem_of_find?_eq_some hfind)]
    exact textIn_or_blank r f.1
  | none =>
    by_cases hk : r.textIn k = blank.textIn k
    · exact hk.symm
    · obtain ⟨f, hf, rfl⟩ := mem_keys (h.complete k (.inr hk))
      simpa using List.find?_eq_none.mp hfind f hf

theorem readFields_of_describes {said : List (List Char × Option (List Char))} {r : Request}
    (h : Describes said r) :
    ∃ given, readFields (fieldsOf (said.map writtenMember)) = .ok given :=
  readFields_of_saidAs fun f hf => ⟨r.textIn f.1, saidAs_of_describes h hf⟩

/-! ### JSON files -/

/-- An object that is one for YAML too gives the fields of its members. -/
theorem gives_object (o : Json.Object) (said : List (List Char × Option (List Char)))
    (hsaid : o.says? = some said) (ho : Yaml.Scanner.isYamlObject o = true)
    (honce : (said.filterMap fun m => Key.ofText? m.1).Nodup) :
    ∃ start, Gives (String.ofList o.text) start (fieldsOf (said.map writtenMember)) := by
  obtain ⟨placed, htokens, hplaced⟩ := Yaml.Scanner.tokens_object o said hsaid ho
  obtain ⟨first, more, rfl, -⟩ := o.parts_of_says said hsaid
  obtain ⟨start, entries, hdocument, hmembers⟩ := ofFeed_object first more placed hplaced
  refine ⟨start, none, entries, _, ?_, hmembers _, rfl, ?_⟩
  · rw [String.toList_ofList, Yaml.Document.ofText, htokens]
    exact hdocument
  · rwa [keys_fieldsOf]

/-- The text of a JSON object whose members are the fields of a request is read as that request, if
the object is one for YAML too. The condition is enough; an object may fail it for U+2028 or U+2029
in a string alone and be read all the same. -/
theorem ofText_object (o : Json.Object) (said : List (List Char × Option (List Char)))
    (r : Request) (hsaid : o.says? = some said) (hr : Describes said r)
    (ho : Yaml.Scanner.isYamlObject o = true) : ofText (String.ofList o.text) = .ok r := by
  obtain ⟨start, hgives⟩ := gives_object o said hsaid ho hr.once
  obtain ⟨given, hread⟩ := readFields_of_describes hr
  have hvalues : ofValues (valueIn (fieldsOf (said.map writtenMember))) = r := by
    rw [ofValues_blank, funext (valueIn_of_describes hr), ofValues_textIn]
  have hlanguage : givesIn (fieldsOf (said.map writtenMember)) .language = true := by
    obtain ⟨f, hf, hkey⟩ := mem_keys (hr.complete .language (.inl rfl))
    exact List.any_eq_true.mpr ⟨f, hf, by simp [hkey]⟩
  rw [ofText_of_gives _ start _ hgives, hread]
  dsimp only
  rw [if_pos hlanguage, hvalues]

def rubyObject : Json.Object where
  lead := ['\n']
  first := ⟨[' '], "languageId".toList.map .plain, [], [' '],
    some [.plain 'r', .numbered ['0', '0', '7', '5'], .plain 'b', .plain 'y'], ['\n', '\t']⟩
  rest := [⟨[], "file_pattern".toList.map .plain, ['\t'], ['\n'], none, []⟩,
    ⟨['\n'], "body".toList.map .plain, [], [],
      some [.plain 'p', .plain ' ', .short '"', .plain 'é', .short '"', .short 'n'], [' ']⟩]
  trail := ['\n']

def rubyMembers : List (List Char × Option (List Char)) :=
  [("languageId".toList, some "ruby".toList), ("file_pattern".toList, none),
    ("body".toList, some "p \"é\"\n".toList)]

theorem ofText_object_ruby :
    rubyObject.says? = some rubyMembers ∧
      ofText (String.ofList rubyObject.text) = .ok ⟨"ruby", none, none, "", "", "p \"é\"\n"⟩ :=
  ⟨by decide +kernel, ofText_object rubyObject rubyMembers _ (by decide +kernel) (by decide +kernel)
    (by decide +kernel)⟩

/-- An object whose body is one character, written as a surrogate pair. -/
def pairedObject : Json.Object where
  lead := []
  first := ⟨[], "language".toList.map .plain, [], [], some ("ruby".toList.map .plain), []⟩
  rest := [⟨[], "body".toList.map .plain, [], [],
    some [.paired ['d', '8', '3', 'd'] ['d', 'e', '0', '0']], []⟩]
  trail := []

/-- Each half of a surrogate pair is taken for a character of its own, and it is none. -/
theorem ofText_pairedObject :
    pairedObject.says? =
        some [("language".toList, some "ruby".toList), ("body".toList, some ['😀'])] ∧
      Describes [("language".toList, some "ruby".toList), ("body".toList, some ['😀'])]
        ⟨"ruby", none, none, "", "", "😀"⟩ ∧
      ofText (String.ofList pairedObject.text) ≠ .ok ⟨"ruby", none, none, "", "", "😀"⟩ := by
  have hfault : (ofText (String.ofList pairedObject.text)).toOption = none := by decide +kernel
  refine ⟨by decide +kernel, by decide +kernel, fun h => ?_⟩
  rw [h] at hfault
  cases hfault

end ScriptPress.Request
