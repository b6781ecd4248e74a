import ScriptPress.Proofs.Json.Fields
import ScriptPress.Proofs.Service.Payload
import ScriptPress.Proofs.Service.Reply

/-!
# What an answer is judged by

An answer is an object of JSON, and all that counts in it are the values of two names: the one of
the result, which is another for each action, and that of the error. Main statement: whether an
answer can be read, and what comes of it, is told from these values alone.
-/
namespace ScriptPress.Service

open Json (Denotes Value timesNamed valuesOf optional? IsOptional Alike renamed exchanged)
open Text (octets)

variable {s s' : List Char} {members members' : List (Option String × Value)}

/-! ### Reading -/

theorem Answer.ofValue?_object (action : Action) (h : ∀ m ∈ members, m.1.isSome) :
    Answer.ofValue? action (.object members) =
      (optional? action.resultName members).bind fun result =>
        (optional? "error" members).bind fun error => some ⟨result, error⟩ := by
  have hnamed : (members.all fun m => m.1.isSome) = true := List.all_eq_true.mpr h
  have hrecord : Json.record? [action.resultName, "error"] (.object members) =
      [action.resultName, "error"].mapM fun name => Json.single? name members := if_pos hnamed
  rw [ofValue?, hrecord, optional?, optional?, List.mapM_cons, List.mapM_cons, List.mapM_nil]
  cases Json.single? action.resultName members with
  | none => rfl
  | some result =>
    cases Json.single? "error" members with
    | none => simp
    | some error =>
      rw [Option.bind_some, Option.bind_some]
      rfl

theorem Answer.ofBytes?_eq_some_iff (h : Denotes s (.object members)) (action : Action)
    (a : Answer) :
    Answer.ofBytes? action (octets s) = some a ↔
      optional? action.resultName members = some a.result ∧
        optional? "error" members = some a.error := by
  rw [ofBytes?, Json.read?_of_denotes h, Option.bind_some,
    ofValue?_object action (Json.named_of_denotes h)]
  obtain ⟨result, error⟩ := a
  simp only [Option.bind_eq_some_iff, Option.some.injEq, Answer.mk.injEq]
  constructor
  · intro hread
    obtain ⟨said, hsaid, told, htold, rfl, rfl⟩ := hread
    exact ⟨hsaid, htold⟩
  · intro hread
    exact ⟨result, hread.1, error, hread.2, rfl, rfl⟩

theorem Answer.ofBytes?_congr (h : Denotes s (.object members)) (h' : Denotes s' (.object members'))
    {action action' : Action}
    (hresult : optional? action.resultName members = optional? action'.resultName members')
    (herror : optional? "error" members = optional? "error" members') :
    Answer.ofBytes? action (octets s) = Answer.ofBytes? action' (octets s') := by
  apply Option.ext
  intro a
  rw [ofBytes?_eq_some_iff h, ofBytes?_eq_some_iff h', hresult, herror]

theorem Answer.exists_ofBytes?_iff (h : Denotes s (.object members)) (action : Action) :
    (∃ a, Answer.ofBytes? action (octets s) = some a) ↔
      ∀ name ∈ [action.resultName, "error"], IsOptional name members := by
  have hnames : (∀ name ∈ [action.resultName, "error"], IsOptional name members) ↔
      IsOptional action.resultName members ∧ IsOptional "error" members := by simp
  rw [hnames, Json.isOptional_iff, Json.isOptional_iff]
  simp only [ofBytes?_eq_some_iff h]
  constructor
  · intro hread
    obtain ⟨a, hresult, herror⟩ := hread
    exact ⟨⟨_, hresult⟩, ⟨_, herror⟩⟩
  · intro hread
    obtain ⟨⟨result, hresult⟩, ⟨error, herror⟩⟩ := hread
    exact ⟨⟨result, error⟩, hresult, herror⟩

/-! ### What comes of it -/

theorem Answer.outcome_eq_error_iff (a : Answer) (fault : Fault) :
    a.outcome = .error fault ↔ ∃ e, e ≠ "" ∧ a.error = some e ∧ fault = .provider e := by
  unfold outcome
  cases a.error with
  | none => simp
  | some error =>
    by_cases h : error = ""
    · simp [h]
    · simp [h, eq_comm]

theorem Answer.outcome_eq_ok_iff_forall (a : Answer) (text : String) :
    a.outcome = .ok text ↔ (∀ e, a.error = some e → e = "") ∧
      (a.result = some text ∨ text = "" ∧ ∀ t, a.result ≠ some t) := by
  have herror : (a.error = none ∨ a.error = some "") ↔ ∀ e, a.error = some e → e = "" := by
    cases a.error with
    | none => simp
    | some error => simp
  have hresult : text = a.result.getD "" ↔
      a.result = some text ∨ text = "" ∧ ∀ t, a.result ≠ some t := by
    cases a.result with
    | none => simp
    | some result => simp [eq_comm]
  rw [outcome_eq_ok_iff, herror, hresult]

theorem Answer.outcome_of_ofBytes? (h : Denotes s (.object members)) {action : Action} {a : Answer}
    (ha : Answer.ofBytes? action (octets s) = some a) :
    (∀ fault, a.outcome = .error fault ↔
      ∃ e, e ≠ "" ∧ (some "error", .string (some e)) ∈ members ∧ fault = .provider e) ∧
    ∀ text, a.outcome = .ok text ↔
      (∀ e, (some "error", .string (some e)) ∈ members → e = "") ∧
        ((some action.resultName, .string (some text)) ∈ members ∨
          text = "" ∧ ∀ t, (some action.resultName, .string (some t)) ∉ members) := by
  obtain ⟨hresult, herror⟩ := (ofBytes?_eq_some_iff h action a).mp ha
  simp only [outcome_eq_error_iff, outcome_eq_ok_iff_forall, Json.said_iff hresult,
    Json.said_iff herror, ne_eq, implies_true, and_self]

/-! ### Answers to the two actions -/

/-- An answer to the one action says to the other what it said, with the names of their results
exchanged. -/
theorem Answer.ofBytes?_exchanged (h : Denotes s (.object members))
    (h' : Denotes s' (.object (members.map (exchanged "snippet" "output")))) :
    Answer.ofBytes? .tryScript (octets s') = Answer.ofBytes? .inferBody (octets s) := by
  have hresult : valuesOf "output" (members.map (exchanged "snippet" "output")) =
      valuesOf "snippet" members := Json.valuesOf_exchanged _ _ _
  have herror : valuesOf "error" (members.map (exchanged "snippet" "output")) =
      valuesOf "error" members := Json.valuesOf_exchanged_of_ne (by decide) (by decide) _
  exact ofBytes?_congr h' h (Json.optional?_of_perm (.of_eq hresult))
    (Json.optional?_of_perm (.of_eq herror))

/-- An answer is judged by what it says and by nothing else. For each action an object of JSON can
be read as an answer exactly if the name of the result and that of the error occur once at most,
each with a string or null. Then an error that is not empty is what comes of it, whatever the result
is, and else the result, which is empty if there is none. An object with other members of other
names, or with its members in another order, gives the same answer. With the names of the two
results exchanged an answer to the one action is one to the other; to rename the result is as good,
unless the new name is there already. -/
theorem answer_of_members (s : List Char) (members : List (Option String × Value))
    (h : Denotes s (.object members)) :
    (∀ action : Action,
      ((∃ a, Answer.ofBytes? action (octets s) = some a) ↔
        ∀ name ∈ [action.resultName, "error"], timesNamed name members ≤ 1 ∧
          ∀ v, (some name, v) ∈ members → v = .null ∨ ∃ text, v = .string (some text)) ∧
      (∀ a, Answer.ofBytes? action (octets s) = some a →
        (∀ fault, a.outcome = .error fault ↔
          ∃ e, e ≠ "" ∧ (some "error", .string (some e)) ∈ members ∧ fault = .provider e) ∧
        ∀ text, a.outcome = .ok text ↔
          (∀ e, (some "error", .string (some e)) ∈ members → e = "") ∧
            ((some action.resultName, .string (some text)) ∈ members ∨
              text = "" ∧ ∀ t, (some action.resultName, .string (some t)) ∉ members)) ∧
      ∀ s' members', Denotes s' (.object members') →
        Alike [action.resultName, "error"] members members' →
          Answer.ofBytes? action (octets s') = Answer.ofBytes? action (octets s)) ∧
    (∀ s', Denotes s' (.object (members.map (renamed "snippet" "output"))) →
      timesNamed "output" members = 0 →
        Answer.ofBytes? .tryScript (octets s') = Answer.ofBytes? .inferBody (octets s)) ∧
    ∀ s', Denotes s' (.object (members.map (exchanged "snippet" "output"))) →
      Answer.ofBytes? .tryScript (octets s') = Answer.ofBytes? .inferBody (octets s) := by
  refine ⟨fun action => ⟨Answer.exists_ofBytes?_iff h action,
    fun a => Answer.outcome_of_ofBytes? h, fun s' members' h' halike => ?_⟩,
    fun s' h' hfree => ?_, fun s' => Answer.ofBytes?_exchanged h⟩
  · have hresult : optional? action.resultName members = optional? action.resultName members' :=
      halike.optional?_eq (by simp)
    have herror : optional? "error" members = optional? "error" members' :=
      halike.optional?_eq (by simp)
    exact Answer.ofBytes?_congr h' h hresult.symm herror.symm
  · rw [Json.map_renamed hfree] at h'
    exact Answer.ofBytes?_exchanged h h'

/-- An unknown member with an array, an empty error and a result, for the one action and for the
other. -/
theorem answer_of_members_nested :
    let text := fun name =>
      Json.objectText
        [("kind", Json.stringList []), ("error", Json.quote ""), (name, Json.quote "a")]
    let members := fun name : String => [(some "kind", Value.array []),
      (some "error", stringValue ""), (some name, stringValue "a")]
    Denotes (text "snippet") (.object (members "snippet")) ∧
      Denotes (text "output") (.object ((members "snippet").map (renamed "snippet" "output"))) ∧
      ∃ a, a.outcome = .ok "a" ∧
        Answer.ofBytes? .inferBody (octets (text "snippet")) = some a ∧
        Answer.ofBytes? .tryScript (octets (text "output")) = some a := by
  intro text members
  have hdenotes : ∀ name, Denotes (text name) (.object (members name)) := by
    intro name
    apply Json.denotes_objectText [⟨"kind", Json.stringList [], .array []⟩,
      ⟨"error", Json.quote "", stringValue ""⟩, ⟨name, Json.quote "a", stringValue "a"⟩]
    rw [List.forall_mem_cons, List.forall_mem_cons, List.forall_mem_singleton]
    exact ⟨Json.bare_stringList [], Json.bare_quote "", Json.bare_quote "a"⟩
  obtain ⟨hclassified, hrenamed, -⟩ :=
    answer_of_members (text "snippet") (members "snippet") (hdenotes "snippet")
  obtain ⟨-, houtcome, -⟩ := hclassified .inferBody
  have hread : Answer.ofBytes? .inferBody (octets (text "snippet")) = some ⟨some "a", some ""⟩ := by
    decide +kernel
  have hsame := hrenamed (text "output") (hdenotes "output") (by decide)
  refine ⟨hdenotes "snippet", hdenotes "output", _, ?_, hread, hsame.trans hread⟩
  have hnoError : ∀ e, (some "error", Value.string (some e)) ∈ members "snippet" → e = "" := by
    simp [members, stringValue]
  have hgiven : (some "snippet", Value.string (some "a")) ∈ members "snippet" := by
    simp [members, stringValue]
  exact ((houtcome _ hread).2 "a").mpr ⟨hnoError, .inl hgiven⟩

/-- A member that has the new name already is no unknown member any more. Next to a result that is
renamed it makes the name occur twice, and without one it is the result. -/
theorem answer_of_renamed_members :
    let text := fun name => Json.objectText [(name, Json.quote "a"), ("output", Json.quote "b")]
    let members := fun name : String =>
      [(some name, stringValue "a"), (some "output", stringValue "b")]
    let alone := Json.objectText [("output", Json.quote "b")]
    let member := [(some "output", stringValue "b")]
    (Denotes (text "snippet") (.object (members "snippet")) ∧
      Denotes (text "output") (.object ((members "snippet").map (renamed "snippet" "output"))) ∧
      (Answer.ofBytes? .inferBody (octets (text "snippet"))).map Answer.outcome = some (.ok "a") ∧
      Answer.ofBytes? .tryScript (octets (text "output")) = none) ∧
    Denotes alone (.object member) ∧ member.map (renamed "snippet" "output") = member ∧
    (Answer.ofBytes? .inferBody (octets alone)).map Answer.outcome = some (.ok "") ∧
    (Answer.ofBytes? .tryScript (octets alone)).map Answer.outcome = some (.ok "b") := by
  intro text members alone member
  have hdenotes : ∀ name, Denotes (text name) (.object (members name)) := by
    intro name
    apply Json.denotes_objectText [⟨name, Json.quote "a", stringValue "a"⟩,
      ⟨"output", Json.quote "b", stringValue "b"⟩]
    rw [List.forall_mem_cons, List.forall_mem_singleton]
    exact ⟨Json.bare_quote "a", Json.bare_quote "b"⟩
  have halone : Denotes alone (.object member) := by
    apply Json.denotes_objectText [⟨"output", Json.quote "b", stringValue "b"⟩]
    rw [List.forall_mem_singleton]
    exact Json.bare_quote "b"
  have htaken : Answer.ofBytes? .inferBody (octets (text "snippet")) = some ⟨some "a", none⟩ := by
    decide +kernel
  have hempty : Answer.ofBytes? .inferBody (octets alone) = some ⟨none, none⟩ := by decide +kernel
  have hresult : Answer.ofBytes? .tryScript (octets alone) = some ⟨some "b", none⟩ := by
    decide +kernel
  refine ⟨⟨hdenotes "snippet", hdenotes "output", ?_, by decide +kernel⟩, halone, rfl, ?_, ?_⟩
  · rw [htaken]
    rfl
  · rw [hempty]
    rfl
  · rw [hresult]
    rfl

end ScriptPress.Service
