import ScriptPress.Proofs.Json.Values
import ScriptPress.Proofs.Json.Writing
import ScriptPress.Service.Payload

/-!
# Payloads read back

What is posted is JSON: a payload is a text of the grammar, and it denotes the object of its fields.
Main statement: the octets that go out are read back as the query they were written for, so no two
queries have one payload.
-/
namespace ScriptPress.Service

/-- The octets of a payload on the wire. -/
def wire (payload : List Char) : List UInt8 := Text.utf8 (String.ofList payload)

theorem read?_wire {payload : List Char} {v : Json.Value} (h : Json.Denotes payload v) :
    Json.read? (wire payload) = some v := by
  rw [wire, Text.utf8_ofList]
  exact Json.read?_of_denotes h

def stringValue (s : String) : Json.Value := .string (some s)

theorem mapM_text?_strings (l : List String) : (l.map stringValue).mapM Json.text? = some l := by
  rw [List.mapM_map]
  exact (List.mapM_pure (f := id)).trans (congrArg some (List.map_id l))

/-! ### Examples -/

def BodyQuery.value (q : BodyQuery) : Json.Value :=
  .object [(some "extension", stringValue q.extension),
    (some "inputs", .array (q.inputs.map stringValue)),
    (some "outputs", .array (q.outputs.map stringValue))]

theorem BodyQuery.denotes_payload (q : BodyQuery) : Json.Denotes q.payload q.value := by
  apply Json.denotes_objectText [⟨"extension", Json.quote q.extension, stringValue q.extension⟩,
    ⟨"inputs", Json.stringList q.inputs, .array (q.inputs.map stringValue)⟩,
    ⟨"outputs", Json.stringList q.outputs, .array (q.outputs.map stringValue)⟩]
  rw [List.forall_mem_cons, List.forall_mem_cons, List.forall_mem_singleton]
  exact ⟨Json.bare_quote q.extension, Json.bare_stringList q.inputs, Json.bare_stringList q.outputs⟩

theorem BodyQuery.ofValue?_value (q : BodyQuery) : ofValue? q.value = some q := by
  have hrecord : Json.record? ["extension", "inputs", "outputs"] q.value =
      some [some (stringValue q.extension), some (.array (q.inputs.map stringValue)),
        some (.array (q.outputs.map stringValue))] := by rfl
  rw [ofValue?, hrecord]
  simp only [Json.texts?, mapM_text?_strings, Option.bind_eq_bind, Option.bind_some]
  rfl

theorem BodyQuery.ofBytes?_wire (q : BodyQuery) : ofBytes? (wire q.payload) = some q := by
  rw [ofBytes?, read?_wire q.denotes_payload, Option.bind_some, ofValue?_value]

/-! ### Scripts -/

def TrialQuery.value (q : TrialQuery) : Json.Value :=
  .object [(some "extension", stringValue q.extension), (some "code", stringValue q.code),
    (some "snippet", stringValue q.snippet)]

theorem TrialQuery.denotes_payload (q : TrialQuery) : Json.Denotes q.payload q.value := by
  apply Json.denotes_objectText [⟨"extension", Json.quote q.extension, stringValue q.extension⟩,
    ⟨"code", Json.quote q.code, stringValue q.code⟩,
    ⟨"snippet", Json.quote q.snippet, stringValue q.snippet⟩]
  rw [List.forall_mem_cons, List.forall_mem_cons, List.forall_mem_singleton]
  exact ⟨Json.bare_quote q.extension, Json.bare_quote q.code, Json.bare_quote q.snippet⟩

theorem TrialQuery.ofValue?_value (q : TrialQuery) : ofValue? q.value = some q := by
  have hrecord : Json.record? ["extension", "code", "snippet"] q.value =
      some [some (stringValue q.extension), some (stringValue q.code),
        some (stringValue q.snippet)] := by rfl
  rw [ofValue?, hrecord]
  rfl

theorem TrialQuery.ofBytes?_wire (q : TrialQuery) : ofBytes? (wire q.payload) = some q := by
  rw [ofBytes?, read?_wire q.denotes_payload, Option.bind_some, ofValue?_value]

/-! ### Queries told apart -/

theorem payload_ne_payload (q : BodyQuery) (t : TrialQuery) : q.payload ≠ t.payload := by
  intro h
  have hread := read?_wire q.denotes_payload
  rw [h, read?_wire t.denotes_payload] at hread
  -- One text would denote two objects, whose second fields have different names.
  simp [BodyQuery.value, TrialQuery.value] at hread

/-- What goes out is what was asked. The payload of every query, whatever its texts are, is a text
of the JSON grammar, and its octets are read back as the query itself. So different queries have
different payloads, also if one is of examples and the other of a script. -/
theorem payload_faithful :
    (∀ q : BodyQuery, Json.Denotes q.payload q.value ∧
      BodyQuery.ofBytes? (wire q.payload) = some q) ∧
    (∀ t : TrialQuery, Json.Denotes t.payload t.value ∧
      TrialQuery.ofBytes? (wire t.payload) = some t) ∧
    Function.Injective BodyQuery.payload ∧ Function.Injective TrialQuery.payload ∧
    ∀ (q : BodyQuery) (t : TrialQuery), q.payload ≠ t.payload := by
  refine ⟨fun q => ⟨q.denotes_payload, q.ofBytes?_wire⟩,
    fun t => ⟨t.denotes_payload, t.ofBytes?_wire⟩, ?_, ?_, payload_ne_payload⟩
  · intro q q' h
    have hread := q.ofBytes?_wire
    rw [h, q'.ofBytes?_wire] at hread
    exact (Option.some.inj hread).symm
  · intro t t' h
    have hread := t.ofBytes?_wire
    rw [h, t'.ofBytes?_wire] at hread
    exact (Option.some.inj hread).symm

end ScriptPress.Service
