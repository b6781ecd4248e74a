import Mathlib.Data.List.Perm.Basic
import ScriptPress.Json.Record
import ScriptPress.Proofs.Json.Grammar

/-!
# Fields of a record

What a record takes from an object are the values that each of its names has. Main statements: an
optional field is read exactly if its name occurs once at most, with a string or null
(`isOptional_iff`, `said_iff`); neither the order of the members nor members of other names make a
difference to it (`Alike`), and with two names exchanged the one is read for the other.
-/
namespace ScriptPress.Json

variable {members members' : List (Option String × Value)}

/-! ### Values of a name -/

def timesNamed (name : String) (members : List (Option String × Value)) : Nat :=
  members.countP fun m => m.1 = some name

theorem length_valuesOf (name : String) (members : List (Option String × Value)) :
    (valuesOf name members).length = timesNamed name members := by
  unfold valuesOf timesNamed
  induction members with
  | nil => rfl
  | cons m members ih =>
    rw [List.filterMap_cons, List.countP_cons]
    by_cases h : m.1 = some name
    · simp [h, ih]
    · simp [h, ih]

theorem mem_valuesOf_iff (name : String) (members : List (Option String × Value)) (v : Value) :
    v ∈ valuesOf name members ↔ (some name, v) ∈ members := by
  unfold valuesOf
  rw [List.mem_filterMap]
  constructor
  · rintro ⟨⟨n, w⟩, hm, hv⟩
    split at hv
    · rename_i hn
      obtain rfl := Option.some.inj hv
      rwa [← show n = some name from hn]
    · cases hv
  · intro hm
    exact ⟨_, hm, if_pos rfl⟩

theorem named_of_members {s : List Char} {members : List (Option String × Value)}
    (h : Members s members) : ∀ m ∈ members, m.1.isSome := by
  cases h with
  | last _ _ =>
    rw [List.forall_mem_singleton]
    rfl
  | cons _ _ hr =>
    rw [List.forall_mem_cons]
    exact ⟨rfl, named_of_members hr⟩

theorem named_of_denotes {s : List Char} (h : Denotes s (.object members)) :
    ∀ m ∈ members, m.1.isSome := by
  cases h with
  | mk _ _ h =>
    cases h with
    | emptyObject _ => exact List.forall_mem_nil _
    | object h => exact named_of_members h

/-! ### Optional fields -/

/-- A name that a field can be read from: it occurs once at most, with a string or null. -/
def IsOptional (name : String) (members : List (Option String × Value)) : Prop :=
  timesNamed name members ≤ 1 ∧
    ∀ v, (some name, v) ∈ members → v = .null ∨ ∃ text, v = .string (some text)

/-- The string of a name that may be missing or null. -/
def optional? (name : String) (members : List (Option String × Value)) : Option (Option String) :=
  (single? name members).bind optionalText?

theorem isOptional_iff (name : String) (members : List (Option String × Value)) :
    IsOptional name members ↔ ∃ said, optional? name members = some said := by
  unfold IsOptional optional? single?
  rw [← length_valuesOf]
  simp only [← mem_valuesOf_iff]
  match valuesOf name members with
  | [] => simp [optionalText?]
  | [.string (some text)] => simp [optionalText?, text?]
  | [.string none] | [.null] | [.bool _] | [.number _] | [.array _] | [.object _] =>
    simp [optionalText?, text?]
  | _ :: _ :: _ => simp

theorem said_iff {name : String} {said : Option String} (h : optional? name members = some said)
    (text : String) : said = some text ↔ (some name, .string (some text)) ∈ members := by
  rw [← mem_valuesOf_iff]
  unfold optional? single? at h
  match hv : valuesOf name members with
  | [] =>
    simp only [hv, Option.bind_some, optionalText?, Option.some.injEq] at h
    simp [← h]
  | [.string (some content)] =>
    simp only [hv, Option.bind_some, optionalText?, text?, Option.map_some, Option.some.injEq] at h
    simp [← h, eq_comm]
  | [.null] =>
    simp only [hv, Option.bind_some, optionalText?, Option.some.injEq] at h
    simp [← h]
  | [.string none] | [.bool _] | [.number _] | [.array _] | [.object _] | _ :: _ :: _ =>
    simp [hv, optionalText?, text?] at h

/-! ### What makes no difference -/

theorem optional?_of_perm {name name' : String}
    (h : (valuesOf name members).Perm (valuesOf name' members')) :
    optional? name members = optional? name' members' := by
  have hlength := h.length_eq
  unfold optional? single?
  match hv : valuesOf name members, hv' : valuesOf name' members' with
  | [], [] => rfl
  | [v], [v'] =>
    rw [hv, hv', List.singleton_perm_singleton] at h
    rw [h]
  | _ :: _ :: _, _ :: _ :: _ => rfl
  | [], _ :: _ | _ :: _, [] | [_], _ :: _ :: _ | _ :: _ :: _, [_] => simp [hv, hv'] at hlength

/-- Objects that differ in the order of their members, and in members of other names than these. -/
inductive Alike (names : List String) :
    List (Option String × Value) → List (Option String × Value) → Prop
  | reordered {ms ms'} (h : ms.Perm ms') : Alike names ms ms'
  | extended (front rest) {name : String} (v) (h : name ∉ names) :
      Alike names (front ++ rest) (front ++ (some name, v) :: rest)
  | symm {ms ms'} (h : Alike names ms ms') : Alike names ms' ms
  | trans {ms ms' ms''} (h : Alike names ms ms') (h' : Alike names ms' ms'') : Alike names ms ms''

theorem Alike.valuesOf_perm {names : List String} (h : Alike names members members') {name : String}
    (hname : name ∈ names) : (valuesOf name members).Perm (valuesOf name members') := by
  unfold valuesOf
  induction h with
  | reordered h => exact h.filterMap _
  | @extended front rest other v h =>
    have hother : some other ≠ some name := by
      rintro heq
      exact h (by rwa [Option.some.inj heq])
    simp [List.filterMap_append, hother]
  | symm _ ih => exact ih.symm
  | trans _ _ ih ih' => exact ih.trans ih'

theorem Alike.optional?_eq {names : List String} (h : Alike names members members') {name : String}
    (hname : name ∈ names) : optional? name members = optional? name members' :=
  optional?_of_perm (h.valuesOf_perm hname)

/-! ### Other names -/

/-- A member that goes by a new name if it had the old one. -/
def renamed (old new : String) (m : Option String × Value) : Option String × Value :=
  (if m.1 = some old then some new else m.1, m.2)

/-- A member that goes by the other one of two names if it had one of them. -/
def exchanged (a b : String) (m : Option String × Value) : Option String × Value :=
  (if m.1 = some a then some b else if m.1 = some b then some a else m.1, m.2)

theorem valuesOf_exchanged (a b : String) (members : List (Option String × Value)) :
    valuesOf b (members.map (exchanged a b)) = valuesOf a members := by
  unfold valuesOf
  rw [List.filterMap_map]
  congr
  funext m
  by_cases ha : m.1 = some a
  · simp [exchanged, ha]
  · by_cases hb : m.1 = some b
    · simp_all [exchanged, eq_comm]
    · simp [exchanged, ha, hb]

theorem valuesOf_exchanged_of_ne {a b name : String} (ha : name ≠ a) (hb : name ≠ b)
    (members : List (Option String × Value)) :
    valuesOf name (members.map (exchanged a b)) = valuesOf name members := by
  have hsome : some a ≠ some name ∧ some b ≠ some name := by simp [ha.symm, hb.symm]
  unfold valuesOf
  rw [List.filterMap_map]
  congr
  funext m
  by_cases hma : m.1 = some a
  · simp [exchanged, hma, hsome]
  · by_cases hmb : m.1 = some b
    · have hname : (exchanged a b m).1 = some a := by rw [exchanged, if_neg hma, if_pos hmb]
      simp [hname, hmb, hsome]
    · simp [exchanged, hma, hmb]

/-- A name that is not yet taken is exchanged for another by renaming. -/
theorem map_renamed {old new : String} (h : timesNamed new members = 0) :
    members.map (renamed old new) = members.map (exchanged old new) := by
  apply List.map_congr_left
  intro m hm
  have hfree := List.countP_eq_zero.mp h m hm
  rw [decide_eq_true_eq] at hfree
  simp [renamed, exchanged, hfree]

end ScriptPress.Json
