import Mathlib.Data.List.DropRight
import ScriptPress.Proofs.Language.Spelling
import ScriptPress.Proofs.Session.History

/-!
# Where the fields of a session come from

What a session holds is told by the operations that were done to it, and by the sessions that they
were done to: each field is what was set last since the last reset, or else its default. A reset is
a new language or an extension that is taken. Main statement: `run_start_determined`.
-/
namespace ScriptPress.Session

structure Step where
  before : Session
  operation : Operation
  deriving DecidableEq, Repr

def steps (s : Session) : List Operation → List Step
  | [] => []
  | op :: ops => ⟨s, op⟩ :: (s.apply op).steps ops

theorem run_concat (s : Session) (ops : List Operation) (op : Operation) :
    s.run (ops ++ [op]) = (s.run ops).apply op := by
  rw [run_append, run_cons, run_nil]

theorem steps_concat (s : Session) (ops : List Operation) (op : Operation) :
    s.steps (ops ++ [op]) = s.steps ops ++ [⟨s.run ops, op⟩] := by
  induction ops generalizing s with
  | nil => rfl
  | cons first ops ih =>
    rw [List.cons_append, steps, steps, ih, run_cons]
    rfl

namespace Step

def after (t : Step) : Session := t.before.apply t.operation

/-! ### What a step gives -/

/-- Whether a step takes the fields back to their defaults: a new language, or an extension that is
taken. -/
def resets : Step → Bool
  | ⟨_, .setLanguage _⟩ => true
  | ⟨s, .setExtension text⟩ => (s.setExtension text).isOk
  | _ => false

def invalidates (t : Step) : Bool := t.operation.invalidates t.before

def language? : Step → Option Language
  | ⟨_, .setLanguage language⟩ => some language
  | _ => none

/-- The extension that the argument of a step is resolved to. -/
def extension? : Step → Option String
  | ⟨s, .setExtension text⟩ => (s.language.resolveExtension (some text)).toOption
  | _ => none

def filePattern? : Step → Option String
  | ⟨_, .setFilePattern pattern⟩ => some pattern
  | _ => none

def runtimeVersion? : Step → Option String
  | ⟨_, .setRuntimeVersion raw⟩ => some raw
  | _ => none

def dependencyVersion? : Step → Option String
  | ⟨_, .setDependencyVersion raw⟩ => some raw
  | _ => none

def body? : Step → Option String
  | ⟨s, .acceptBody revision body⟩ => if (s.acceptBody revision body).1 then some body else none
  | _ => none

/-- The input that a step gives to the example at an index, if there is that example then. -/
def input? (i : Nat) : Step → Option String
  | ⟨s, .editInput j code⟩ => if j = i ∧ i < s.examples.size then some code else none
  | _ => none

def output? (i : Nat) : Step → Option String
  | ⟨s, .editOutput j code⟩ => if j = i ∧ i < s.examples.size then some code else none
  | _ => none

def addsExample : Step → Bool
  | ⟨_, .addExample⟩ => true
  | _ => false

end Step

def last? {α : Type} (given? : Step → Option α) (history : List Step) : Option α :=
  (history.filterMap given?).getLast?

def sinceReset (history : List Step) : List Step := history.rtakeWhile (!·.resets)

def lastReset? (history : List Step) : Option Step := (history.filter Step.resets).getLast?

theorem last?_nil {α : Type} (given? : Step → Option α) : last? given? [] = none := rfl

theorem last?_concat {α : Type} (given? : Step → Option α) (history : List Step) (t : Step) :
    last? given? (history ++ [t]) = (given? t).or (last? given? history) := by
  rw [last?, List.filterMap_append]
  cases h : given? t with
  | none => simp [h, last?]
  | some a => simp [h]

theorem sinceReset_concat_of_resets (history : List Step) {t : Step} (h : t.resets = true) :
    sinceReset (history ++ [t]) = [] := by
  rw [sinceReset, List.rtakeWhile_concat_neg]
  simp [h]

theorem sinceReset_concat (history : List Step) {t : Step} (h : t.resets = false) :
    sinceReset (history ++ [t]) = sinceReset history ++ [t] := by
  rw [sinceReset, List.rtakeWhile_concat_pos]
  · rfl
  · simp [h]

theorem lastReset?_concat_of_resets (history : List Step) {t : Step} (h : t.resets = true) :
    lastReset? (history ++ [t]) = some t := by
  simp [lastReset?, h]

theorem lastReset?_concat (history : List Step) {t : Step} (h : t.resets = false) :
    lastReset? (history ++ [t]) = lastReset? history := by
  simp [lastReset?, h]

/-! ### One step -/

namespace Step

theorem language_after (t : Step) : t.after.language = t.language?.getD t.before.language := by
  obtain ⟨s, op⟩ := t
  cases op with
  | setExtension text =>
    cases h : s.language.resolveExtension (some text) with
    | error fault => simp [after, apply, setExtension, h, language?]
    | ok extension => simp [after, apply, setExtension, h, language?, fresh]
  | acceptBody revision body =>
    by_cases h : revision = s.revision <;> simp [after, apply, acceptBody, h, language?]
  | _ => rfl

theorem after_of_resets {t : Step} (h : t.resets = true) :
    t.after = fresh t.after.language (t.extension?.getD t.after.language.extension)
      (t.before.revision + 1) := by
  obtain ⟨s, op⟩ := t
  cases op with
  | setLanguage language => rfl
  | setExtension text =>
    cases hr : s.language.resolveExtension (some text) with
    | error fault => simp [resets, setExtension, hr, Except.isOk, Except.toBool] at h
    | ok extension => simp [after, apply, setExtension, extension?, hr, fresh, Except.toOption]
  | _ => cases h

/-- The examples after a step that is no reset. -/
def examples : Step → Examples
  | ⟨s, .editInput i code⟩ => s.examples.withInput i code
  | ⟨s, .editOutput i code⟩ => s.examples.withOutput i code
  | ⟨s, .addExample⟩ => s.examples.withBlank
  | ⟨s, _⟩ => s.examples

/-- A step that is no reset sets what it gives and keeps the rest. -/
theorem after_of_not_resets {t : Step} (h : t.resets = false) :
    t.after = { t.before with
      filePattern := t.filePattern?.getD t.before.filePattern
      runtimeVersion := t.runtimeVersion?.getD t.before.runtimeVersion
      dependencyVersion := t.dependencyVersion?.getD t.before.dependencyVersion
      examples := t.examples
      body := t.body?.getD t.before.body
      revision := t.after.revision } := by
  obtain ⟨s, op⟩ := t
  cases op with
  | setLanguage language => cases h
  | setExtension text =>
    cases hr : s.language.resolveExtension (some text) with
    | error fault =>
      simp [after, apply, setExtension, hr, filePattern?, runtimeVersion?, dependencyVersion?,
        examples, body?]
    | ok extension => simp [resets, setExtension, hr, Except.isOk, Except.toBool] at h
  | acceptBody revision body =>
    by_cases hr : revision = s.revision <;>
      simp [after, apply, acceptBody, hr, filePattern?, runtimeVersion?, dependencyVersion?,
        examples, body?]
  | _ => rfl

theorem frame_after {t : Step} (h : t.resets = false) :
    t.after.extension = t.before.extension ∧ t.after.language = t.before.language := by
  rw [after_of_not_resets h]
  exact ⟨rfl, rfl⟩

theorem mem_of_extension? {t : Step} {extension : String} (h : t.extension? = some extension) :
    extension ∈ t.after.language.extensions := by
  have hlanguage := t.language_after
  obtain ⟨s, op⟩ := t
  cases op with
  | setExtension text =>
    rw [hlanguage]
    cases hr : s.language.resolveExtension (some text) with
    | error fault =>
      rw [extension?, hr] at h
      cases h
    | ok found =>
      rw [extension?, hr] at h
      cases h
      exact Language.mem_of_resolveExtension s.language (some text) extension hr
  | _ => cases h

theorem extension_mem_after (t : Step) (h : t.before.extension ∈ t.before.language.extensions) :
    t.after.extension ∈ t.after.language.extensions := by
  cases hr : t.resets with
  | false =>
    rw [(t.frame_after hr).1, (t.frame_after hr).2]
    exact h
  | true =>
    have hafter : t.after.extension = t.extension?.getD t.after.language.extension := by
      rw [t.after_of_resets hr]
      rfl
    rw [hafter]
    cases he : t.extension? with
    | none => exact t.after.language.extension_mem
    | some extension => exact mem_of_extension? he

theorem pairAt_examples (t : Step) (i : Nat) :
    t.examples.pairAt i =
      ⟨(t.input? i).getD (t.before.examples.pairAt i).input,
        (t.output? i).getD (t.before.examples.pairAt i).output⟩ := by
  obtain ⟨s, op⟩ := t
  cases op with
  | editInput j code =>
    rw [examples, Examples.pairAt_withInput]
    by_cases h : j = i ∧ i < s.examples.size <;> simp [input?, output?, h]
  | editOutput j code =>
    rw [examples, Examples.pairAt_withOutput]
    by_cases h : j = i ∧ i < s.examples.size <;> simp [input?, output?, h]
  | addExample => exact Examples.pairAt_withBlank s.examples i
  | _ => rfl

theorem size_examples (t : Step) :
    t.examples.size = t.before.examples.size + t.addsExample.toNat := by
  obtain ⟨s, op⟩ := t
  cases op with
  | editInput i code => exact Examples.size_withInput s.examples i code
  | editOutput i code => exact Examples.size_withOutput s.examples i code
  | addExample => exact Examples.size_withBlank s.examples
  | _ => rfl

end Step

/-! ### Runs -/

/-- A field that has its default in a fresh session, and that every other step sets to what it
gives, or keeps. -/
structure Tracks {α : Type} (field default : Session → α) (given? : Step → Option α) : Prop where
  fresh : ∀ l extension revision,
    field (fresh l extension revision) = default (fresh l extension revision)
  step : ∀ t : Step, t.resets = false → field t.after = (given? t).getD (field t.before)
  frame : ∀ t : Step, t.resets = false → default t.after = default t.before

/-- Such a field is what was given last since the last reset. -/
theorem Tracks.run {α : Type} {field default : Session → α} {given? : Step → Option α}
    (h : Tracks field default given?) (l : Language) (ops : List Operation) :
    field ((start l).run ops) =
      (last? given? (sinceReset ((start l).steps ops))).getD (default ((start l).run ops)) := by
  induction ops using List.reverseRecOn with
  | nil => exact h.fresh l l.extension 0
  | append_singleton ops op ih =>
    rw [run_concat, steps_concat]
    let t : Step := ⟨(start l).run ops, op⟩
    show field t.after = (last? given? (sinceReset (_ ++ [t]))).getD (default t.after)
    cases hr : t.resets with
    | true =>
      rw [sinceReset_concat_of_resets _ hr, last?_nil, Option.getD_none, t.after_of_resets hr]
      exact h.fresh _ _ _
    | false =>
      rw [sinceReset_concat _ hr, last?_concat, h.step t hr, h.frame t hr]
      cases given? t with
      | none => exact ih
      | some a => rfl

theorem tracks_filePattern :
    Tracks filePattern (fun s => Language.defaultPattern s.extension) Step.filePattern? where
  fresh := fun _ _ _ => rfl
  step := fun t h => by rw [t.after_of_not_resets h]
  frame := fun t h => by rw [(t.frame_after h).1]

theorem tracks_runtimeVersion : Tracks runtimeVersion (fun _ => "") Step.runtimeVersion? where
  fresh := fun _ _ _ => rfl
  step := fun t h => by rw [t.after_of_not_resets h]
  frame := fun _ _ => rfl

theorem tracks_dependencyVersion :
    Tracks dependencyVersion (fun _ => "") Step.dependencyVersion? where
  fresh := fun _ _ _ => rfl
  step := fun t h => by rw [t.after_of_not_resets h]
  frame := fun _ _ => rfl

theorem tracks_body : Tracks body (fun _ => "") Step.body? where
  fresh := fun _ _ _ => rfl
  step := fun t h => by rw [t.after_of_not_resets h]
  frame := fun _ _ => rfl

theorem tracks_input (i : Nat) :
    Tracks (fun s => (s.examples.pairAt i).input) (fun _ => "") (Step.input? i) where
  fresh := fun _ _ _ => congrArg Example.input (Examples.pairAt_initial i)
  step := fun t h => by rw [t.after_of_not_resets h, t.pairAt_examples]
  frame := fun _ _ => rfl

theorem tracks_output (i : Nat) :
    Tracks (fun s => (s.examples.pairAt i).output) (fun _ => "") (Step.output? i) where
  fresh := fun _ _ _ => congrArg Example.output (Examples.pairAt_initial i)
  step := fun t h => by rw [t.after_of_not_resets h, t.pairAt_examples]
  frame := fun _ _ => rfl

theorem size_run_start (l : Language) (ops : List Operation) :
    ((start l).run ops).examples.size =
      1 + (sinceReset ((start l).steps ops)).countP Step.addsExample := by
  induction ops using List.reverseRecOn with
  | nil => rfl
  | append_singleton ops op ih =>
    rw [run_concat, steps_concat]
    let t : Step := ⟨(start l).run ops, op⟩
    show t.after.examples.size = 1 + (sinceReset (_ ++ [t])).countP Step.addsExample
    cases hr : t.resets with
    | true =>
      rw [sinceReset_concat_of_resets _ hr, t.after_of_resets hr]
      rfl
    | false =>
      have hbefore : t.before.examples.size = _ := ih
      rw [sinceReset_concat _ hr, t.after_of_not_resets hr, t.size_examples, hbefore,
        List.countP_append, List.countP_singleton]
      cases t.addsExample with
      | true => rfl
      | false => rfl

theorem language_run (s : Session) (ops : List Operation) :
    (s.run ops).language = (last? Step.language? (s.steps ops)).getD s.language := by
  induction ops using List.reverseRecOn with
  | nil => rfl
  | append_singleton ops op ih =>
    rw [run_concat, steps_concat, last?_concat]
    have hafter := Step.language_after ⟨s.run ops, op⟩
    rw [ih] at hafter
    cases hl : Step.language? ⟨s.run ops, op⟩ with
    | none =>
      rw [hl] at hafter
      exact hafter
    | some l =>
      rw [hl] at hafter
      exact hafter

theorem extension_run_start (l : Language) (ops : List Operation) :
    ((start l).run ops).extension =
      ((lastReset? ((start l).steps ops)).bind Step.extension?).getD
        ((start l).run ops).language.extension := by
  induction ops using List.reverseRecOn with
  | nil => rfl
  | append_singleton ops op ih =>
    rw [run_concat, steps_concat]
    let t : Step := ⟨(start l).run ops, op⟩
    show t.after.extension =
      ((lastReset? (_ ++ [t])).bind Step.extension?).getD t.after.language.extension
    cases hr : t.resets with
    | true =>
      rw [lastReset?_concat_of_resets _ hr, t.after_of_resets hr]
      rfl
    | false =>
      rw [lastReset?_concat _ hr, (t.frame_after hr).1, (t.frame_after hr).2]
      exact ih

theorem extension_mem_run_start (l : Language) (ops : List Operation) :
    ((start l).run ops).extension ∈ ((start l).run ops).language.extensions := by
  induction ops using List.reverseRecOn with
  | nil => exact l.extension_mem
  | append_singleton ops op ih =>
    rw [run_concat]
    exact Step.extension_mem_after ⟨(start l).run ops, op⟩ ih

theorem countP_invalidates (s : Session) (ops : List Operation) :
    (s.steps ops).countP Step.invalidates = s.invalidations ops := by
  induction ops generalizing s with
  | nil => rfl
  | cons op ops ih =>
    rw [steps, List.countP_cons, ih, invalidations, Nat.add_comm]
    congr 1
    cases h : op.invalidates s with
    | true => simp [Step.invalidates, h]
    | false => simp [Step.invalidates, h]

/-- A session holds what its history says, whatever is done to it and in whatever order. Its
language is the one that was set last; its extension is what the last reset resolved, or the default
of the language; pattern, versions and accepted body are those given last since that reset, or else
their defaults; the examples are one more than were added since, each with the input and the output
given last while it was there. The revision counts, up to its width, the new languages, the
extensions taken and the edits of examples of the whole run. -/
theorem run_start_determined (l : Language) (ops : List Operation) :
    let now := (start l).run ops
    let history := (start l).steps ops
    let since := sinceReset history
    (now.language = (last? Step.language? history).getD l ∧
      now.extension = ((lastReset? history).bind Step.extension?).getD now.language.extension ∧
      now.extension ∈ now.language.extensions) ∧
    (now.filePattern =
        (last? Step.filePattern? since).getD (Language.defaultPattern now.extension) ∧
      now.runtimeVersion = (last? Step.runtimeVersion? since).getD "" ∧
      now.dependencyVersion = (last? Step.dependencyVersion? since).getD "") ∧
    now.body = (last? Step.body? since).getD "" ∧
    (now.examples.size = 1 + since.countP Step.addsExample ∧
      now.examples.pairs = (List.range now.examples.size).map fun i =>
        ⟨(last? (Step.input? i) since).getD "", (last? (Step.output? i) since).getD ""⟩) ∧
    now.revision.toNat = history.countP Step.invalidates % UInt64.size := by
  intro now history since
  refine ⟨⟨language_run (start l) ops, extension_run_start l ops, extension_mem_run_start l ops⟩,
    ⟨tracks_filePattern.run l ops, tracks_runtimeVersion.run l ops,
      tracks_dependencyVersion.run l ops⟩,
    tracks_body.run l ops, ⟨size_run_start l ops, ?_⟩, ?_⟩
  · rw [now.examples.pairs_eq_map_pairAt]
    apply List.map_congr_left
    intro i _
    rw [← (tracks_input i).run l ops, ← (tracks_output i).run l ops]
  · rw [countP_invalidates, revision_run]
    have hstart : (start l).revision.toNat = 0 := rfl
    rw [hstart, Nat.zero_add]

/-- An edit of an example that is not there yet is lost, also when the example is added later. -/
example : ((start .ruby).run [.editInput 1 "a", .addExample, .editInput 0 "b"]).examples.inputs =
    ["b", ""] := by decide

end ScriptPress.Session
