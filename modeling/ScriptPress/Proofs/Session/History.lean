import ScriptPress.Session

/-!
# Histories of a session

The operations on a session as data, and runs of them. An operation moves the revision on by one if
it makes the bodies that were asked for before useless, and leaves it alone otherwise; over a run
the revision therefore counts these operations, across the resets too.
-/
namespace ScriptPress.Session

/-- What can be done to a session. Asking it for a body or for its script changes nothing. -/
inductive Operation where
  | setLanguage (language : Language)
  | setExtension (text : String)
  | setFilePattern (pattern : String)
  | setRuntimeVersion (raw : String)
  | setDependencyVersion (raw : String)
  | editInput (i : Nat) (code : String)
  | editOutput (i : Nat) (code : String)
  | addExample
  | acceptBody (revision : UInt64) (body : String)
  deriving DecidableEq, Repr

def apply (s : Session) : Operation → Session
  | .setLanguage language => s.setLanguage language
  | .setExtension text =>
    match s.setExtension text with
    | .ok t => t
    | .error _ => s
  | .setFilePattern pattern => s.setFilePattern pattern
  | .setRuntimeVersion raw => s.setRuntimeVersion raw
  | .setDependencyVersion raw => s.setDependencyVersion raw
  | .editInput i code => s.editInput i code
  | .editOutput i code => s.editOutput i code
  | .addExample => s.addExample
  | .acceptBody revision body => (s.acceptBody revision body).2

def run (s : Session) (ops : List Operation) : Session := ops.foldl apply s

theorem run_nil (s : Session) : s.run [] = s := rfl

theorem run_cons (s : Session) (op : Operation) (ops : List Operation) :
    s.run (op :: ops) = (s.apply op).run ops := rfl

theorem run_append (s : Session) (ops later : List Operation) :
    s.run (ops ++ later) = (s.run ops).run later := List.foldl_append

/-- Whether an operation on a session makes earlier bodies useless: a new language, an extension
that is taken, and every edit of the examples. -/
def Operation.invalidates (s : Session) : Operation → Bool
  | .setLanguage _ => true
  | .setExtension text => (s.setExtension text).isOk
  | .setFilePattern _ => false
  | .setRuntimeVersion _ => false
  | .setDependencyVersion _ => false
  | .editInput _ _ => true
  | .editOutput _ _ => true
  | .addExample => true
  | .acceptBody _ _ => false

def invalidations (s : Session) : List Operation → Nat
  | [] => 0
  | op :: ops => (op.invalidates s).toNat + invalidations (s.apply op) ops

theorem invalidations_append (s : Session) (ops later : List Operation) :
    s.invalidations (ops ++ later) = s.invalidations ops + (s.run ops).invalidations later := by
  induction ops generalizing s with
  | nil =>
    rw [List.nil_append, run_nil, invalidations]
    omega
  | cons op ops ih =>
    rw [List.cons_append, invalidations, invalidations, run_cons, ih]
    omega

theorem invalidations_eq_zero_iff (s : Session) (ops : List Operation) :
    s.invalidations ops = 0 ↔
      ∀ earlier op later, ops = earlier ++ op :: later → op.invalidates (s.run earlier) = false := by
  constructor
  · intro h earlier op later hops
    rw [hops, invalidations_append, invalidations] at h
    have hop : (op.invalidates (s.run earlier)).toNat = 0 := by omega
    exact Bool.toNat_eq_zero.mp hop
  · intro h
    induction ops generalizing s with
    | nil => rfl
    | cons op ops ih =>
      have hop : op.invalidates s = false := h [] op ops rfl
      have hops : (s.apply op).invalidations ops = 0 := by
        apply ih
        intro earlier next later he
        exact h (op :: earlier) next later (congrArg (op :: ·) he)
      rw [invalidations, hop, hops]
      rfl

/-! ### One operation -/

theorem revision_setExtension (s t : Session) (text : String) (h : s.setExtension text = .ok t) :
    t.revision = s.revision + 1 := by
  unfold setExtension at h
  cases he : s.language.resolveExtension (some text) with
  | error fault => simp [he] at h
  | ok extension =>
    simp only [he, Except.ok.injEq] at h
    rw [← h]
    rfl

theorem revision_apply (s : Session) (op : Operation) :
    (s.apply op).revision = if op.invalidates s then s.revision + 1 else s.revision := by
  cases op with
  | setExtension text =>
    cases h : s.setExtension text with
    | error fault => simp [apply, Operation.invalidates, h, Except.isOk, Except.toBool]
    | ok t =>
      have ht := revision_setExtension s t text h
      simp [apply, Operation.invalidates, h, ht, Except.isOk, Except.toBool]
  | acceptBody revision body =>
    by_cases h : revision = s.revision
    · simp [apply, acceptBody, Operation.invalidates, h]
    · simp [apply, acceptBody, Operation.invalidates, h]
  | _ => rfl

theorem frame_apply (s : Session) (op : Operation) (h : op.invalidates s = false) :
    (s.apply op).language = s.language ∧ (s.apply op).bodyQuery = s.bodyQuery := by
  cases op with
  | setExtension text =>
    cases ht : s.setExtension text with
    | error fault => simp [apply, ht]
    | ok t => simp [Operation.invalidates, ht, Except.isOk, Except.toBool] at h
  | acceptBody revision body =>
    by_cases hr : revision = s.revision
    · simp [apply, acceptBody, hr, bodyQuery]
    · simp [apply, acceptBody, hr]
  | setFilePattern pattern => exact ⟨rfl, rfl⟩
  | setRuntimeVersion raw => exact ⟨rfl, rfl⟩
  | setDependencyVersion raw => exact ⟨rfl, rfl⟩
  | setLanguage language => cases h
  | editInput i code => cases h
  | editOutput i code => cases h
  | addExample => cases h

/-! ### Runs -/

/-- The revision counts the invalidations, up to its width. -/
theorem revision_run (s : Session) (ops : List Operation) :
    (s.run ops).revision.toNat = (s.revision.toNat + s.invalidations ops) % UInt64.size := by
  induction ops generalizing s with
  | nil =>
    rw [run_nil, invalidations, Nat.add_zero]
    exact (Nat.mod_eq_of_lt s.revision.toNat_lt).symm
  | cons op ops ih =>
    rw [run_cons, ih, revision_apply, invalidations]
    by_cases h : op.invalidates s = true
    · rw [if_pos h, h, UInt64.toNat_add, Bool.toNat_true, UInt64.toNat_one, UInt64.size]
      omega
    · rw [if_neg h, Bool.eq_false_iff.mpr h, Bool.toNat_false, Nat.zero_add]

theorem frame_run (s : Session) (ops : List Operation) (h : s.invalidations ops = 0) :
    (s.run ops).language = s.language ∧ (s.run ops).bodyQuery = s.bodyQuery := by
  induction ops generalizing s with
  | nil => exact ⟨rfl, rfl⟩
  | cons op ops ih =>
    rw [invalidations] at h
    have hop : op.invalidates s = false := Bool.toNat_eq_zero.mp (by omega)
    obtain ⟨hlanguage, hquery⟩ := ih (s.apply op) (by omega)
    obtain ⟨hlanguage', hquery'⟩ := frame_apply s op hop
    rw [run_cons]
    exact ⟨hlanguage.trans hlanguage', hquery.trans hquery'⟩

theorem revision_run_start (language : Language) (ops : List Operation)
    (h : (start language).invalidations ops < UInt64.size) :
    ((start language).run ops).revision.toNat = (start language).invalidations ops := by
  have hstart : (start language).revision.toNat = 0 := rfl
  rw [revision_run, hstart, Nat.zero_add]
  exact Nat.mod_eq_of_lt h

end ScriptPress.Session
