import ScriptPress.Proofs.Session.History

/-!
# Late bodies

A body is inferred while the editing goes on, and it comes back late. Main statement: it is taken
exactly if nothing happened in between that made it useless, and then the question it answers is
still the question of the session.
-/
namespace ScriptPress.Session

theorem acceptBody_eq_true_iff (s : Session) (revision : UInt64) (body : String) :
    (s.acceptBody revision body).1 = true ↔ revision = s.revision := by
  by_cases h : revision = s.revision
  · simp [acceptBody, h]
  · simp [acceptBody, h]

theorem acceptBody_of_true (s : Session) (revision : UInt64) (body : String)
    (h : (s.acceptBody revision body).1 = true) :
    (s.acceptBody revision body).2 = { s with body := body } := by
  rw [(acceptBody_eq_true_iff s revision body).mp h, acceptBody_revision]

theorem acceptBody_of_false (s : Session) (revision : UInt64) (body : String)
    (h : (s.acceptBody revision body).1 = false) : (s.acceptBody revision body).2 = s := by
  have hne : ¬revision = s.revision := by
    rw [← acceptBody_eq_true_iff s revision body, h]
    exact Bool.false_ne_true
  rw [acceptBody, if_neg hne]

/-- At two moments of a run that is not too long for the counter, the revisions agree exactly if
there was no invalidation in between. -/
theorem revision_eq_iff (language : Language) (before between : List Operation)
    (h : (start language).invalidations (before ++ between) < UInt64.size) :
    ((start language).run before).revision =
        (((start language).run before).run between).revision ↔
      ((start language).run before).invalidations between = 0 := by
  have happend := invalidations_append (start language) before between
  have hnow := revision_run_start language (before ++ between) h
  have hasked := revision_run_start language before (by omega)
  rw [run_append] at hnow
  rw [← UInt64.toNat_inj, hasked, hnow, happend]
  omega

/-- A late body never replaces newer input. It is taken exactly if no operation since its question
was asked makes it useless; then the language and the question are what they were, and only the
body changes. A body that is not taken changes nothing. -/
theorem acceptBody_late (language : Language) (before between : List Operation) (body : String)
    (h : (start language).invalidations (before ++ between) < UInt64.size) :
    let asked := (start language).run before
    let now := asked.run between
    let answered := now.acceptBody asked.bodyQuery.1 body
    (answered.1 = true ↔
      ∀ earlier op later, between = earlier ++ op :: later →
        op.invalidates (asked.run earlier) = false) ∧
    (answered.1 = true →
      now.language = asked.language ∧ now.bodyQuery.2 = asked.bodyQuery.2 ∧
        answered.2 = { now with body := body }) ∧
    (answered.1 = false → answered.2 = now) := by
  intro asked now answered
  have htaken : answered.1 = true ↔ asked.invalidations between = 0 :=
    (acceptBody_eq_true_iff now _ body).trans (revision_eq_iff language before between h)
  refine ⟨htaken.trans (invalidations_eq_zero_iff asked between), ?_, ?_⟩
  · intro ht
    obtain ⟨hlanguage, hquery⟩ := frame_run asked between (htaken.mp ht)
    exact ⟨hlanguage, congrArg Prod.snd hquery, acceptBody_of_true now _ body ht⟩
  · exact acceptBody_of_false now _ body

/-- A body survives a new pattern, new versions, an extension that is refused and the answer to an
older question. -/
theorem acceptBody_late_after_pattern :
    let before := [Operation.editInput 0 "foo.bar", .addExample]
    let between := [Operation.setFilePattern "lib/*.rb", .setRuntimeVersion "3.1",
      .setExtension "ts", .acceptBody 1 "old", .setDependencyVersion "rails 7"]
    let asked := (start .ruby).run before
    (start .ruby).invalidations (before ++ between) < UInt64.size ∧
      ((asked.run between).acceptBody asked.bodyQuery.1 "new").1 = true := by
  intro before between asked
  have hsize : (start .ruby).invalidations (before ++ between) < UInt64.size := by decide
  have hnone : asked.invalidations between = 0 := by decide
  obtain ⟨htaken, _, _⟩ := acceptBody_late .ruby before between "new" hsize
  exact ⟨hsize, htaken.mpr ((invalidations_eq_zero_iff asked between).mp hnone)⟩

end ScriptPress.Session
