import ScriptPress.Run

/-!
# Runs in a world

How the first steps of a run are played: a source is read from its file, or from the standard input
that is empty afterwards. A run that sends nothing leaves no exchange.
-/
namespace ScriptPress

/-! ### Sources -/

/-- The text at a path, the line breaks at its end included, if it is readable. -/
def World.content? (w : World) (s : Supply) (path : String) : Option String :=
  if Source.isStandardInput path then Text.ofUtf8? s.input else (w.file path).text.toOption

/-- What is left once the source at a path has been read. -/
def Supply.afterSource (s : Supply) (path : String) : Supply :=
  if Source.isStandardInput path then { s with input := [] } else s

/-- Reading a source changes no source but the standard input, and that only if it is read. -/
theorem World.content?_afterSource (w : World) (s : Supply) (path other : String)
    (h : Source.isStandardInput path = true → Source.isStandardInput other = false) :
    w.content? (s.afterSource path) other = w.content? s other := by
  unfold content? Supply.afterSource
  by_cases hpath : Source.isStandardInput path = true
  · have hother : ¬Source.isStandardInput other = true := by
      rw [h hpath]
      exact Bool.false_ne_true
    rw [if_neg hother, if_neg hother]
  · rw [if_neg hpath]

namespace Run

variable {α β : Type}

theorem play_source_bind (w : World) (s : Supply) (path text : String) (next : String → Run α)
    (h : w.content? s path = some text) :
    play w s (source path >>= next) =
      play w (s.afterSource path) (next (Text.withoutLineEnds text)) := by
  unfold World.content? at h
  unfold source Supply.afterSource
  by_cases hpath : Source.isStandardInput path = true
  · rw [if_pos hpath] at h
    have hinput : Source.ofInput s.input = .ok (Text.withoutLineEnds text) := by
      rw [Source.ofInput, h]
    rw [if_pos hpath, if_pos hpath]
    show play w _ ((ofReport (Source.ofInput s.input)).bind next) = _
    rw [hinput]
    rfl
  · rw [if_neg hpath] at h
    have hfile : (w.file path).sourceAt path = .ok (Text.withoutLineEnds text) := by
      rw [FileContent.sourceAt, FileContent.textAt]
      cases hcontent : (w.file path).text with
      | error fault => simp [hcontent, Except.toOption] at h
      | ok found =>
        have hfound : found = text := by simpa [hcontent, Except.toOption] using h
        rw [hfound]
        rfl
    rw [if_neg hpath, if_neg hpath]
    show play w s ((ofReport ((w.file path).sourceAt path)).bind next) = _
    rw [hfile]
    rfl

/-! ### Runs that send nothing -/

/-- Whether nothing is sent in a run, whatever comes back. -/
inductive Quiet : Run α → Prop where
  | done (a : α) : Quiet (.done a)
  | fail (r : Report) : Quiet (.fail r)
  | readFile (path : String) {next : FileContent → Run α} (h : ∀ content, Quiet (next content)) :
      Quiet (.readFile path next)
  | readInput {next : List UInt8 → Run α} (h : ∀ bytes, Quiet (next bytes)) :
      Quiet (.readInput next)
  | ask (q : Prompt.Question) {next : Except NoAnswer q.Answer → Run α}
      (h : ∀ a, Quiet (next a)) : Quiet (.ask q next)
  | note (n : Note) {next : Run α} (h : Quiet next) : Quiet (.note n next)
  | writeFile (path text : String) {next : Except FileFault Unit → Run α}
      (h : ∀ outcome, Quiet (next outcome)) : Quiet (.writeFile path text next)
  | print (text : String) {next : Run α} (h : Quiet next) : Quiet (.print text next)

theorem Quiet.bind {m : Run α} {f : α → Run β} (hm : m.Quiet) (hf : ∀ a, (f a).Quiet) :
    (m >>= f).Quiet := by
  induction hm with
  | done a => exact hf a
  | fail r => exact .fail r
  | readFile path _ ih => exact .readFile path ih
  | readInput _ ih => exact .readInput ih
  | ask q _ ih => exact .ask q ih
  | note n _ ih => exact .note n ih
  | writeFile path text _ ih => exact .writeFile path text ih
  | print text _ ih => exact .print text ih

theorem exchanges_of_quiet (w : World) (s : Supply) (r : Run α) (h : r.Quiet) :
    (play w s r).exchanges = [] := by
  induction h generalizing s with
  | done a => rfl
  | fail report => rfl
  | readFile path _ ih => exact ih _ s
  | readInput _ ih => exact ih _ _
  | ask q _ ih => exact ih _ _
  | note n _ ih => exact ih s
  | writeFile path text _ ih =>
    rw [play]
    split
    · exact ih _ s
    · exact ih _ s
  | print text _ ih => exact ih s

theorem quiet_ofFault (x : Except Fault α) : (ofFault x).Quiet := by
  cases x with
  | ok a => exact .done a
  | error fault => exact .fail _

theorem quiet_tell (n : Note) : (tell n).Quiet := .note n (.done ())

theorem quiet_write (path text : String) : (write path text).Quiet := by
  refine .writeFile path text fun outcome => ?_
  cases outcome with
  | ok _ => exact .done ()
  | error fault => exact .fail _

theorem exchanges_post_bind (w : World) (s : Supply) (action : Service.Action) (address : Url)
    (payload : List Char) (next : Except Fault String → Run α) (h : ∀ outcome, (next outcome).Quiet) :
    (play w s (post action address payload >>= next)).exchanges =
      if Service.canPost address then
        [(⟨address, payload⟩, w.service ⟨address, payload⟩)]
      else [] := by
  unfold post
  cases Service.canPost address with
  | false => exact exchanges_of_quiet w s _ (h _)
  | true =>
    have hrest := exchanges_of_quiet w s _
      (h ((w.service ⟨address, payload⟩).outcome action address))
    exact congrArg ((⟨address, payload⟩, w.service ⟨address, payload⟩) :: ·) hrest

end Run
end ScriptPress
