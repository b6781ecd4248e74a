import ScriptPress.Proofs.Run.World

/-!
# Runs one after the other in a world

A run in steps is played step by step: the later one starts with what the earlier one has left of
the supply, and what happens in it comes after what happened before. Main statements: `play_bind`;
a run that sends nothing is the same whatever the service answers (`Quiet.play_withService`); and a
run that writes nothing leaves nothing behind when it fails (`WritesNothing`).
-/
namespace ScriptPress

/-! ### Stories -/

namespace Story

variable {α β : Type}

def precededBy (s : Story α) (earlier : List Event) : Story α := ⟨s.result, earlier ++ s.events⟩

theorem result_precededBy (s : Story α) (earlier : List Event) :
    (s.precededBy earlier).result = s.result := rfl

theorem exchanges_precededBy (s : Story α) (earlier : List Event) :
    (s.precededBy earlier).exchanges =
      exchanges ⟨s.result, earlier⟩ ++ s.exchanges := List.filterMap_append

/-- The story of a run that goes on with the result of another; a failure ends both. -/
def followedBy (s : Story α) (next : α → Story β) : Story β :=
  match s.result with
  | .ok a => (next a).precededBy s.events
  | .error r => ⟨.error r, s.events⟩

theorem after_followedBy (s : Story α) (e : Event) (next : α → Story β) :
    (s.after e).followedBy next = (s.followedBy next).after e := by
  obtain ⟨result, events⟩ := s
  cases result with
  | ok a => rfl
  | error r => rfl

end Story

/-! ### What is left behind -/

/-- What a run leaves behind: what it printed, and the files it wrote. -/
structure Remains where
  output : String
  written : List (String × String)
  deriving DecidableEq, Repr

namespace Remains

def nothing : Remains := ⟨"", []⟩

/-- A text in a file as it is, or on the screen as one more line, with something before it there. -/
def ofText (before : String) (target : Option String) (text : String) : Remains :=
  match target with
  | some path => ⟨"", [(path, text)]⟩
  | none => ⟨before ++ text ++ "\n", []⟩

end Remains

namespace Story

variable {α β : Type}

def remains (s : Story α) : Remains := ⟨s.output, s.written⟩

theorem remains_precededBy (s : Story α) {earlier : List Event} {x : Except Report β}
    (h : remains ⟨x, earlier⟩ = .nothing) : (s.precededBy earlier).remains = s.remains := by
  have houtput : output (⟨x, earlier⟩ : Story β) = "" := congrArg Remains.output h
  have hwritten : written (⟨x, earlier⟩ : Story β) = [] := congrArg Remains.written h
  simp only [output, written] at houtput hwritten
  simp only [precededBy, remains, output, written, List.map_append, String.join_append,
    List.filterMap_append, houtput, hwritten, String.empty_append, List.nil_append]

theorem remains_concat_note (x : Except Report α) (events : List Event) (n : Note) :
    remains ⟨x, events ++ [.noted n]⟩ = remains ⟨x, events⟩ := by
  simp only [remains, output, written, List.map_append, List.map_cons, List.map_nil,
    String.join_append, List.filterMap_append, List.filterMap_cons, List.filterMap_nil,
    List.append_nil]
  rw [String.join_cons, String.join_nil, String.append_empty, String.append_empty]

theorem of_notes (x : Except Report α) (notes : List Note) :
    remains ⟨x, notes.map .noted⟩ = .nothing ∧ exchanges ⟨x, notes.map .noted⟩ = [] := by
  induction notes with
  | nil => exact ⟨rfl, rfl⟩
  | cons n notes ih =>
    have hone : remains (⟨x, [.noted n]⟩ : Story α) = .nothing := rfl
    exact ⟨(remains_precededBy ⟨x, notes.map .noted⟩ hone).trans ih.1, ih.2⟩

end Story

namespace Run

variable {α β : Type}

/-! ### Supplies -/

/-- What is left of the supply when a run has been played. -/
def remaining (w : World) : Supply → Run α → Supply
  | p, .done _ => p
  | p, .fail _ => p
  | p, .readFile path next => remaining w p (next (w.file path))
  | p, .readInput next => remaining w { p with input := [] } (next p.input)
  | p, .send e next => remaining w p (next (w.service e))
  | p, .ask q next => remaining w (p.answer q).2 (next (p.answer q).1)
  | p, .note _ next => remaining w p next
  | p, .writeFile path _ next =>
    match w.refusal? path with
    | some f => remaining w p (next (.error f))
    | none => remaining w p (next (.ok ()))
  | p, .print _ next => remaining w p next

/-- The second of two runs is played with what the first has left. -/
theorem play_bind (w : World) (p : Supply) (m : Run α) (f : α → Run β) :
    play w p (m >>= f) =
      (play w p m).followedBy fun a => play w (remaining w p m) (f a) := by
  show play w p (m.bind f) = _
  induction m generalizing p with
  | done a => rfl
  | fail r => rfl
  | readFile path next ih => exact ih _ p
  | readInput next ih => exact ih _ _
  | send e next ih =>
    exact (congrArg (Story.after · _) (ih _ p)).trans (Story.after_followedBy _ _ _).symm
  | ask q next ih => exact ih _ _
  | note n next ih =>
    exact (congrArg (Story.after · _) (ih p)).trans (Story.after_followedBy _ _ _).symm
  | writeFile path text next ih =>
    simp only [bind, play, remaining]
    cases w.refusal? path with
    | some fault => exact ih _ p
    | none => exact (congrArg (Story.after · _) (ih _ p)).trans (Story.after_followedBy _ _ _).symm
  | print text next ih =>
    exact (congrArg (Story.after · _) (ih p)).trans (Story.after_followedBy _ _ _).symm

/-- A step that is not seen from outside only hands over its result. -/
theorem play_bind_unseen {w : World} {p : Supply} {m : Run α} {a : α}
    (hresult : (play w p m).result = .ok a) (hevents : (play w p m).events = []) (f : α → Run β) :
    play w p (m >>= f) = play w (remaining w p m) (f a) := by
  rw [play_bind]
  unfold Story.followedBy
  rw [hresult, hevents]
  rfl

theorem events_play_bind_eq_nil {w : World} {p : Supply} {m : Run α} {f : α → Run β}
    (hm : (play w p m).events = []) (hf : ∀ a q, (play w q (f a)).events = []) :
    (play w p (m >>= f)).events = [] := by
  rw [play_bind]
  unfold Story.followedBy
  rw [hm]
  cases (play w p m).result with
  | ok a => exact hf a _
  | error r => rfl

theorem play_endingWith (w : World) (p : Supply) (n : Note) (m : Run α) :
    play w p (m.endingWith n) = ⟨(play w p m).result, (play w p m).events ++ [.noted n]⟩ := by
  induction m generalizing p with
  | done a => rfl
  | fail r => rfl
  | readFile path next ih => exact ih _ p
  | readInput next ih => exact ih _ _
  | send e next ih => exact congrArg (Story.after · _) (ih _ p)
  | ask q next ih => exact ih _ _
  | note m next ih => exact congrArg (Story.after · _) (ih p)
  | writeFile path text next ih =>
    simp only [endingWith, play]
    cases w.refusal? path with
    | some fault => exact ih _ p
    | none => exact congrArg (Story.after · _) (ih _ p)
  | print text next ih => exact congrArg (Story.after · _) (ih p)

/-! ### Steps in a world -/

theorem play_ofFault_bind (w : World) (p : Supply) (x : Except Fault α) (f : α → Run β) :
    play w p (ofFault x >>= f) =
      match x with
      | .ok a => play w p (f a)
      | .error fault => ⟨.error (.ofFault fault), []⟩ := by
  cases x with
  | ok a => rfl
  | error fault => rfl

theorem play_post_bind (w : World) (p : Supply) (action : Service.Action) (address : Url)
    (payload : List Char) (next : Except Fault String → Run α) :
    play w p (post action address payload >>= next) =
      if Service.canPost address then
        (play w p (next ((w.service ⟨address, payload⟩).outcome action address))).after
          (.sent ⟨address, payload⟩ (w.service ⟨address, payload⟩))
      else play w p (next (.error (Service.unsent address))) := by
  unfold post
  cases Service.canPost address with
  | true => rfl
  | false => rfl

theorem play_source (w : World) (p : Supply) (path : String) :
    (play w p (source path)).events = [] ∧
      ∀ taken, (play w p (source path)).result = .ok taken ↔
        ∃ text, w.content? p path = some text ∧ taken = Text.withoutLineEnds text := by
  unfold source World.content?
  by_cases hpath : Source.isStandardInput path = true
  · simp only [if_pos hpath, play, Source.ofInput]
    cases Text.ofUtf8? p.input with
    | none => simp [ofReport, play]
    | some text => simp [ofReport, play, eq_comm]
  · simp only [if_neg hpath, play, FileContent.sourceAt, FileContent.textAt]
    cases (w.file path).text with
    | error fault => simp [ofReport, play, Functor.map, Except.map, Except.toOption]
    | ok text => simp [ofReport, play, Functor.map, Except.map, Except.toOption, eq_comm]

theorem play_source_bind_cases (w : World) (p : Supply) (path : String) (next : String → Run α) :
    (∃ text, w.content? p path = some text ∧ play w p (source path >>= next) =
      play w (p.afterSource path) (next (Text.withoutLineEnds text))) ∨
    w.content? p path = none ∧ ∃ r, play w p (source path >>= next) = ⟨.error r, []⟩ := by
  cases hcontent : w.content? p path with
  | some text => exact .inl ⟨text, rfl, play_source_bind w p path text next hcontent⟩
  | none =>
    obtain ⟨hevents, hsource⟩ := play_source w p path
    cases hresult : (play w p (source path)).result with
    | ok taken =>
      obtain ⟨text, htext, -⟩ := (hsource taken).mp hresult
      cases hcontent.symm.trans htext
    | error r =>
      refine .inr ⟨rfl, r, ?_⟩
      rw [play_bind, Story.followedBy, hresult, hevents]

/-! ### Runs that send nothing -/

theorem quiet_source (path : String) : (source path).Quiet := by
  have hofReport : ∀ x : Except Report String, (ofReport x).Quiet := by
    intro x
    cases x with
    | ok a => exact .done a
    | error r => exact .fail r
  unfold source
  by_cases hpath : Source.isStandardInput path = true
  · rw [if_pos hpath]
    exact .readInput fun bytes => hofReport _
  · rw [if_neg hpath]
    exact .readFile path fun content => hofReport _

end Run

def World.withService (w : World) (service : Service.Exchange → Service.Reply) : World :=
  { w with service := service }

namespace Run

variable {α β : Type}

/-- A run that sends nothing is the same whatever the service answers. -/
theorem Quiet.play_withService {m : Run α} (h : m.Quiet) (w : World) (p : Supply)
    (service : Service.Exchange → Service.Reply) :
    play (w.withService service) p m = play w p m ∧
      remaining (w.withService service) p m = remaining w p m := by
  induction h generalizing p with
  | done a => exact ⟨rfl, rfl⟩
  | fail r => exact ⟨rfl, rfl⟩
  | readFile path _ ih => exact ih _ p
  | readInput _ ih => exact ih _ _
  | ask q _ ih => exact ih _ _
  | note n _ ih => exact ⟨congrArg (Story.after · _) (ih p).1, (ih p).2⟩
  | writeFile path text _ ih =>
    have hrefusal : (w.withService service).refusal? = w.refusal? := rfl
    simp only [play, remaining, hrefusal]
    cases w.refusal? path with
    | some fault => exact ih _ p
    | none => exact ⟨congrArg (Story.after · _) (ih _ p).1, (ih _ p).2⟩
  | print text _ ih => exact ⟨congrArg (Story.after · _) (ih p).1, (ih p).2⟩

/-- After a run that sends nothing all exchanges are those of what comes next. -/
theorem Quiet.exchanges_bind_cases {m : Run α} (h : m.Quiet) (w : World) (p : Supply)
    (f : α → Run β) :
    (∃ a, (play w p m).result = .ok a ∧
      (play w p (m >>= f)).exchanges = (play w (remaining w p m) (f a)).exchanges) ∨
    (play w p (m >>= f)).exchanges = [] := by
  have hquiet := exchanges_of_quiet w p m h
  rw [play_bind]
  generalize play w p m = story at hquiet ⊢
  obtain ⟨result, events⟩ := story
  cases result with
  | error r => exact .inr hquiet
  | ok a =>
    refine .inl ⟨a, rfl, ?_⟩
    rw [Story.followedBy, Story.exchanges_precededBy]
    exact congrArg (· ++ _) hquiet

/-! ### Runs that write nothing -/

/-- Whether a run leaves nothing behind, in whatever world it is played. -/
def WritesNothing (m : Run α) : Prop := ∀ w p, (play w p m).remains = .nothing

theorem writesNothing_done (a : α) : (done a).WritesNothing := fun _ _ => rfl

theorem writesNothing_fail (r : Report) : (fail r : Run α).WritesNothing := fun _ _ => rfl

theorem writesNothing_ofFault (x : Except Fault α) : (ofFault x).WritesNothing := by
  cases x with
  | ok a => exact writesNothing_done a
  | error fault => exact writesNothing_fail _

theorem writesNothing_ofReport (x : Except Report α) : (ofReport x).WritesNothing := by
  cases x with
  | ok a => exact writesNothing_done a
  | error r => exact writesNothing_fail r

theorem writesNothing_tell (n : Note) : (tell n).WritesNothing := fun _ _ => rfl

theorem writesNothing_readFile (path : String) {next : FileContent → Run α}
    (h : ∀ content, (next content).WritesNothing) : (readFile path next).WritesNothing :=
  fun w p => h (w.file path) w p

theorem writesNothing_source (path : String) : (source path).WritesNothing := by
  intro w p
  have hevents := (play_source w p path).1
  unfold Story.remains Story.output Story.written
  rw [hevents]
  rfl

theorem writesNothing_answer (q : Prompt.Question) : (answer q).WritesNothing := by
  intro w p
  unfold answer
  rw [play]
  cases (p.answer q).1 with
  | ok a => rfl
  | error why => rfl

theorem writesNothing_post (action : Service.Action) (address : Url) (payload : List Char) :
    (post action address payload).WritesNothing := by
  intro w p
  unfold post
  cases Service.canPost address with
  | true => rfl
  | false => rfl

theorem WritesNothing.play_bind_cases {m : Run α} (h : m.WritesNothing) (w : World) (p : Supply)
    (f : α → Run β) :
    (∃ r, (play w p m).result = .error r ∧ (play w p (m >>= f)).result = .error r ∧
      (play w p (m >>= f)).remains = .nothing) ∨
    ∃ a, (play w p m).result = .ok a ∧
      let rest := play w (remaining w p m) (f a)
      (play w p (m >>= f)).result = rest.result ∧ (play w p (m >>= f)).remains = rest.remains := by
  have hnothing := h w p
  rw [play_bind]
  generalize play w p m = story at hnothing ⊢
  obtain ⟨result, events⟩ := story
  cases result with
  | error r => exact .inl ⟨r, rfl, rfl, hnothing⟩
  | ok a => exact .inr ⟨a, rfl, rfl, Story.remains_precededBy _ hnothing⟩

theorem WritesNothing.bind {m : Run α} {f : α → Run β} (hm : m.WritesNothing)
    (hf : ∀ a, (f a).WritesNothing) : (m >>= f).WritesNothing := by
  intro w p
  obtain ⟨r, -, -, hnothing⟩ | ⟨a, -, -, hrest⟩ := hm.play_bind_cases w p f
  · exact hnothing
  · exact hrest.trans (hf a w _)

end Run
end ScriptPress
