import ScriptPress.Run

/-!
# Logs of runs

Everything that a run does and everything that comes back, in order: the log of the run.
`Run.Ends` tells which logs a run can have and how it ends with each of them, whatever the files
hold, the service answers and the user types; an answer is only one that its question lets through.
Main statements: a run in steps has the logs of its steps one after the other (`Run.ends_bind_iff`),
and `Run.play` in any world ends as one of the logs says (`Run.record_ends`).
-/
namespace ScriptPress

namespace Prompt

def Entry.Admits (e : Entry) (text : String) : Prop :=
  (e.required = true → text ≠ "") ∧ e.problem? text = none

def Question.Admits : (q : Question) → q.Answer → Prop
  | .choice _ _, _ => True
  | .entry e, text => e.Admits text
  | .confirmation _ _, _ => True

theorem Entry.admits_of_accepted? (e : Entry) (typed : List Char) (text : String)
    (h : e.accepted? typed = some text) : e.Admits text := by
  unfold Entry.accepted? at h
  generalize (if typed.isEmpty then e.initial else String.ofList typed) = taken at h
  dsimp only at h
  by_cases hmissing : (e.required && taken == "") = true
  · rw [if_pos hmissing] at h
    cases h
  · by_cases hproblem : (e.problem? taken).isSome = true
    · rw [if_neg hmissing, if_pos hproblem] at h
      cases h
    · rw [if_neg hmissing, if_neg hproblem] at h
      rw [← Option.some.inj h]
      refine ⟨fun hrequired hempty => hmissing ?_, Option.not_isSome_iff_eq_none.mp hproblem⟩
      rw [hrequired, hempty]
      rfl

theorem admits_of_entered? (e : Entry) (typed : List Char) (text : String) (keys rest : List Key)
    (h : entered? e typed keys = some (text, rest)) : e.Admits text := by
  induction keys generalizing typed with
  | nil => cases h
  | cons k keys ih =>
    cases k with
    | char c => exact ih _ h
    | backspace => exact ih _ h
    | up => exact ih _ h
    | down => exact ih _ h
    | escape => cases h
    | enter =>
      rw [entered?] at h
      split at h
      · rename_i taken haccepted
        have htaken : taken = text := (Prod.mk.inj (Option.some.inj h)).1
        exact e.admits_of_accepted? typed text (htaken ▸ haccepted)
      · exact ih _ h

theorem Question.admits_of_answer? (q : Question) (a : q.Answer) (keys rest : List Key)
    (h : q.answer? keys = some (a, rest)) : q.Admits a := by
  cases q with
  | choice title items => trivial
  | entry e => exact admits_of_entered? e [] a keys rest h
  | confirmation title initial => trivial

end Prompt

/-- One thing that happens in a run, with what comes back. -/
inductive Happening where
  | read (path : String) (content : FileContent)
  | input (bytes : List UInt8)
  | sent (e : Service.Exchange) (reply : Service.Reply)
  | answered (q : Prompt.Question) (a : q.Answer)
  | unanswered (q : Prompt.Question) (why : NoAnswer)
  | noted (n : Note)
  | wrote (path text : String) (outcome : Except FileFault Unit)
  | printed (text : String)

namespace Happening

def event? : Happening → Option Event
  | .sent e reply => some (.sent e reply)
  | .noted n => some (.noted n)
  | .wrote path text (.ok ()) => some (.wrote path text)
  | .printed text => some (.printed text)
  | _ => none

/-- Whether it is the reading of the source at a path, which holds a text. -/
def Gives (path text : String) (h : Happening) : Prop :=
  if Source.isStandardInput path then ∃ bytes, h = .input bytes ∧ Source.ofInput bytes = .ok text
  else ∃ content, h = .read path content ∧ content.sourceAt path = .ok text

end Happening

namespace Service.Exchange

/-- What goes out of an exchange: the exchange itself, unless its address cannot be posted to. -/
def posted (exchange : Exchange) (reply : Reply) : List (Exchange × Reply) :=
  if canPost exchange.address then [(exchange, reply)] else []

def outcome (action : Action) (exchange : Exchange) (reply : Reply) : Except Fault String :=
  if canPost exchange.address then reply.outcome action exchange.address
  else .error (unsent exchange.address)

end Service.Exchange

namespace Run

variable {α β : Type}

/-- Whether a thing can happen next in a run, which then goes on as another run. -/
def Step : Run α → Happening → Run α → Prop
  | .done _, _, _ => False
  | .fail _, _, _ => False
  | .readFile path next, h, r => ∃ content, h = .read path content ∧ r = next content
  | .readInput next, h, r => ∃ bytes, h = .input bytes ∧ r = next bytes
  | .send e next, h, r => ∃ reply, h = .sent e reply ∧ r = next reply
  | .ask q next, h, r =>
    (∃ a, q.Admits a ∧ h = .answered q a ∧ r = next (.ok a)) ∨
      ∃ why, h = .unanswered q why ∧ r = next (.error why)
  | .note n next, h, r => h = .noted n ∧ r = next
  | .writeFile path text next, h, r => ∃ outcome, h = .wrote path text outcome ∧ r = next outcome
  | .print text next, h, r => h = .printed text ∧ r = next

/-- Whether a run can have a log and end with a result then. -/
def Ends (r : Run α) : List Happening → Except Report α → Prop
  | [], x => r = ofReport x
  | h :: log, x => ∃ next, r.Step h next ∧ next.Ends log x

/-! ### One run after the other -/

theorem Step.bind {m m' : Run α} {h : Happening} (hs : m.Step h m') (f : α → Run β) :
    (m >>= f).Step h (m' >>= f) := by
  cases m with
  | done a => exact hs.elim
  | fail report => exact hs.elim
  | readFile path next =>
    obtain ⟨content, hh, rfl⟩ := hs
    exact ⟨content, hh, rfl⟩
  | readInput next =>
    obtain ⟨bytes, hh, rfl⟩ := hs
    exact ⟨bytes, hh, rfl⟩
  | send e next =>
    obtain ⟨reply, hh, rfl⟩ := hs
    exact ⟨reply, hh, rfl⟩
  | ask q next =>
    obtain ⟨a, hq, hh, rfl⟩ | ⟨why, hh, rfl⟩ := hs
    · exact .inl ⟨a, hq, hh, rfl⟩
    · exact .inr ⟨why, hh, rfl⟩
  | note n next =>
    obtain ⟨hh, rfl⟩ := hs
    exact ⟨hh, rfl⟩
  | writeFile path text next =>
    obtain ⟨outcome, hh, rfl⟩ := hs
    exact ⟨outcome, hh, rfl⟩
  | print text next =>
    obtain ⟨hh, rfl⟩ := hs
    exact ⟨hh, rfl⟩

theorem step_bind_cases {m : Run α} {f : α → Run β} {h : Happening} {r : Run β}
    (hs : (m >>= f).Step h r) :
    (∃ m', m.Step h m' ∧ r = (m' >>= f)) ∨ ∃ a, m = .done a ∧ (f a).Step h r := by
  cases m with
  | done a => exact .inr ⟨a, rfl, hs⟩
  | fail report => exact hs.elim
  | readFile path next =>
    obtain ⟨content, hh, rfl⟩ := hs
    exact .inl ⟨_, ⟨content, hh, rfl⟩, rfl⟩
  | readInput next =>
    obtain ⟨bytes, hh, rfl⟩ := hs
    exact .inl ⟨_, ⟨bytes, hh, rfl⟩, rfl⟩
  | send e next =>
    obtain ⟨reply, hh, rfl⟩ := hs
    exact .inl ⟨_, ⟨reply, hh, rfl⟩, rfl⟩
  | ask q next =>
    obtain ⟨a, hq, hh, rfl⟩ | ⟨why, hh, rfl⟩ := hs
    · exact .inl ⟨_, .inl ⟨a, hq, hh, rfl⟩, rfl⟩
    · exact .inl ⟨_, .inr ⟨why, hh, rfl⟩, rfl⟩
  | note n next =>
    obtain ⟨hh, rfl⟩ := hs
    exact .inl ⟨_, ⟨hh, rfl⟩, rfl⟩
  | writeFile path text next =>
    obtain ⟨outcome, hh, rfl⟩ := hs
    exact .inl ⟨_, ⟨outcome, hh, rfl⟩, rfl⟩
  | print text next =>
    obtain ⟨hh, rfl⟩ := hs
    exact .inl ⟨_, ⟨hh, rfl⟩, rfl⟩

theorem ends_done_iff (a b : α) (log : List Happening) :
    (Run.done a).Ends log (.ok b) ↔ log = [] ∧ b = a := by
  cases log with
  | nil => simp [Ends, ofReport, eq_comm]
  | cons h log => simp [Ends, Step]

theorem ends_pure_iff (a b : α) (log : List Happening) :
    (pure a : Run α).Ends log (.ok b) ↔ log = [] ∧ b = a := ends_done_iff a b log

theorem Ends.bind {m : Run α} {f : α → Run β} {a : α} {x : Except Report β}
    {log log' : List Happening} (hm : m.Ends log (.ok a)) (hf : (f a).Ends log' x) :
    (m >>= f).Ends (log ++ log') x := by
  induction log generalizing m with
  | nil =>
    have hdone : m = .done a := hm
    rw [hdone]
    exact hf
  | cons h log ih =>
    obtain ⟨next, hs, hnext⟩ := hm
    exact ⟨_, hs.bind f, ih hnext⟩

theorem eq_done_of_bind_eq_done {m : Run α} {f : α → Run β} {b : β}
    (h : (m >>= f) = .done b) : ∃ a, m = .done a ∧ f a = .done b := by
  change m.bind f = .done b at h
  cases m with
  | done a => exact ⟨a, rfl, h⟩
  | _ => cases h

/-- The log of two runs, one after the other, is the log of the first before that of the second. -/
theorem ends_bind_iff (m : Run α) (f : α → Run β) (log : List Happening) (b : β) :
    (m >>= f).Ends log (.ok b) ↔
      ∃ a log₁ log₂, m.Ends log₁ (.ok a) ∧ (f a).Ends log₂ (.ok b) ∧ log = log₁ ++ log₂ := by
  constructor
  · intro h
    induction log generalizing m with
    | nil =>
      obtain ⟨a, rfl, hf⟩ := eq_done_of_bind_eq_done h
      exact ⟨a, [], [], rfl, hf, rfl⟩
    | cons e log ih =>
      obtain ⟨next, hs, hnext⟩ := h
      obtain ⟨m', hm, rfl⟩ | ⟨a, rfl, hf⟩ := step_bind_cases hs
      · obtain ⟨a, log₁, log₂, h₁, h₂, rfl⟩ := ih m' hnext
        exact ⟨a, e :: log₁, log₂, ⟨m', hm, h₁⟩, h₂, rfl⟩
      · exact ⟨a, [], e :: log, rfl, ⟨next, hf, hnext⟩, rfl⟩
  · rintro ⟨a, log₁, log₂, h₁, h₂, rfl⟩
    exact h₁.bind h₂

/-! ### The logs of single steps -/

theorem ends_iff_exists_step (r : Run α) (log : List Happening) (x : Except Report α)
    (hr : r ≠ ofReport x) :
    r.Ends log x ↔ ∃ h next rest, r.Step h next ∧ next.Ends rest x ∧ log = h :: rest := by
  cases log with
  | nil =>
    refine ⟨fun h => absurd h hr, ?_⟩
    rintro ⟨h, next, rest, -, -, hlog⟩
    cases hlog
  | cons e log =>
    constructor
    · rintro ⟨next, hs, hnext⟩
      exact ⟨e, next, log, hs, hnext, rfl⟩
    · rintro ⟨h, next, rest, hs, hnext, hlog⟩
      obtain ⟨rfl, rfl⟩ := List.cons.inj hlog
      exact ⟨next, hs, hnext⟩

theorem ends_tell_bind_iff (n : Note) (f : Unit → Run β) (log : List Happening) (b : β) :
    (tell n >>= f).Ends log (.ok b) ↔ ∃ rest, (f ()).Ends rest (.ok b) ∧ log = .noted n :: rest := by
  rw [ends_iff_exists_step _ log (.ok b) fun h => by cases h]
  constructor
  · rintro ⟨_, _, rest, ⟨rfl, rfl⟩, hnext, rfl⟩
    exact ⟨rest, hnext, rfl⟩
  · rintro ⟨rest, hnext, rfl⟩
    exact ⟨_, _, rest, ⟨rfl, rfl⟩, hnext, rfl⟩

theorem ends_ofReport_iff (x : Except Report α) (a : α) (log : List Happening) :
    (ofReport x).Ends log (.ok a) ↔ x = .ok a ∧ log = [] := by
  cases x with
  | error r => cases log <;> simp [ofReport, Ends, Step]
  | ok b =>
    rw [ofReport, ends_done_iff, Except.ok.injEq]
    exact ⟨fun ⟨hlog, ha⟩ => ⟨ha.symm, hlog⟩, fun ⟨ha, hlog⟩ => ⟨hlog, ha.symm⟩⟩

theorem ends_ofReport_bind_iff (x : Except Report α) (f : α → Run β) (log : List Happening)
    (b : β) :
    (ofReport x >>= f).Ends log (.ok b) ↔ ∃ a, x = .ok a ∧ (f a).Ends log (.ok b) := by
  rw [ends_bind_iff]
  constructor
  · rintro ⟨a, log₁, log₂, h₁, h₂, rfl⟩
    obtain ⟨hx, rfl⟩ := (ends_ofReport_iff x a log₁).mp h₁
    exact ⟨a, hx, h₂⟩
  · rintro ⟨a, hx, h⟩
    exact ⟨a, [], log, (ends_ofReport_iff x a []).mpr ⟨hx, rfl⟩, h, rfl⟩

theorem exists_ofFault_eq (x : Except Fault α) :
    ∃ y, ofFault x = ofReport y ∧ ∀ a, y = .ok a ↔ x = .ok a := by
  cases x with
  | error fault =>
    refine ⟨.error (Report.ofFault fault), rfl, fun a => ⟨fun h => ?_, fun h => ?_⟩⟩
    · cases h
    · cases h
  | ok b => exact ⟨.ok b, rfl, fun a => by simp⟩

theorem ends_ofFault_iff (x : Except Fault α) (a : α) (log : List Happening) :
    (ofFault x).Ends log (.ok a) ↔ x = .ok a ∧ log = [] := by
  obtain ⟨y, hy, hok⟩ := exists_ofFault_eq x
  rw [hy, ends_ofReport_iff, hok]

theorem ends_ofFault_bind_iff (x : Except Fault α) (f : α → Run β) (log : List Happening) (b : β) :
    (ofFault x >>= f).Ends log (.ok b) ↔ ∃ a, x = .ok a ∧ (f a).Ends log (.ok b) := by
  obtain ⟨y, hy, hok⟩ := exists_ofFault_eq x
  simp only [hy, ends_ofReport_bind_iff, hok]

theorem ends_answer_bind_iff (q : Prompt.Question) (f : q.Answer → Run β) (log : List Happening)
    (b : β) :
    (answer q >>= f).Ends log (.ok b) ↔
      ∃ a, q.Admits a ∧ ∃ rest, (f a).Ends rest (.ok b) ∧ log = .answered q a :: rest := by
  rw [ends_iff_exists_step _ log (.ok b) fun h => by cases h]
  constructor
  · rintro ⟨_, _, rest, ⟨a, hq, rfl, rfl⟩ | ⟨why, rfl, rfl⟩, hnext, rfl⟩
    · exact ⟨a, hq, rest, hnext, rfl⟩
    · -- a question without an answer fails the run
      cases rest with
      | nil => cases hnext
      | cons _ _ => exact hnext.elim fun _ h => h.1.elim
  · rintro ⟨a, hq, rest, hnext, rfl⟩
    exact ⟨_, _, rest, .inl ⟨a, hq, rfl, rfl⟩, hnext, rfl⟩

theorem ends_entry_bind_iff (e : Prompt.Entry) (f : String → Run β) (log : List Happening) (b : β) :
    (answer (.entry e) >>= f).Ends log (.ok b) ↔
      ∃ text : String, e.Admits text ∧ ∃ rest, (f text).Ends rest (.ok b) ∧
        log = .answered (.entry e) text :: rest :=
  ends_answer_bind_iff (.entry e) f log b

theorem ends_source_bind_iff (path : String) (f : String → Run β) (log : List Happening) (b : β) :
    (source path >>= f).Ends log (.ok b) ↔
      ∃ (h : Happening) (text : String), h.Gives path text ∧
        ∃ rest, (f text).Ends rest (.ok b) ∧ log = h :: rest := by
  unfold source Happening.Gives
  by_cases hpath : Source.isStandardInput path = true
  · simp only [if_pos hpath]
    rw [ends_iff_exists_step _ log (.ok b) fun h => by cases h]
    constructor
    · rintro ⟨_, _, rest, ⟨bytes, rfl, rfl⟩, hnext, rfl⟩
      obtain ⟨text, htext, hrest⟩ := (ends_ofReport_bind_iff _ f rest b).mp hnext
      exact ⟨_, text, ⟨bytes, rfl, htext⟩, rest, hrest, rfl⟩
    · rintro ⟨_, text, ⟨bytes, rfl, htext⟩, rest, hrest, rfl⟩
      have hnext := (ends_ofReport_bind_iff _ f rest b).mpr ⟨text, htext, hrest⟩
      exact ⟨_, _, rest, ⟨bytes, rfl, rfl⟩, hnext, rfl⟩
  · simp only [if_neg hpath]
    rw [ends_iff_exists_step _ log (.ok b) fun h => by cases h]
    constructor
    · rintro ⟨_, _, rest, ⟨content, rfl, rfl⟩, hnext, rfl⟩
      obtain ⟨text, htext, hrest⟩ := (ends_ofReport_bind_iff _ f rest b).mp hnext
      exact ⟨_, text, ⟨content, rfl, htext⟩, rest, hrest, rfl⟩
    · rintro ⟨_, text, ⟨content, rfl, htext⟩, rest, hrest, rfl⟩
      have hnext := (ends_ofReport_bind_iff _ f rest b).mpr ⟨text, htext, hrest⟩
      exact ⟨_, _, rest, ⟨content, rfl, rfl⟩, hnext, rfl⟩

/-- The log of posting is what went out with the reply to it. -/
theorem ends_post_iff (action : Service.Action) (address : Url) (payload : List Char)
    (outcome : Except Fault String) (log : List Happening) :
    (post action address payload).Ends log (.ok outcome) ↔
      ∃ reply, outcome = Service.Exchange.outcome action ⟨address, payload⟩ reply ∧
        log = (Service.Exchange.posted ⟨address, payload⟩ reply).map fun sent =>
          .sent sent.1 sent.2 := by
  unfold post Service.Exchange.outcome Service.Exchange.posted
  cases Service.canPost address with
  | false =>
    simp only [Bool.false_eq_true, if_false, ends_done_iff, List.map_nil]
    exact ⟨fun ⟨hlog, houtcome⟩ => ⟨.refused, houtcome, hlog⟩,
      fun ⟨_, houtcome, hlog⟩ => ⟨hlog, houtcome⟩⟩
  | true =>
    simp only [if_true]
    rw [ends_iff_exists_step _ log (.ok outcome) fun h => by cases h]
    constructor
    · rintro ⟨_, _, rest, ⟨reply, rfl, rfl⟩, hnext, rfl⟩
      obtain ⟨rfl, rfl⟩ := (ends_done_iff _ outcome rest).mp hnext
      exact ⟨reply, rfl, rfl⟩
    · rintro ⟨reply, houtcome, rfl⟩
      exact ⟨_, _, [], ⟨reply, rfl, rfl⟩, (ends_done_iff _ outcome []).mpr ⟨rfl, houtcome⟩, rfl⟩

/-! ### Logs of runs in a world -/

/-- What happens when a run is played in a world. -/
def record (w : World) : Supply → Run α → List Happening
  | _, .done _ => []
  | _, .fail _ => []
  | s, .readFile path next => .read path (w.file path) :: record w s (next (w.file path))
  | s, .readInput next => .input s.input :: record w { s with input := [] } (next s.input)
  | s, .send e next => .sent e (w.service e) :: record w s (next (w.service e))
  | s, .ask q next =>
    match (s.answer q).1 with
    | .ok a => .answered q a :: record w (s.answer q).2 (next (.ok a))
    | .error why => .unanswered q why :: record w (s.answer q).2 (next (.error why))
  | s, .note n next => .noted n :: record w s next
  | s, .writeFile path text next =>
    match w.refusal? path with
    | some f => .wrote path text (.error f) :: record w s (next (.error f))
    | none => .wrote path text (.ok ()) :: record w s (next (.ok ()))
  | s, .print text next => .printed text :: record w s next

theorem admits_of_answer (s : Supply) (q : Prompt.Question) (a : q.Answer)
    (h : (s.answer q).1 = .ok a) : q.Admits a := by
  unfold Supply.answer at h
  split at h
  · cases h
  · rename_i keys _
    split at h
    · cases h
    · rename_i b rest hb
      have hba : b = a := Except.ok.inj h
      exact hba ▸ q.admits_of_answer? b keys rest hb

/-- A run that is played has its log and ends as it does, and what is seen of it is in the log. -/
theorem record_ends (w : World) (s : Supply) (r : Run α) :
    r.Ends (record w s r) (play w s r).result ∧
      (record w s r).filterMap Happening.event? = (play w s r).events := by
  induction r generalizing s with
  | done a => exact ⟨rfl, rfl⟩
  | fail report => exact ⟨rfl, rfl⟩
  | readFile path next ih => exact ⟨⟨_, ⟨_, rfl, rfl⟩, (ih _ s).1⟩, (ih _ s).2⟩
  | readInput next ih => exact ⟨⟨_, ⟨_, rfl, rfl⟩, (ih _ _).1⟩, (ih _ _).2⟩
  | send e next ih =>
    exact ⟨⟨_, ⟨_, rfl, rfl⟩, (ih _ s).1⟩, congrArg (Event.sent e (w.service e) :: ·) (ih _ s).2⟩
  | ask q next ih =>
    have hnext := ih (s.answer q).1 (s.answer q).2
    rw [record, play]
    split
    · rename_i a ha
      rw [ha] at hnext ⊢
      exact ⟨⟨_, .inl ⟨a, admits_of_answer s q a ha, rfl, rfl⟩, hnext.1⟩, hnext.2⟩
    · rename_i why hwhy
      rw [hwhy] at hnext ⊢
      exact ⟨⟨_, .inr ⟨why, rfl, rfl⟩, hnext.1⟩, hnext.2⟩
  | note n next ih => exact ⟨⟨_, ⟨rfl, rfl⟩, (ih s).1⟩, congrArg (Event.noted n :: ·) (ih s).2⟩
  | writeFile path text next ih =>
    cases hrefusal : w.refusal? path with
    | some f =>
      simp only [record, play, hrefusal]
      exact ⟨⟨_, ⟨_, rfl, rfl⟩, (ih _ s).1⟩, (ih _ s).2⟩
    | none =>
      simp only [record, play, hrefusal]
      exact ⟨⟨_, ⟨_, rfl, rfl⟩, (ih _ s).1⟩, congrArg (Event.wrote path text :: ·) (ih _ s).2⟩
  | print text next ih =>
    exact ⟨⟨_, ⟨rfl, rfl⟩, (ih s).1⟩, congrArg (Event.printed text :: ·) (ih s).2⟩

end Run
end ScriptPress
