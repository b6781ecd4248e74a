import ScriptPress.Service.Exchange

/-!
# What a reply gives

Which addresses can be posted to, and what comes of a reply. Main statement: a reply has a result
exactly if it is a success whose answer can be read and tells of no error, and then the result is
what the answer holds.
-/
namespace ScriptPress.Service

/-! ### Addresses -/

/-- A valid address of the web, which is one that a request can be made to. A double quote, a
backtick and braces may stand in a host that can be read, but no request can name such a host, so it
does not count as valid; neither does an address that is longer than a request can hold. -/
structure IsWebAddress (u : Url) : Prop where
  scheme : u.scheme = "http".toList ∨ u.scheme = "https".toList
  host : ∃ host, u.authority.bind Url.Authority.host = some host ∧
    ∀ c ∈ host.text, c ∉ ['"', '\x60', '\x7b', '\x7d']
  fits : (shownAddress u).text.length ≤ 65534

theorem canPost_iff (u : Url) : canPost u = true ↔ IsWebAddress u := by
  have hhost : (u.authority.bind Url.Authority.host).any (fun host => !host.text.any isUnsendable) =
      true ↔ ∃ host, u.authority.bind Url.Authority.host = some host ∧
        ∀ c ∈ host.text, c ∉ ['"', '\x60', '\x7b', '\x7d'] := by
    cases u.authority.bind Url.Authority.host with
    | none => simp
    | some host => simp [isUnsendable, and_assoc]
  unfold canPost
  rw [Bool.and_eq_true, Bool.and_eq_true, Bool.or_eq_true, beq_iff_eq, beq_iff_eq,
    decide_eq_true_eq, hhost]
  exact ⟨fun ⟨⟨hscheme, hnamed⟩, hfits⟩ => ⟨hscheme, hnamed, hfits⟩,
    fun ⟨hscheme, hnamed, hfits⟩ => ⟨⟨hscheme, hnamed⟩, hfits⟩⟩

theorem Endpoint.exists_web (text : String) (l : Language) (action : Action)
    (h : (Endpoint.ofText text).toOption.any (fun e => canPost (e.address l action)) = true) :
    ∃ e, Endpoint.ofText text = .ok e ∧ IsWebAddress (e.address l action) := by
  cases hread : Endpoint.ofText text with
  | error fault =>
    rw [hread] at h
    cases h
  | ok e =>
    rw [hread] at h
    exact ⟨e, rfl, (canPost_iff _).mp h⟩

/-! ### Replies -/

/-- A reply gives a text: its status is a success, its answer can be read, the error is missing or
empty, and the text is the result, or empty if that is missing. -/
def Reply.Gives (action : Action) (reply : Reply) (text : String) : Prop :=
  ∃ status bytes answer, reply = .answered status bytes ∧ (200 ≤ status ∧ status ≤ 299) ∧
    Answer.ofBytes? action bytes = some answer ∧ (answer.error = none ∨ answer.error = some "") ∧
    text = answer.result.getD ""

theorem Reply.Gives.unique {action : Action} {reply : Reply} {text other : String}
    (h : reply.Gives action text) (h' : reply.Gives action other) : text = other := by
  obtain ⟨_, _, answer, hanswered, -, hread, -, htext⟩ := h
  obtain ⟨_, _, answer', hanswered', -, hread', -, hother⟩ := h'
  obtain ⟨rfl, rfl⟩ := Reply.answered.inj (hanswered.symm.trans hanswered')
  have hsame : answer = answer' := Option.some.inj (hread.symm.trans hread')
  rw [htext, hother, hsame]

theorem Answer.outcome_eq_ok_iff (a : Answer) (text : String) :
    a.outcome = .ok text ↔ (a.error = none ∨ a.error = some "") ∧ text = a.result.getD "" := by
  unfold outcome
  cases a.error with
  | none => simp [eq_comm]
  | some error =>
    by_cases h : error = ""
    · simp [h, eq_comm]
    · simp [h]

theorem isSuccess_iff (status : Nat) : isSuccess status = true ↔ 200 ≤ status ∧ status ≤ 299 := by
  unfold isSuccess
  rw [Bool.and_eq_true, decide_eq_true_eq, decide_eq_true_eq]
  omega

theorem Reply.not_gives_refused (action : Action) (text : String) :
    ¬Reply.refused.Gives action text := by
  rintro ⟨_, _, _, hanswered, -⟩
  cases hanswered

theorem Reply.gives_answered_iff (action : Action) (status : Nat) (bytes : List UInt8)
    (text : String) :
    (Reply.answered status bytes).Gives action text ↔ (200 ≤ status ∧ status ≤ 299) ∧
      ∃ answer, Answer.ofBytes? action bytes = some answer ∧ answer.outcome = .ok text := by
  constructor
  · rintro ⟨_, _, answer, hanswered, hstatus, hread, hresult⟩
    obtain ⟨rfl, rfl⟩ := Reply.answered.inj hanswered
    exact ⟨hstatus, answer, hread, (answer.outcome_eq_ok_iff text).mpr hresult⟩
  · rintro ⟨hstatus, answer, hread, hresult⟩
    exact ⟨status, bytes, answer, rfl, hstatus, hread, (answer.outcome_eq_ok_iff text).mp hresult⟩

theorem Reply.outcome_eq_ok_iff (action : Action) (u : Url) (reply : Reply) (text : String) :
    reply.outcome action u = .ok text ↔ reply.Gives action text := by
  cases reply with
  | refused => exact ⟨nofun, fun h => absurd h (not_gives_refused action text)⟩
  | answered status bytes =>
    rw [gives_answered_iff, ← isSuccess_iff, outcome]
    cases isSuccess status with
    | false => simp
    | true =>
      cases Answer.ofBytes? action bytes with
      | none => simp
      | some answer => simp

/-- A reply to a question for a body stands for the body that it gives, and for the empty one if it
gives none. -/
def Reply.StandsFor (reply : Reply) (body : String) : Prop :=
  reply.Gives .inferBody body ∨ body = "" ∧ ∀ text, ¬reply.Gives .inferBody text

theorem Reply.standsFor_iff (u : Url) (reply : Reply) (body : String) :
    reply.StandsFor body ↔ body = bodyOrEmpty (reply.outcome .inferBody u) := by
  simp only [StandsFor, ← outcome_eq_ok_iff .inferBody u]
  cases reply.outcome .inferBody u with
  | ok given => simp [bodyOrEmpty, eq_comm]
  | error fault => simp [bodyOrEmpty]

end ScriptPress.Service
