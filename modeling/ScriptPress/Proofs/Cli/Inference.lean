import ScriptPress.Cli.Scripts

/-!
# The two ways to a body

`generate` reads example files into a session and asks the service for a body; `render` reads the
body from a file. Here both are taken apart into the reading of the files and the request that is
emitted at the end. Main statements: `Cli.generate_eq` and `Cli.render_eq`.
-/
namespace ScriptPress

namespace Session

/-- The session with example pairs, from the pair with a number on. -/
def withPairs (i : Nat) (s : Session) : List (String × String) → Session
  | [] => s
  | (before, after) :: rest =>
    let grown := if i = 0 then s else s.addExample
    withPairs (i + 1) ((grown.editInput i before).editOutput i after) rest

/-- Example pairs change nothing but the examples and the revision. -/
theorem withPairs_frame (i : Nat) (s : Session) (pairs : List (String × String)) :
    ∃ examples revision,
      s.withPairs i pairs = { s with examples := examples, revision := revision } := by
  induction pairs generalizing i s with
  | nil => exact ⟨s.examples, s.revision, rfl⟩
  | cons pair rest ih =>
    obtain ⟨before, after⟩ := pair
    by_cases hi : i = 0
    · obtain ⟨examples, revision, h⟩ := ih (i + 1) ((s.editInput i before).editOutput i after)
      rw [withPairs, if_pos hi, h]
      exact ⟨examples, revision, rfl⟩
    · obtain ⟨examples, revision, h⟩ :=
        ih (i + 1) ((s.addExample.editInput i before).editOutput i after)
      rw [withPairs, if_neg hi, h]
      exact ⟨examples, revision, rfl⟩

end Session

namespace Cli

def readSources : List (String × String) → Run (List (String × String))
  | [] => .done []
  | (input, expected) :: rest => do
    let before ← Run.source input
    let after ← Run.source expected
    let pairs ← readSources rest
    return (before, after) :: pairs

/-- The edits of the session do not stand in the way of the reading. -/
theorem readPairs_eq (i : Nat) (s : Session) (files : List (String × String)) :
    readPairs i s files =
      (readSources files >>= fun pairs => Run.done (s.withPairs i pairs)) := by
  induction files generalizing i s with
  | nil => rfl
  | cons file rest ih =>
    obtain ⟨input, expected⟩ := file
    rw [readPairs, readSources, Run.bind_assoc]
    apply congrArg (Run.source input >>= ·)
    funext before
    rw [Run.bind_assoc]
    apply congrArg (Run.source expected >>= ·)
    funext after
    rw [Run.bind_assoc, ih]
    apply congrArg (readSources rest >>= ·)
    funext pairs
    rfl

/-! ### Requests -/

/-- The request that `generate` emits, of a session with its examples and the inferred body. -/
def inferredRequest (f : Fields) (filled : Session) (body : String) : Request :=
  f.over (filled.acceptBody filled.bodyQuery.1 body).2.request

/-- The request that `render` emits, of the options and the text of a body file alone. -/
def givenRequest (f : Fields) (body : String) : Request :=
  { f.over Request.blank with body := body }

theorem inferredRequest_eq (f : Fields) (filled : Session) (body : String) :
    inferredRequest f filled body = { f.over filled.request with body := body } := by
  rw [inferredRequest, Session.bodyQuery, Session.acceptBody_revision]
  rfl

/-! ### Runs -/

section generate

variable (f : Fields) (id : String) (inputs expected : List String) (endpoint : String)

theorem generate_of_resolve_error (fault : Fault) (hid : f.language = some id)
    (hl : Language.resolve id = .error fault) :
    generate f inputs expected endpoint = .fail (.ofFault fault) := by
  simp only [generate, hid, hl, Run.ofFault, Run.done_bind, Run.fail_bind]

theorem generate_of_session_error (l : Language) (fault : Fault) (hid : f.language = some id)
    (hl : Language.resolve id = .ok l) (hlength : inputs.length = expected.length)
    (hs : sessionOf l f.extension = .error fault) :
    generate f inputs expected endpoint = .fail (.ofFault fault) := by
  have hpaired : ¬inputs.length ≠ expected.length := not_not_intro hlength
  simp only [generate, hid, hl, hs, Run.ofFault, Run.done_bind, if_neg hpaired, Run.fail_bind]

/-- Once the options are accepted, `generate` reads, asks, and emits the request of the answer. -/
theorem generate_eq (l : Language) (s : Session) (hid : f.language = some id)
    (hl : Language.resolve id = .ok l) (hlength : inputs.length = expected.length)
    (hs : sessionOf l f.extension = .ok s) :
    generate f inputs expected endpoint = (do
      let pairs ← readSources (inputs.zip expected)
      let e ← Run.ofFault (Service.Endpoint.ofText endpoint)
      let address := e.address l .inferBody
      Run.tell (.status ("Generating snippet via " ++ Service.addressText address))
      let outcome ← Run.post .inferBody address (s.withPairs 0 pairs).bodyQuery.2.payload
      warnOf outcome
      emit (inferredRequest f (s.withPairs 0 pairs) (Service.bodyOrEmpty outcome)) f.output) := by
  have hpaired : ¬inputs.length ≠ expected.length := not_not_intro hlength
  have hresolved : Run.ofFault (Language.resolve id) = .done l := by
    rw [hl]
    rfl
  have hsession : Run.ofFault (sessionOf l f.extension) = .done s := by
    rw [hs]
    rfl
  simp only [generate, hid, hresolved, hsession, Run.done_bind, if_neg hpaired, readPairs_eq,
    Run.bind_assoc]
  rfl

end generate

/-- With a language and a body file but no request file, `render` reads the body and emits it with
the options. -/
theorem render_eq (f : Fields) (id path : String) (hid : f.language = some id)
    (hblank : Text.trimmed id ≠ "") :
    render f ⟨none, some path⟩ =
      (Run.source path >>= fun body => emit (givenRequest f body) f.output) := by
  have hnames : namesLanguage (f.over Request.blank) = true := by
    simp [namesLanguage, Fields.over, hid, hblank]
  simp only [render, requestOf, Run.done_bind, hnames, Bool.not_true, Bool.false_eq_true, if_false,
    Run.bind_assoc, Run.pure_bind]
  rfl

end Cli
end ScriptPress
