import ScriptPress.Cli.Program
import ScriptPress.Proofs.Request.Assembly
import ScriptPress.Proofs.Run.Sequence

/-!
# Where a result goes

A result goes into a file or on the screen, in one last step of a run. Main statements: the step
fails exactly if the file cannot be written, and then it leaves nothing; else it leaves the result
and nothing else (`finished_deliver`, `finished_conclude`).
-/
namespace ScriptPress

/-- A result may go to a target: to the screen, or into a file that can be written. -/
def World.CanTake (w : World) (target : Option String) : Prop :=
  ∀ path, target = some path → w.refusal? path = none

theorem World.canTake_none (w : World) : w.CanTake none := nofun

theorem World.canTake_some_iff (w : World) (path : String) :
    w.CanTake (some path) ↔ w.refusal? path = none := by
  constructor
  · intro h
    exact h path rfl
  · intro h found hfound
    rw [← Option.some.inj hfound]
    exact h

namespace Cli

/-! ### Notes on the way -/

theorem play_warn_bind {α : Type} (w : World) (p : Supply) (texts : List String)
    (next : Unit → Run α) :
    Run.play w p (warn texts >>= next) =
      (Run.play w p (next ())).precededBy ((texts.map Note.warning).map .noted) := by
  induction texts with
  | nil => rfl
  | cons text rest ih => exact congrArg (Story.after · _) ih

theorem writesNothing_warn (texts : List String) : (warn texts).WritesNothing := by
  induction texts with
  | nil => exact Run.writesNothing_done ()
  | cons text rest ih => exact (Run.writesNothing_tell (.warning text)).bind fun _ => ih

theorem writesNothing_caution (texts : List String) : (caution texts).WritesNothing := by
  induction texts with
  | nil => exact Run.writesNothing_done ()
  | cons text rest ih => exact (Run.writesNothing_tell (.caution text)).bind fun _ => ih

/-! ### The last step -/

/-- What becomes of a result in the last step of a run: it is all that is left, unless it cannot go
where it should. -/
def Finished (w : World) (s : Story Unit) (before : String) (target : Option String)
    (text : String) : Prop :=
  (w.CanTake target ∧ s.result = .ok () ∧ s.remains = .ofText before target text) ∨
    (¬w.CanTake target ∧ (∃ r, s.result = .error r) ∧ s.remains = .nothing)

theorem Finished.precededBy {w : World} {s : Story Unit} {before text : String}
    {target : Option String} (h : Finished w s before target text) {earlier : List Event}
    (hnothing : Story.remains (⟨.ok (), earlier⟩ : Story Unit) = .nothing) :
    Finished w (s.precededBy earlier) before target text := by
  unfold Finished
  rw [Story.result_precededBy, Story.remains_precededBy s hnothing]
  exact h

theorem finished_write (w : World) (p : Supply) (before path text : String) (n : Note) :
    Finished w (Run.play w p (Run.write path text >>= fun _ => Run.tell n)) before (some path)
      text := by
  unfold Finished
  rw [w.canTake_some_iff path]
  cases hrefusal : w.refusal? path with
  | some fault =>
    have hplay : Run.play w p (Run.write path text >>= fun _ => Run.tell n) =
        ⟨.error (fault.whileWriting path), []⟩ := by
      show Run.play w p (.writeFile path text _) = _
      rw [Run.play, hrefusal]
      rfl
    rw [hplay]
    exact .inr ⟨Option.some_ne_none fault, ⟨_, rfl⟩, rfl⟩
  | none =>
    have hplay : Run.play w p (Run.write path text >>= fun _ => Run.tell n) =
        ⟨.ok (), [.wrote path text, .noted n]⟩ := by
      show Run.play w p (.writeFile path text _) = _
      rw [Run.play, hrefusal]
      rfl
    rw [hplay]
    exact .inl ⟨rfl, rfl, rfl⟩

theorem finished_deliver (w : World) (p : Supply) (target : Option String) (text : String) :
    Finished w (Run.play w p (deliver target text)) "" target text := by
  cases target with
  | some path => exact finished_write w p "" path text _
  | none =>
    have houtput : String.join [text ++ "\n"] = "" ++ text ++ "\n" := by simp
    exact .inl ⟨w.canTake_none, rfl, congrArg (Remains.mk · []) houtput⟩

theorem finished_conclude (w : World) (p : Supply) (target : Option String) (text : String) :
    Finished w (Run.play w p (conclude target text)) "\n" target text := by
  cases target with
  | some path => exact finished_write w p "\n" path text _
  | none =>
    have houtput : String.join ["", "\n" ++ text ++ "\n"] = "\n" ++ text ++ "\n" := by simp
    exact .inl ⟨w.canTake_none, rfl, congrArg (Remains.mk · []) houtput⟩

/-! ### Scripts as results -/

def delivery (w : World) (output : Option String) (text : String) : Story Unit :=
  match output with
  | none => ⟨.ok (), [.printed (text ++ "\n")]⟩
  | some path =>
    match w.refusal? path with
    | some fault => ⟨.error (fault.whileWriting path), []⟩
    | none => ⟨.ok (), [.wrote path text, .noted (.status ("Wrote " ++ path))]⟩

theorem play_deliver (w : World) (p : Supply) (output : Option String) (text : String) :
    Run.play w p (deliver output text) = delivery w output text := by
  cases output with
  | none => rfl
  | some path =>
    show Run.play w p (.writeFile path text _) = _
    rw [Run.play, delivery]
    cases w.refusal? path with
    | some fault => rfl
    | none => rfl

theorem result_delivery (w : World) (output : Option String) (text other : String) :
    (delivery w output text).result = (delivery w output other).result := by
  cases output with
  | none => rfl
  | some path =>
    simp only [delivery]
    cases w.refusal? path with
    | some fault => rfl
    | none => rfl

def emission (w : World) (r : Request) (output : Option String) : Story Unit :=
  match r.assemble with
  | .ok snippet => (delivery w output snippet.text).precededBy
      ((snippet.warnings.map Note.warning).map .noted)
  | .error fault => ⟨.error (.ofFault fault), []⟩

theorem play_emit (w : World) (p : Supply) (r : Request) (output : Option String) :
    Run.play w p (emit r output) = emission w r output := by
  unfold emit emission
  rw [Run.play_ofFault_bind]
  cases r.assemble with
  | error fault => rfl
  | ok snippet =>
    dsimp only
    rw [play_warn_bind, play_deliver]

theorem play_emit_eq_ok_iff (w : World) (p : Supply) (r : Request) (output : Option String) :
    (Run.play w p (emit r output)).result = .ok () ↔
      (∃ snippet, r.assemble = .ok snippet) ∧ w.CanTake output := by
  rw [play_emit, emission]
  cases r.assemble with
  | error fault => simp
  | ok snippet =>
    have hfinished := finished_deliver w p output snippet.text
    rw [play_deliver] at hfinished
    obtain ⟨htake, hresult, -⟩ | ⟨htake, ⟨report, hresult⟩, -⟩ := hfinished
    · simp [htake, hresult, Story.result_precededBy]
    · simp [htake, hresult, Story.result_precededBy]

theorem remains_of_emit_eq_ok {w : World} {p : Supply} {r : Request} {output : Option String}
    (h : (Run.play w p (emit r output)).result = .ok ()) :
    ∃ snippet, r.assemble = .ok snippet ∧
      (Run.play w p (emit r output)).remains = .ofText "" output snippet.text := by
  obtain ⟨⟨snippet, hassembled⟩, htake⟩ := (play_emit_eq_ok_iff w p r output).mp h
  refine ⟨snippet, hassembled, ?_⟩
  have hnotes := (Story.of_notes (.ok () : Except Report Unit)
    (snippet.warnings.map Note.warning)).1
  rw [play_emit, emission, hassembled]
  dsimp only
  rw [Story.remains_precededBy _ hnotes, ← play_deliver w p]
  obtain ⟨-, -, hremains⟩ | ⟨hrefused, -, -⟩ := finished_deliver w p output snippet.text
  · exact hremains
  · exact absurd htake hrefused

/-- The body of a script has no say in how emitting it ends. -/
theorem result_emit_withBody (w : World) (p : Supply) (r : Request) (body : String)
    (output : Option String) :
    (Run.play w p (emit { r with body := body } output)).result =
      (Run.play w p (emit r output)).result := by
  rw [play_emit, play_emit, emission, emission, Request.assemble_withBody]
  cases r.assemble with
  | error fault => rfl
  | ok snippet => exact result_delivery w output _ _

end Cli
end ScriptPress
